import DockCheck.Proofs.Text.LowerCase
import DockCheck.Proofs.Tool.Alike

/-!
# Tools in any letter case

The patterns of the built-in tools are read without regard to letter case, and no version holds a
letter.  So a text that is written with other ASCII letters in capitals (`SameButCase`) mentions the
same versions.

The main statement, `Builtin.checkTool_of_sameButCase`, says that the check of a built-in tool comes
to the same result for both texts, whatever is allowed and however versions are compared.
-/

namespace DockCheck

open Text (asciiLower capitals)

/-- The texts are the same but for the case of ASCII letters. -/
def Text.SameButCase (t u : Text) : Prop := t.map asciiLower = u.map asciiLower

instance (t u : Text) : Decidable (Text.SameButCase t u) := inferInstanceAs (Decidable (_ = _))

lemma Text.SameButCase.forall₂ {t u : Text} (h : t.SameButCase u) :
    List.Forall₂ (fun c d => asciiLower c = asciiLower d) t u := by
  rw [Text.SameButCase, ← List.forall₂_eq_eq_eq, List.forall₂_map_left_iff,
    List.forall₂_map_right_iff] at h
  exact h

/-- Does the test give the same answer for each capital and its small letter? -/
def Pattern.CharTest.blursCase (test : CharTest) : Bool :=
  capitals.all fun c => test.holds (asciiLower c) == test.holds c

lemma blurs_asciiLower :
    Pattern.Blurs (fun c d => asciiLower c = asciiLower d) Pattern.CharTest.blursCase where
  holds_eq htest h := Text.apply_eq_of_asciiLower_eq htest h
  isWord_eq ascii c d h := by
    refine Text.apply_eq_of_asciiLower_eq (p := Pattern.CharKind.word.holds ascii) ?_ h
    cases ascii <;> decide +kernel
  feed_iff {c d} h := by
    have hfeed : (c == '\n') = (d == '\n') :=
      Text.apply_eq_of_asciiLower_eq (p := (· == '\n')) (by decide +kernel) h
    simpa using Bool.eq_iff_iff.mp hfeed

/-- Digits and dots have no other case. -/
lemma eq_of_asciiLower_eq_of_isDigit_or_dot {c d : Char} (h : asciiLower c = asciiLower d)
    (hc : Text.isDigit c ∨ c = '.') : d = c := by
  have hc : Text.isDigit c || c == '.' := by simpa using hc
  exact Text.eq_of_asciiLower_eq (p := fun e => Text.isDigit e || e == '.')
    (by decide +kernel) hc h

namespace Builtin

variable {spec : ToolSpec} {t u : Text}

/-- No pattern of a built-in tool tells a letter from its other case. -/
lemma testsOnly_blursCase :
    ∀ spec ∈ tools, ∀ pattern ∈ spec.patterns,
      pattern.body.testsOnly Pattern.CharTest.blursCase := by
  decide +kernel

/-- In a text that is the same but for the case of ASCII letters, a built-in tool is found in the
same version. -/
lemma extractVersion_of_sameButCase (hspec : spec ∈ tools) (h : t.SameButCase u) :
    extractVersion spec.patterns t = extractVersion spec.patterns u :=
  extractVersion_eq_of_forall₂ blurs_asciiLower
    (fun _ _ => eq_of_asciiLower_eq_of_isDigit_or_dot) hspec (testsOnly_blursCase spec hspec)
    h.forall₂

/-- If a text is the same as another one but for the case of ASCII letters, it mentions a built-in
tool exactly if the other one does, and in the same version.  So the check of the tool comes to the
same result for both. -/
theorem checkTool_of_sameButCase (hspec : spec ∈ tools) (h : t.SameButCase u) :
    (∃ found, extractVersion spec.patterns t = .ok found
        ∧ extractVersion spec.patterns u = .ok found)
      ∧ ∀ precision policy allowed, ∃ result,
        checkTool precision policy allowed spec t = .ok result
          ∧ checkTool precision policy allowed spec u = .ok result := by
  obtain ⟨found, hfound⟩ := exists_extractVersion hspec t
  have hother : extractVersion spec.patterns u = .ok found := by
    rw [← extractVersion_of_sameButCase hspec h, hfound]
  refine ⟨⟨found, hfound, hother⟩, fun precision policy allowed => ?_⟩
  unfold checkTool
  rw [hfound, hother]
  cases found with
  | none => exact ⟨_, rfl, rfl⟩
  | some raw => exact ⟨_, rfl, rfl⟩

/-- The word of a vendor in mixed case. -/
theorem checkTool_of_sameButCase_java :
    let t : Text := "apt-get install openjdk-17-jdk"
    let u : Text := "APT-get install OpenJDK-17-JDK"
    java ∈ tools ∧ t.SameButCase u ∧ t ≠ u
      ∧ extractVersion java.patterns u = .ok (some "17")
      ∧ checkTool .truncated .exact ["17"] java u = .ok (.valid "Java" "17") := by
  intro t u
  have hspec : java ∈ tools := List.mem_cons_self
  have hcase : t.SameButCase u := by decide +kernel
  obtain ⟨⟨found, hfound, hother⟩, hcheck⟩ := checkTool_of_sameButCase hspec hcase
  obtain ⟨result, hresult, hsame⟩ := hcheck .truncated .exact ["17"]
  have hversion : extractVersion java.patterns t = .ok (some "17") := by decide +kernel
  have hvalid : checkTool .truncated .exact ["17"] java t = .ok (.valid "Java" "17") := by
    decide +kernel
  refine ⟨hspec, hcase, by decide, ?_, ?_⟩
  · rw [hother, ← hfound, hversion]
  · rw [hsame, ← hresult, hvalid]

end Builtin

end DockCheck
