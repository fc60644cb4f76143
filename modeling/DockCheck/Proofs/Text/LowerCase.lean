import DockCheck.Text.CaseVariants
import Mathlib.Tactic.Common

/-!
# Characters with a given lower case

The table of lower cases can be read the other way round: `mem_lowerSources` says that whatever has
a code point as its lower case is listed by `lowerSources`.  So the tests of a pattern that is read
without regard to letter case can be told for all characters at once, as `lowerCode_eq_iff` does for
most of the ASCII letters.
-/

namespace DockCheck.Text

variable {runs : List CaseRun} {n m : Nat} {c d : Char}

/-- What goes to a code point stays where it is, or stands in a run that goes there. -/
lemma CaseRun.mem_sources_of_apply_eq (h : CaseRun.apply runs n = m) (hm : 0 < m) :
    n = m ∨ n ∈ CaseRun.sources runs m := by
  induction runs with
  | nil => exact Or.inl h
  | cons run runs ih =>
    rw [CaseRun.apply] at h
    by_cases hbelow : n < run.first
    · rw [if_pos hbelow] at h
      exact Or.inl h
    · rw [if_neg hbelow] at h
      by_cases hrun : run.holds n
      · rw [if_pos hrun] at h
        -- The code point is not zero, so nothing is cut off where it is reached.
        have hsource : ((m : Int) - run.shift) = n := by omega
        refine Or.inr (List.mem_filterMap.mpr ⟨run, List.mem_cons_self, ?_⟩)
        simp [hsource, hrun]
      · rw [if_neg hrun] at h
        refine (ih h).imp_right fun hmem => ?_
        obtain ⟨other, hother, hsource⟩ := List.mem_filterMap.mp hmem
        exact List.mem_filterMap.mpr ⟨other, List.mem_cons_of_mem run hother, hsource⟩

/-- Whatever has a code point as its lower case is one of the sources of that code point. -/
lemma mem_lowerSources (h : lowerCode n = m) (hm : 0 < m) : n ∈ lowerSources m := by
  rw [lowerSources, List.mem_append]
  rcases CaseRun.mem_sources_of_apply_eq h hm with rfl | hmem
  · exact Or.inl (by simp [h])
  · exact Or.inr hmem

/-! ### ASCII letters -/

/-- The ASCII capitals by their code points. -/
lemma isCapital_iff : ('A' ≤ c && c ≤ 'Z') = true ↔ 65 ≤ c.toNat ∧ c.toNat ≤ 90 := by
  rw [Bool.and_eq_true, decide_eq_true_iff, decide_eq_true_iff]
  exact Iff.rfl

/-- Only a small letter and its capital become the small letter. -/
lemma asciiLower_eq_iff (hd : 97 ≤ d.toNat) (hd' : d.toNat ≤ 122) :
    asciiLower c = d ↔ c.toNat = d.toNat ∨ c.toNat = d.toNat - 32 := by
  rw [asciiLower, ← Char.toNat_inj]
  by_cases h : 65 ≤ c.toNat ∧ c.toNat ≤ 90
  · have hcode : (Char.ofNat (c.toNat + 32)).toNat = c.toNat + 32 := by
      have hvalid : (c.toNat + 32).isValidChar := Or.inl (by omega)
      rw [Char.ofNat, dif_pos hvalid]
      rfl
    rw [if_pos (isCapital_iff.mpr h), hcode]
    omega
  · rw [if_neg (isCapital_iff.not.mpr h)]
    omega

/-- The ASCII capitals. -/
def capitals : Text := (List.range' 65 26).map Char.ofNat

/-- Every character but a capital is its own lower case. -/
lemma asciiLower_eq_self_or_mem_capitals (c : Char) : asciiLower c = c ∨ c ∈ capitals := by
  by_cases h : 65 ≤ c.toNat ∧ c.toNat ≤ 90
  · refine Or.inr (List.mem_map.mpr ⟨c.toNat, List.mem_range'_1.mpr ?_, Char.ofNat_toNat c⟩)
    omega
  · exact Or.inl (if_neg (isCapital_iff.not.mpr h))

/-- A test that gives the same answer for each capital and its small letter gives the same answer
for any character and its small letter. -/
lemma apply_asciiLower {p : Char → Bool} (hp : capitals.all fun e => p (asciiLower e) == p e)
    (c : Char) : p (asciiLower c) = p c := by
  rcases asciiLower_eq_self_or_mem_capitals c with hc | hc
  · rw [hc]
  · exact eq_of_beq (List.all_eq_true.mp hp c hc)

/-- Such a test gives the same answer for any characters that differ in the case of an ASCII letter
only. -/
lemma apply_eq_of_asciiLower_eq {p : Char → Bool}
    (hp : capitals.all fun e => p (asciiLower e) == p e)
    (h : asciiLower c = asciiLower d) : p c = p d := by
  rw [← apply_asciiLower hp c, h, apply_asciiLower hp d]

/-- A character of a kind that no letter is of differs in case from no other one. -/
lemma eq_of_asciiLower_eq {p : Char → Bool}
    (hp : capitals.all fun e => !p e && !p (asciiLower e))
    (hc : p c) (h : asciiLower c = asciiLower d) : d = c := by
  have hnone : ∀ e ∈ capitals, p e = false ∧ p (asciiLower e) = false := by
    simpa using hp
  have hself : asciiLower c = c := by
    refine (asciiLower_eq_self_or_mem_capitals c).resolve_right fun hmem => ?_
    rw [(hnone c hmem).1] at hc
    exact Bool.false_ne_true hc
  rw [hself] at h
  rcases asciiLower_eq_self_or_mem_capitals d with hd | hd
  · rw [h, hd]
  · rw [h, (hnone d hd).2] at hc
    exact absurd hc Bool.false_ne_true

/-- Is the character a small ASCII letter that is the lower case of itself and its capital alone?
This is so of all but the few that are also the lower case of another sign. -/
def hasTwoForms (d : Char) : Bool :=
  97 ≤ d.toNat && d.toNat ≤ 122 && lowerSources d.toNat == [d.toNat, d.toNat - 32]
    && lowerCode d.toNat == d.toNat && lowerCode (d.toNat - 32) == d.toNat

/-- Of such a letter the Unicode table says the same as the ASCII letters do. -/
lemma lowerCode_eq_iff (hd : hasTwoForms d) : lowerCode c.toNat = d.toNat ↔ asciiLower c = d := by
  simp only [hasTwoForms, Bool.and_eq_true, decide_eq_true_eq, beq_iff_eq] at hd
  obtain ⟨⟨⟨⟨hlow, hhigh⟩, hsources⟩, hsmall⟩, hcapital⟩ := hd
  rw [asciiLower_eq_iff hlow hhigh]
  constructor
  · intro h
    have hmem : c.toNat ∈ lowerSources d.toNat := mem_lowerSources h (by omega)
    simpa [hsources] using hmem
  · rintro (h | h) <;> rw [h]
    · exact hsmall
    · exact hcapital

/-! ### The letters of a keyword -/

/-- What holds of each letter of the keyword. -/
lemma forall_mem_from_iff {P : Char → Prop} :
    (∀ d ∈ ("from" : Text), P d) ↔ P 'f' ∧ P 'r' ∧ P 'o' ∧ P 'm' := by
  have hletters : ("from" : Text) = ['f', 'r', 'o', 'm'] := rfl
  rw [hletters]
  simp only [List.forall_mem_cons, List.not_mem_nil, false_imp_iff, implies_true, and_true]

end DockCheck.Text
