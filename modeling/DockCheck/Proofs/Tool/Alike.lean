import DockCheck.Proofs.Pattern.Alike
import DockCheck.Proofs.Tool.WholeVersions

/-!
# Tools in texts that are alike

In texts that are alike by a relation on characters, patterns that do not tell related characters
apart find words that are alike.  The built-in tools are found in dotted versions, so that a
relation that leaves digits and dots as they are gives the same version
(`Builtin.extractVersion_eq_of_forall₂`).
-/

namespace DockCheck

open Pattern (Blurs)

variable {R : Char → Char → Prop} {p : Pattern.CharTest → Bool} {t u : Text}

/-- Orderly patterns that make only tests that `p` admits find nothing in both texts, or words that
are alike. -/
theorem extractVersion_alike (hR : Blurs R p) {patterns : List Pattern}
    (horderly : ∀ pattern ∈ patterns, pattern.body.isOrderly [])
    (htests : ∀ pattern ∈ patterns, pattern.body.testsOnly p) (h : List.Forall₂ R t u) :
    ∃ found other, extractVersion patterns t = .ok found ∧ extractVersion patterns u = .ok other
      ∧ Option.Rel (List.Forall₂ R) found other := by
  induction patterns with
  | nil => exact ⟨none, none, rfl, rfl, .none⟩
  | cons pattern patterns ih =>
    rw [List.forall_mem_cons] at horderly htests
    obtain ⟨found, other, hfound, hother, hword⟩ :=
      Pattern.capture?_alike hR horderly.1 htests.1 h
    unfold extractVersion
    rw [hfound, hother]
    cases hword with
    | none => exact ih horderly.2 htests.2
    | some hword => exact ⟨_, _, rfl, rfl, .some hword⟩

/-- A list corresponds to nothing but itself if its members do. -/
lemma eq_of_forall₂_of_mem {α : Type} {R : α → α → Prop} {l others : List α}
    (h : List.Forall₂ R l others) (heq : ∀ a ∈ l, ∀ b, R a b → b = a) : others = l := by
  induction h with
  | nil => rfl
  | @cons a b _ _ hab _ ih =>
    rw [List.forall_mem_cons] at heq
    rw [heq.1 b hab, ih heq.2]

namespace Builtin

/-- A built-in tool is found in the same version in texts that are alike, if its patterns do not
tell related characters apart and no digit and no dot is related to another character. -/
theorem extractVersion_eq_of_forall₂ (hR : Blurs R p)
    (hversion : ∀ c d, R c d → Text.isDigit c ∨ c = '.' → d = c) {spec : ToolSpec}
    (hspec : spec ∈ tools) (htests : ∀ pattern ∈ spec.patterns, pattern.body.testsOnly p)
    (h : List.Forall₂ R t u) : extractVersion spec.patterns t = extractVersion spec.patterns u := by
  obtain ⟨found, other, hfound, hother, halike⟩ :=
    extractVersion_alike hR (isOrderly_of_mem_tools spec hspec) htests h
  rw [hfound, hother]
  cases halike with
  | none => rfl
  | @some raw otherRaw hwords =>
    obtain ⟨before, after, -, -, hwhole⟩ := exists_detectsBetween hspec hfound
    have hsame : otherRaw = raw := eq_of_forall₂_of_mem hwords fun c hc d hcd =>
      hversion c d hcd (hwhole.dotted.isDigit_or_eq_dot hc)
    rw [hsame]

end Builtin

end DockCheck
