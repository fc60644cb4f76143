import Mathlib.Tactic.Common

/-!
# The faults of a computation

`FailsWith P outcome` says that a computation has no other faults than those with the property `P`.
A computation that is put together from others fails as one of them does, so that the faults of a
reader can be told from those of the readers that it calls.
-/

namespace DockCheck

variable {α β ε : Type} {P : ε → Prop}

/-- What a computation gives can be read off its outcome. -/
lemma map_toOption_eq_some_iff {outcome : Except ε α} {f : α → β} {b : β} :
    outcome.toOption.map f = some b ↔ ∃ a, outcome = .ok a ∧ f a = b := by
  cases outcome <;> simp [Except.toOption]

/-- The computation fails with no other faults than those with the property. -/
def FailsWith (P : ε → Prop) (outcome : Except ε α) : Prop := ∀ e, outcome = .error e → P e

namespace FailsWith

lemma ok (a : α) : FailsWith P (.ok a : Except ε α) := nofun

lemma error {e : ε} (h : P e) : FailsWith P (.error e : Except ε α) := by
  rintro e' heq
  cases heq
  exact h

lemma bind {outcome : Except ε α} {next : α → Except ε β} (h : FailsWith P outcome)
    (hnext : ∀ a, FailsWith P (next a)) : FailsWith P (outcome >>= next) := by
  cases outcome with
  | error e => exact error (h e rfl)
  | ok a => exact hnext a

lemma map {outcome : Except ε α} (h : FailsWith P outcome) (f : α → β) :
    FailsWith P (outcome.map f) := by
  cases outcome with
  | error e => exact error (h e rfl)
  | ok a => exact ok (f a)

lemma mapM {f : α → Except ε β} (h : ∀ a, FailsWith P (f a)) (l : List α) :
    FailsWith P (l.mapM f) := by
  induction l with
  | nil => exact ok []
  | cons a l ih =>
    rw [List.mapM_cons]
    exact (h a).bind fun _ => ih.bind fun _ => ok _

lemma forM {f : α → Except ε PUnit} (h : ∀ a, FailsWith P (f a)) (l : List α) :
    FailsWith P (l.forM f) := by
  induction l with
  | nil => exact ok _
  | cons a l ih => exact (h a).bind fun _ => ih

lemma foldlM {f : β → α → Except ε β} (h : ∀ b a, FailsWith P (f b a)) (b : β) (l : List α) :
    FailsWith P (l.foldlM f b) := by
  induction l generalizing b with
  | nil => exact ok b
  | cons a l ih =>
    rw [List.foldlM_cons]
    exact (h b a).bind fun c => ih c

end FailsWith

end DockCheck
