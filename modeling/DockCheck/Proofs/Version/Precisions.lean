import DockCheck.Proofs.Version.Components
import DockCheck.Proofs.Version.Dotted

/-!
# Coarse and fine precisions

Every precision keeps the first components of a version, and only differs in their number
(`kept_eq_take`).  So the components of two normal forms of a raw version are the beginnings of one
list, and the precisions stand in an order of how much they keep: `Precision.fineness`.

Two statements on allowed versions follow.  Where versions are compared by their beginnings,
`isAllowed_leading_finer_iff` says that this order is the one in which precisions accept more and
more.  `isAllowed_without_overprecise` says that an entry with more components than a precision ever
keeps has no effect, however versions are compared.
-/

namespace DockCheck

namespace Precision

/-- The place of a precision in the order from the coarsest to the finest. -/
def fineness : Precision → Nat
  | .major => 0
  | .truncated => 1
  | .majorMinor => 2
  | .exact => 3

/-- The largest number of components that a precision keeps, if there is one. -/
def most? : Precision → Option Nat
  | .major => some 1
  | .truncated => some 2
  | .majorMinor => some 2
  | .exact => none

/-- An allowed version has more components than the precision ever keeps. -/
def IsOverprecise (precision : Precision) (entry : Text) : Prop :=
  ∃ most, precision.most? = some most ∧ most < (Version.components entry).length

instance (precision : Precision) (entry : Text) : Decidable (precision.IsOverprecise entry) :=
  decidable_of_iff (precision.most?.any fun most => most < (Version.components entry).length) (by
    simp [IsOverprecise, Option.any_eq_true])

end Precision

namespace Version

variable {coarse fine precision : Precision} {policy : MatchPolicy} {allowed : List Text}
  {raw version entry : Text}

/-! ### The number of components -/

/-- The number of components that a precision keeps out of `n`. -/
def keptCount (precision : Precision) (n : Nat) : Nat :=
  match precision with
  | .major => min 1 n
  | .truncated => if 2 < n then 1 else n
  | .majorMinor => min 2 n
  | .exact => n

/-- A precision keeps the first components. -/
lemma kept_eq_take (precision : Precision) (parts : List Text) :
    kept precision parts = parts.take (keptCount precision parts.length) := by
  cases precision with
  | exact => simp [kept, keptCount]
  | major => simp [kept, keptCount, List.take_eq_take_iff]
  | majorMinor => simp [kept, keptCount, List.take_eq_take_iff]
  | truncated =>
    by_cases hlong : 2 < parts.length
    · simp [kept, keptCount, hlong]
    · simp [kept, keptCount, hlong]

/-- A finer precision keeps at least as many components. -/
lemma keptCount_le_of_fineness (h : coarse.fineness ≤ fine.fineness) (n : Nat) :
    keptCount coarse n ≤ keptCount fine n := by
  cases coarse <;> cases fine <;> simp only [Precision.fineness, keptCount] at h ⊢ <;> grind

lemma keptCount_le_most {most : Nat} (h : precision.most? = some most) (n : Nat) :
    keptCount precision n ≤ most := by
  cases precision with
  | exact => cases h
  | major =>
    obtain rfl := Option.some.inj h
    exact Nat.min_le_left 1 n
  | majorMinor =>
    obtain rfl := Option.some.inj h
    exact Nat.min_le_left 2 n
  | truncated =>
    obtain rfl := Option.some.inj h
    dsimp only [keptCount]
    split <;> omega

/-! ### The components of normal forms -/

/-- The components of the normal form are those that are kept. -/
lemma components_normalize (precision : Precision) (raw : Text) :
    components (normalize precision raw) = kept precision (components (clean raw)) := by
  have hne : components (clean raw) ≠ [] := Text.fields_ne_nil '.' (clean raw)
  refine Text.fields_join (kept_ne_nil hne) fun part hpart => ?_
  exact Text.not_mem_of_mem_fields ((kept_sublist precision _).subset hpart)

/-- The normal form under a finer precision begins with the components of the coarser one. -/
lemma components_normalize_isPrefix (h : coarse.fineness ≤ fine.fineness) (raw : Text) :
    components (normalize coarse raw) <+: components (normalize fine raw) := by
  rw [components_normalize, components_normalize, kept_eq_take, kept_eq_take]
  exact List.take_prefix_take_left (keptCount_le_of_fineness h _)

lemma length_components_normalize_le {most : Nat} (h : precision.most? = some most) (raw : Text) :
    (components (normalize precision raw)).length ≤ most := by
  rw [components_normalize, kept_eq_take]
  exact (List.length_take_le _ _).trans (keptCount_le_most h _)

/-! ### Finer precisions accept more -/

/-- What a coarse precision accepts by its beginning, a finer one does, too. -/
lemma isAllowed_leading_of_fineness_le (h : coarse.fineness ≤ fine.fineness)
    (hallowed : isAllowed .leading allowed (normalize coarse raw)) :
    isAllowed .leading allowed (normalize fine raw) := by
  rw [isAllowed_leading_iff_isPrefix] at hallowed ⊢
  obtain ⟨entry, hentry, hprefix⟩ := hallowed
  exact ⟨entry, hentry, hprefix.trans (components_normalize_isPrefix h raw)⟩

/-- A coarser precision rejects something that a finer one accepts. -/
lemma exists_rejected_of_fineness_lt (h : coarse.fineness < fine.fineness) :
    ∃ raw allowed, isAllowed .leading allowed (normalize fine raw)
      ∧ ¬ isAllowed .leading allowed (normalize coarse raw) := by
  cases coarse with
  | major =>
    refine ⟨"1.2", ["1.2"], ?_, by decide +kernel⟩
    cases fine with
    | major => exact absurd h (Nat.lt_irrefl _)
    | _ => decide +kernel
  | truncated =>
    refine ⟨"1.2.3", ["1.2"], ?_, by decide +kernel⟩
    cases fine with
    | major => exact absurd h (by decide)
    | truncated => exact absurd h (Nat.lt_irrefl _)
    | _ => decide +kernel
  | majorMinor =>
    refine ⟨"1.2.3", ["1.2.3"], ?_, by decide +kernel⟩
    cases fine with
    | exact => decide +kernel
    | _ => exact absurd h (by decide)
  | exact => cases fine <;> exact absurd h (by decide)

/-- Where versions are compared by their beginnings, one precision accepts everything that another
one does, whatever the raw version and the allowed ones are, exactly if it is at least as fine. -/
theorem isAllowed_leading_finer_iff (coarse fine : Precision) :
    (∀ raw allowed, isAllowed .leading allowed (normalize coarse raw)
        → isAllowed .leading allowed (normalize fine raw))
      ↔ coarse.fineness ≤ fine.fineness := by
  constructor
  · intro haccepts
    by_contra hlt
    obtain ⟨raw, allowed, haccepted, hrejected⟩ :=
      exists_rejected_of_fineness_lt (Nat.lt_of_not_le hlt)
    exact hrejected (haccepts raw allowed haccepted)
  · intro hle raw allowed
    exact isAllowed_leading_of_fineness_le hle

example : isAllowed .leading ["3"] (normalize .truncated "3.11.4")
    ∧ isAllowed .leading ["3"] (normalize .majorMinor "3.11.4") := by decide +kernel

/-! ### Entries without effect -/

/-- A list of entries allows what one of them does, however versions are compared. -/
lemma isAllowed_iff_exists (allowed : List Text) :
    isAllowed policy allowed version ↔ ∃ entry ∈ allowed, isAllowed policy [entry] version := by
  cases policy with
  | exact => simp [isAllowed, eq_comm]
  | leading => exact isAllowed_leading_iff_exists

/-- An entry that allows a version has no more components than the version. -/
lemma length_components_le_of_isAllowed (h : isAllowed policy [entry] version) :
    (components entry).length ≤ (components version).length := by
  cases policy with
  | exact =>
    have heq : version = entry := by simpa [isAllowed] using h
    rw [heq]
  | leading =>
    obtain ⟨other, hother, hprefix⟩ := isAllowed_leading_iff_isPrefix.mp h
    obtain rfl := List.mem_singleton.mp hother
    exact hprefix.length_le

/-- An entry with more components than the precision keeps allows no normal form. -/
lemma not_isAllowed_of_isOverprecise (h : precision.IsOverprecise entry) :
    ¬ isAllowed policy [entry] (normalize precision raw) := by
  intro hallowed
  obtain ⟨most, hmost, hlong⟩ := h
  have hentry := length_components_le_of_isAllowed hallowed
  have hversion := length_components_normalize_le hmost raw
  omega

/-- However versions are compared, an entry with more components than the precision ever keeps
allows no version, and to take all such entries out of a list changes no decision.  Under `major`
these are the entries with more than one component, under `truncated` and `majorMinor` those with
more than two. -/
theorem isAllowed_without_overprecise (precision : Precision) (policy : MatchPolicy)
    (allowed : List Text) (raw : Text) :
    (∀ entry, precision.IsOverprecise entry
        → ¬ isAllowed policy [entry] (normalize precision raw))
      ∧ isAllowed policy (allowed.filter fun entry => ¬ precision.IsOverprecise entry)
          (normalize precision raw)
        = isAllowed policy allowed (normalize precision raw) := by
  refine ⟨fun entry => not_isAllowed_of_isOverprecise, ?_⟩
  rw [Bool.eq_iff_iff, isAllowed_iff_exists (allowed.filter _), isAllowed_iff_exists allowed]
  constructor
  · rintro ⟨entry, hentry, hallowed⟩
    exact ⟨entry, List.mem_of_mem_filter hentry, hallowed⟩
  · rintro ⟨entry, hentry, hallowed⟩
    have hprecise : ¬ precision.IsOverprecise entry :=
      fun hover => not_isAllowed_of_isOverprecise hover hallowed
    exact ⟨entry, List.mem_filter.mpr ⟨hentry, by simpa using hprecise⟩, hallowed⟩

example : Precision.truncated.IsOverprecise "11.0.2"
    ∧ ¬ isAllowed .exact ["11.0.2"] (normalize .truncated "11.0.2") := by decide +kernel

end Version

end DockCheck
