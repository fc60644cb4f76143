import DockCheck.Proofs.Text.Fields
import DockCheck.Version

/-!
# Versions by their components

Where versions are compared by their beginnings, one is allowed if it is an allowed one or goes on
with a dot behind it.  The texts may be any, so that components can be empty.

The main statement, `isAllowed_leading_iff`, says that this is to begin with all components of an
allowed version: a component never stands for one that only begins with it.
-/

namespace DockCheck.Version

variable {entry version : Text}

/-- One entry allows what it is, and what goes on with a dot behind it. -/
lemma isAllowed_leading_singleton_iff : isAllowed .leading [entry] version
    ↔ version = entry ∨ ∃ rest, version = entry ++ '.' :: rest := by
  have hprefix : entry ++ ['.'] <+: version ↔ ∃ rest, version = entry ++ '.' :: rest := by
    simp [List.IsPrefix, eq_comm]
  rw [← hprefix]
  simp [isAllowed, Text.startsWith]

/-- A list of entries allows what one of them does. -/
lemma isAllowed_leading_iff_exists {allowed : List Text} : isAllowed .leading allowed version
    ↔ ∃ entry ∈ allowed, isAllowed .leading [entry] version := by
  simp [isAllowed]

/-- A version is allowed by its beginning if it has all components of an entry there. -/
lemma isAllowed_leading_iff_isPrefix {allowed : List Text} : isAllowed .leading allowed version
    ↔ ∃ entry ∈ allowed, components entry <+: components version := by
  rw [isAllowed_leading_iff_exists]
  simp only [isAllowed_leading_singleton_iff, components, Text.fields_prefix_fields_iff]

/-- Where versions are compared by their beginnings, a version is allowed exactly if its components
begin with all those of an entry, in order.  So of the texts that begin with an entry it allows
itself and those that go on with a dot, and no others. -/
theorem isAllowed_leading_iff (allowed : List Text) (version : Text) :
    (isAllowed .leading allowed version
        ↔ ∃ entry ∈ allowed, components entry <+: components version)
      ∧ ∀ entry rest, isAllowed .leading [entry] (entry ++ rest)
        ↔ rest = [] ∨ rest.head? = some '.' := by
  constructor
  · exact isAllowed_leading_iff_isPrefix
  · intro entry rest
    rw [isAllowed_leading_singleton_iff]
    cases rest <;> simp

example : isAllowed .leading ["3"] "3.9.1" ∧ ¬ isAllowed .leading ["3"] "31" := by decide

end DockCheck.Version
