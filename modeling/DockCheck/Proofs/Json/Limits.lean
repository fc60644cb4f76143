import DockCheck.Json.Reader
import DockCheck.Proofs.Faults

/-!
# The limits of reading JSON

A document that is no JSON is malformed.  A document that is can still be refused, for one of two
reasons: its values are nested too deep, or it has an integer with too many digits.  The main
statement, `exists_of_read_eq_numeral`, says that these integers are the only numerals at fault.
-/

namespace DockCheck.Json

/-- If the fault is one of a numeral, that has more digits than the limit. -/
def IsOverLimit (fault : Fault) : Prop :=
  ∀ numeral, fault = .numeral numeral →
    ∃ count, Text.digitLimit < count ∧ numeral = .tooManyDigits count

lemma failsWith_failAt {α : Type} (problem : Problem) (left : Text) :
    FailsWith IsOverLimit (failAt problem left : Except Fault α) :=
  .error fun _ h => by cases h

lemma failsWith_readNumber (negative : Bool) (start t : Text) :
    FailsWith IsOverLimit (readNumber negative start t) := by
  unfold readNumber
  dsimp only
  split
  · exact failsWith_failAt _ _
  · next whole rest _ =>
    split
    · split
      · next hlimit =>
        refine .error fun numeral h => ?_
        cases h
        exact ⟨whole.length, hlimit, rfl⟩
      · exact .ok _
    · exact .ok _

lemma failsWith_readString (start : Text) (fuel : Nat) (t : Text) :
    FailsWith IsOverLimit (readString start fuel t) := by
  induction fuel generalizing t with
  | zero => exact failsWith_failAt _ _
  | succ fuel ih =>
    unfold readString
    split
    · next h => cases h
    · exact failsWith_failAt _ _
    · exact .ok _
    · exact failsWith_failAt _ _
    · -- The escape of a code, which may be the first half of a pair.
      next h =>
      cases h
      split
      · exact failsWith_failAt _ _
      · split
        · exact failsWith_failAt _ _
        · dsimp only
          split
          · split
            · exact failsWith_failAt _ _
            · split
              · exact (ih _).bind fun _ => .ok _
              · exact (ih _).bind fun _ => .ok _
            · exact (ih _).bind fun _ => .ok _
          · split
            · exact (ih _).bind fun _ => .ok _
            · exact (ih _).bind fun _ => .ok _
    · next h =>
      cases h
      split
      · exact failsWith_failAt _ _
      · exact (ih _).bind fun _ => .ok _
    · next h =>
      cases h
      split
      · exact failsWith_failAt _ _
      · exact (ih _).bind fun _ => .ok _

/-- The readers of values, of members and of items, which call each other with less fuel, stop at no
other numerals. -/
lemma failsWith_readers (fuel : Nat) :
    (∀ room t, FailsWith IsOverLimit (readValue fuel room t))
      ∧ (∀ room entries t, FailsWith IsOverLimit (readMembers fuel room entries t))
      ∧ ∀ room t, FailsWith IsOverLimit (readItems fuel room t) := by
  induction fuel with
  | zero =>
    refine ⟨fun room t => ?_, fun room entries t => ?_, fun room t => ?_⟩
    · unfold readValue
      exact failsWith_failAt _ _
    · unfold readMembers
      exact failsWith_failAt _ _
    · unfold readItems
      exact failsWith_failAt _ _
  | succ fuel ih =>
    obtain ⟨hvalue, hmembers, hitems⟩ := ih
    refine ⟨fun room t => ?_, fun room entries t => ?_, fun room t => ?_⟩
    · unfold readValue
      split
      · exact failsWith_failAt _ _
      · exact (failsWith_readString _ _ _).bind fun _ => .ok _
      · exact .error fun _ h => by cases h
      · split
        · exact .ok _
        · exact (hmembers _ _ _).bind fun _ => .ok _
      · exact .error fun _ h => by cases h
      · split
        · exact .ok _
        · exact (hitems _ _).bind fun _ => .ok _
      · split
        · exact .ok _
        · split
          · exact failsWith_readNumber _ _ _
          · exact failsWith_readNumber _ _ _
    · unfold readMembers
      dsimp only
      split
      · refine (failsWith_readString _ _ _).bind fun key => ?_
        split
        · refine (hvalue _ _).bind fun value => ?_
          split
          · exact .ok _
          · exact hmembers _ _ _
          · exact failsWith_failAt _ _
        · exact failsWith_failAt _ _
      · exact failsWith_failAt _ _
    · unfold readItems
      refine (hvalue _ _).bind fun ⟨item, left⟩ => ?_
      dsimp only
      split
      · exact .ok _
      · exact (hitems _ _).bind fun _ => .ok _
      · exact failsWith_failAt _ _

/-- A document that is refused for a numeral has an integer with more digits than the limit. -/
theorem exists_of_read_eq_numeral {document : Text} {numeral : Text.NumeralFault}
    (h : read document = .error (.numeral numeral)) :
    ∃ count, Text.digitLimit < count ∧ numeral = .tooManyDigits count := by
  have hread : FailsWith IsOverLimit (read document) := by
    unfold read
    split
    · exact failsWith_failAt _ _
    · refine ((failsWith_readers _).1 _ _).bind fun ⟨value, left⟩ => ?_
      dsimp only
      split
      · exact .ok _
      · exact failsWith_failAt _ _
  exact hread _ h numeral rfl

end DockCheck.Json
