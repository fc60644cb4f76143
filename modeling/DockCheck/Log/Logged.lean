import DockCheck.Log

/-!
# Logged computations

A `Logged α` is the outcome of a computation together with the records that it leaves in the log.
Computations are put together so that the records of the first come before those of the second,
and a failure keeps the records that led to it.
-/

namespace DockCheck

/-- An outcome, and the records that were left on the way to it. -/
structure Logged (α : Type) where
  records : List LogRecord
  outcome : Except Failure α

namespace Logged

variable {α β : Type}

/-- A value that leaves no record. -/
def pure (value : α) : Logged α := ⟨[], .ok value⟩

/-- A failure that leaves no record. -/
def fail (failure : Failure) : Logged α := ⟨[], .error failure⟩

/-- An outcome that leaves no record. -/
def ofExcept (outcome : Except Failure α) : Logged α := ⟨[], outcome⟩

/-- Goes on with the value of a computation, if it has one. -/
def bind (first : Logged α) (next : α → Logged β) : Logged β :=
  match first.outcome with
  | .error failure => ⟨first.records, .error failure⟩
  | .ok value => ⟨first.records ++ (next value).records, (next value).outcome⟩

instance : Monad Logged where
  pure := pure
  bind := bind

/-- A computation without a failure goes on with its value. -/
theorem bind_of_ok {first : Logged α} {value : α} (h : first.outcome = .ok value)
    (next : α → Logged β) :
    first >>= next = ⟨first.records ++ (next value).records, (next value).outcome⟩ := by
  change bind first next = _
  rw [bind, h]

/-- A failure ends a computation. -/
theorem bind_of_error {first : Logged α} {failure : Failure}
    (h : first.outcome = .error failure) (next : α → Logged β) :
    first >>= next = ⟨first.records, .error failure⟩ := by
  change bind first next = _
  rw [bind, h]

instance : LawfulMonad Logged := LawfulMonad.mk' Logged
  (fun computation => by
    obtain ⟨records, outcome⟩ := computation
    cases outcome <;> simp [Functor.map, bind, pure])
  (fun value next => by simp [Bind.bind, Pure.pure, bind, pure])
  (fun first next last => by
    obtain ⟨records, outcome⟩ := first
    cases outcome with
    | error failure => rfl
    | ok value =>
      simp only [Bind.bind, bind]
      cases (next value).outcome <;> simp)

/-- Leaves a record. -/
def log (level : LogLevel) (source : LogSource) (t : Text) : Logged Unit :=
  ⟨[⟨level, source, .text t⟩], .ok ()⟩

end Logged

end DockCheck
