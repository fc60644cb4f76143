import DockCheck.Log.Logged
import Mathlib.Tactic.Common

/-!
# Outcomes and records

A logged computation has an outcome and leaves records.  The outcome of computations that are put
together is that of the outcomes put together (`outcome_bind`, `outcome_mapM`), whatever the
records are, and what holds of the records of each of them holds of all (`forall_records_bind`,
`forall_records_mapM`).  A record in front of a computation (`preceded`) stays in front.
-/

namespace DockCheck.Logged

variable {α β : Type}

/-- A computation with another record in front. -/
def preceded (record : LogRecord) (computation : Logged α) : Logged α :=
  ⟨record :: computation.records, computation.outcome⟩

/-! ### Outcomes -/

@[simp] lemma outcome_pure (value : α) : (Pure.pure value : Logged α).outcome = .ok value := rfl

@[simp] lemma outcome_fail (failure : Failure) :
    (fail failure : Logged α).outcome = .error failure := rfl

@[simp] lemma outcome_ofExcept (outcome : Except Failure α) :
    (ofExcept outcome).outcome = outcome := rfl

@[simp] lemma outcome_log (level : LogLevel) (source : LogSource) (t : Text) :
    (log level source t).outcome = .ok () := rfl

@[simp] lemma outcome_preceded (record : LogRecord) (computation : Logged α) :
    (preceded record computation).outcome = computation.outcome := rfl

/-- The outcome of two computations is the outcome of the second for the value of the first. -/
lemma outcome_bind (first : Logged α) (next : α → Logged β) :
    (first >>= next).outcome = first.outcome >>= fun value => (next value).outcome := by
  cases h : first.outcome with
  | error failure => rw [bind_of_error h]; rfl
  | ok value => rw [bind_of_ok h]; rfl

/-- The outcome of a traversal is the traversal of the outcomes. -/
lemma outcome_mapM (f : α → Logged β) (l : List α) :
    (l.mapM f).outcome = l.mapM fun a => (f a).outcome := by
  induction l with
  | nil => rfl
  | cons a l ih => simp only [List.mapM_cons, outcome_bind, outcome_pure, ih]; rfl

/-! ### Records -/

@[simp] lemma records_pure (value : α) : (Pure.pure value : Logged α).records = [] := rfl

@[simp] lemma records_fail (failure : Failure) : (fail failure : Logged α).records = [] := rfl

@[simp] lemma records_ofExcept (outcome : Except Failure α) : (ofExcept outcome).records = [] := rfl

@[simp] lemma records_log (level : LogLevel) (source : LogSource) (t : Text) :
    (log level source t).records = [⟨level, source, .text t⟩] := rfl

@[simp] lemma records_preceded (record : LogRecord) (computation : Logged α) :
    (preceded record computation).records = record :: computation.records := rfl

/-- A record in front of a computation stays in front of what follows it. -/
lemma preceded_bind (record : LogRecord) (first : Logged α) (next : α → Logged β) :
    preceded record first >>= next = preceded record (first >>= next) := by
  cases h : first.outcome with
  | error failure =>
    have hpreceded : (preceded record first).outcome = .error failure := h
    rw [bind_of_error h, bind_of_error hpreceded]
    rfl
  | ok value =>
    have hpreceded : (preceded record first).outcome = .ok value := h
    rw [bind_of_ok h, bind_of_ok hpreceded]
    rfl

/-- What holds of the records of two computations holds of those of both together. -/
lemma forall_records_bind {P : LogRecord → Prop} {first : Logged α} {next : α → Logged β}
    (hfirst : ∀ record ∈ first.records, P record)
    (hnext : ∀ value, ∀ record ∈ (next value).records, P record) :
    ∀ record ∈ (first >>= next).records, P record := by
  cases h : first.outcome with
  | error failure =>
    rw [bind_of_error h]
    exact hfirst
  | ok value =>
    rw [bind_of_ok h]
    intro record hrecord
    rcases List.mem_append.mp hrecord with hrecord | hrecord
    · exact hfirst record hrecord
    · exact hnext value record hrecord

/-- What holds of the records of every computation holds of those of a traversal. -/
lemma forall_records_mapM {P : LogRecord → Prop} {f : α → Logged β}
    (hf : ∀ a, ∀ record ∈ (f a).records, P record) (l : List α) :
    ∀ record ∈ (l.mapM f).records, P record := by
  induction l with
  | nil => simp
  | cons a l ih =>
    rw [List.mapM_cons]
    refine forall_records_bind (hf a) fun value => forall_records_bind ih fun others => ?_
    simp

end DockCheck.Logged
