import DockCheck.CommandLine
import Mathlib.Data.List.Induction
import Mathlib.Tactic.Common

/-!
# Setting up the log

Setting up the log takes three steps.  Only the first of them, which sets the level, can fail, so a
failure finds the log as it was (`applyTo_setUp_of_unknown`), and a success leaves one place where
records go, however many there were before (`applyTo_setUp_of_known`).

The log may be set up again and again, with levels that are known and levels that are not.
`StandsAfter` says how it stands then, one call keeps this up (`StandsAfter.setUp`), and so does any
number of them (`standsAfter_setUpEach`).  The main statement, `setUpEach_initial`, describes each
call among others: what it comes to, and the state of the log after it.
-/

namespace DockCheck

/-- The threshold that a level stands for, whose name is read in any letter case. -/
def Threshold.ofLevel? (level : Text) : Option Threshold := names.lookup (Text.upper level)

/-- The name of every level is known. -/
lemma Threshold.ofLevel?_name (level : LogLevel) : ofLevel? level.name = some (.from level) := by
  cases level <;> decide

namespace Logging

variable {α β : Type} {logging : Logging} {levels : List Text} {level : Text}

/-! ### Changes -/

namespace Change

/-- A change that succeeds is followed by the next one, in the state that it leaves.  One that fails
is the last, and leaves the state as it is then. -/
lemma applyTo_bind (first : Change α) (next : α → Change β) (logging : Logging) :
    (first >>= next).applyTo logging
      = match first.applyTo logging with
        | (.ok value, after) => (next value).applyTo after
        | (.error crash, after) => (.error crash, after) := by
  unfold applyTo ExceptT.run StateT.run Id.run
  simp only [bind, ExceptT.bind, ExceptT.mk, StateT.bind, ExceptT.bindCont]
  cases first logging with
  | mk outcome after => cases outcome <;> rfl

end Change

lemma applyTo_setLevel_of_some {name : Text} {threshold : Threshold}
    (h : Threshold.names.lookup name = some threshold) (logging : Logging) :
    (setLevel name).applyTo logging = (.ok (), { logging with threshold := threshold }) := by
  rw [setLevel, h]
  rfl

lemma applyTo_setLevel_of_none {name : Text} (h : Threshold.names.lookup name = none)
    (logging : Logging) :
    (setLevel name).applyTo logging = (.error (.unknownLevel name), logging) := by
  rw [setLevel, h]
  rfl

lemma applyTo_clearHandlers (logging : Logging) :
    clearHandlers.applyTo logging = (.ok (), { logging with handlers := 0 }) := rfl

lemma applyTo_addHandler (logging : Logging) :
    addHandler.applyTo logging = (.ok (), { logging with handlers := logging.handlers + 1 }) := rfl

/-- With a level that is known, the log is set to it, and records go to one place. -/
lemma applyTo_setUp_of_known {threshold : Threshold}
    (h : Threshold.ofLevel? level = some threshold) (logging : Logging) :
    (setUp level).applyTo logging = (.ok (), ⟨threshold, 1⟩) := by
  simp only [setUp, Change.applyTo_bind, applyTo_setLevel_of_some h, applyTo_clearHandlers,
    applyTo_addHandler]

/-- With a level that is not known, setting up the log fails and changes nothing. -/
lemma applyTo_setUp_of_unknown (h : Threshold.ofLevel? level = none) (logging : Logging) :
    (setUp level).applyTo logging = (.error (.unknownLevel (Text.upper level)), logging) := by
  rw [setUp, Change.applyTo_bind, applyTo_setLevel_of_none h]

/-- Setting up the log succeeds exactly if the level is known. -/
lemma applyTo_setUp_eq_ok_iff :
    ((setUp level).applyTo logging).1 = .ok () ↔ (Threshold.ofLevel? level).isSome := by
  cases h : Threshold.ofLevel? level with
  | none => simp [applyTo_setUp_of_unknown h]
  | some threshold => simp [applyTo_setUp_of_known h]

/-! ### One call after the other -/

/-- The state that calls leave, of which the first finds the given one. -/
def leftBy (logging : Logging) (calls : List (Except Crash Unit × Logging)) : Logging :=
  (calls.getLast?.map Prod.snd).getD logging

lemma leftBy_append (logging : Logging) (calls : List (Except Crash Unit × Logging))
    (call : Except Crash Unit × Logging) : leftBy logging (calls ++ [call]) = call.2 := by
  simp [leftBy]

lemma leftBy_cons (logging : Logging) (call : Except Crash Unit × Logging)
    (calls : List (Except Crash Unit × Logging)) :
    leftBy logging (call :: calls) = leftBy call.2 calls := by
  rw [leftBy, leftBy, List.getLast?_cons]
  cases calls.getLast? <;> rfl

lemma setUpEach_cons (logging : Logging) (level : Text) (levels : List Text) :
    setUpEach logging (level :: levels)
      = (setUp level).applyTo logging :: setUpEach ((setUp level).applyTo logging).2 levels := rfl

/-- Later calls find the state that the earlier ones leave. -/
lemma setUpEach_append (logging : Logging) (earlier later : List Text) :
    setUpEach logging (earlier ++ later)
      = setUpEach logging earlier
        ++ setUpEach (leftBy logging (setUpEach logging earlier)) later := by
  induction earlier generalizing logging with
  | nil => rfl
  | cons level earlier ih =>
    rw [List.cons_append, setUpEach_cons, setUpEach_cons, ih, leftBy_cons, List.cons_append]

lemma length_setUpEach (logging : Logging) (levels : List Text) :
    (setUpEach logging levels).length = levels.length := by
  induction levels generalizing logging with
  | nil => rfl
  | cons level levels ih => rw [setUpEach_cons, List.length_cons, List.length_cons, ih]

/-- One of the calls succeeds exactly if one of the levels is known. -/
lemma exists_mem_setUpEach_ok_iff (logging : Logging) (levels : List Text) :
    (∃ call ∈ setUpEach logging levels, call.1 = .ok ())
      ↔ ∃ level ∈ levels, (Threshold.ofLevel? level).isSome := by
  induction levels generalizing logging with
  | nil => simp [setUpEach]
  | cons level levels ih =>
    simp only [setUpEach_cons, List.mem_cons, exists_eq_or_imp, ih, applyTo_setUp_eq_ok_iff]

/-! ### The state after calls -/

/-- The log stands as calls for these levels leave it: the last level that is known counts, and
records go to one place if there is one. -/
structure StandsAfter (levels : List Text) (logging : Logging) : Prop where
  threshold : logging.threshold
    = (levels.filterMap Threshold.ofLevel?).getLast?.getD initial.threshold
  one_of_known : (∃ level ∈ levels, (Threshold.ofLevel? level).isSome) → logging.handlers = 1
  none_of_unknown : (¬ ∃ level ∈ levels, (Threshold.ofLevel? level).isSome) → logging.handlers = 0

lemma standsAfter_nil : StandsAfter [] initial := ⟨rfl, by simp, fun _ => rfl⟩

/-- A further call keeps up how the log stands. -/
lemma StandsAfter.setUp (h : StandsAfter levels logging) (level : Text) :
    StandsAfter (levels ++ [level]) ((setUp level).applyTo logging).2 := by
  cases hlevel : Threshold.ofLevel? level with
  | none =>
    have hknown : (∃ other ∈ levels ++ [level], (Threshold.ofLevel? other).isSome)
        ↔ ∃ other ∈ levels, (Threshold.ofLevel? other).isSome := by
      simp [or_and_right, exists_or, hlevel]
    rw [applyTo_setUp_of_unknown hlevel]
    refine ⟨?_, ?_, ?_⟩
    · rw [h.threshold, List.filterMap_append, List.filterMap_cons_none hlevel, List.filterMap_nil,
        List.append_nil]
    · rw [hknown]
      exact h.one_of_known
    · rw [hknown]
      exact h.none_of_unknown
  | some threshold =>
    have hknown : ∃ other ∈ levels ++ [level], (Threshold.ofLevel? other).isSome :=
      ⟨level, by simp, by simp [hlevel]⟩
    rw [applyTo_setUp_of_known hlevel]
    refine ⟨?_, fun _ => rfl, fun hnot => absurd hknown hnot⟩
    rw [List.filterMap_append, List.filterMap_cons_some hlevel, List.filterMap_nil,
      List.getLast?_concat, Option.getD_some]

/-- After calls for any levels the log stands as they leave it. -/
lemma standsAfter_setUpEach (levels : List Text) :
    StandsAfter levels (leftBy initial (setUpEach initial levels)) := by
  -- The last call is the one that alters the state, so the levels are taken from the end.
  induction levels using List.reverseRecOn with
  | nil => exact standsAfter_nil
  | append_singleton levels level ih =>
    rw [setUpEach_append, setUpEach_cons, setUpEach, leftBy_append]
    exact ih.setUp level

/-- However often and with whatever levels the log is set up, after each call its level is the last
one that was known, and warnings if none was; records go to one place if any call so far has
succeeded, and nowhere if none has; and a call succeeds exactly if its level is known, and otherwise
fails with that name and leaves the log as it was. -/
theorem setUpEach_initial (earlier : List Text) (level : Text) (later : List Text) :
    ∃ done outcome now rest,
      setUpEach initial (earlier ++ level :: later) = done ++ (outcome, now) :: rest
      ∧ done.length = earlier.length
      ∧ now.threshold
        = ((earlier ++ [level]).filterMap Threshold.ofLevel?).getLast?.getD (.from .warning)
      ∧ ((∃ call ∈ done ++ [(outcome, now)], call.1 = .ok ()) → now.handlers = 1)
      ∧ ((¬ ∃ call ∈ done ++ [(outcome, now)], call.1 = .ok ()) → now.handlers = 0)
      ∧ ((Threshold.ofLevel? level).isSome → outcome = .ok ())
      ∧ (Threshold.ofLevel? level = none →
        outcome = .error (.unknownLevel (Text.upper level)) ∧ now = leftBy initial done) := by
  have hcalls : setUpEach initial (earlier ++ [level])
      = setUpEach initial earlier
        ++ [(setUp level).applyTo (leftBy initial (setUpEach initial earlier))] :=
    setUpEach_append initial earlier [level]
  have hstands := standsAfter_setUpEach (earlier ++ [level])
  have hknown := exists_mem_setUpEach_ok_iff initial (earlier ++ [level])
  rw [hcalls] at hknown
  rw [hcalls, leftBy_append] at hstands
  refine ⟨setUpEach initial earlier,
    ((setUp level).applyTo (leftBy initial (setUpEach initial earlier))).1,
    ((setUp level).applyTo (leftBy initial (setUpEach initial earlier))).2, _,
    setUpEach_append initial earlier (level :: later), length_setUpEach initial earlier,
    hstands.threshold, fun hsome => hstands.one_of_known (hknown.mp hsome),
    fun hnone => hstands.none_of_unknown fun hsome => hnone (hknown.mpr hsome),
    applyTo_setUp_eq_ok_iff.mpr, fun hlevel => ?_⟩
  rw [applyTo_setUp_of_unknown hlevel]
  exact ⟨rfl, rfl⟩

example : setUpEach initial ["verbose", "Info", "loud", "fatal"]
    = [(.error (.unknownLevel "VERBOSE"), initial), (.ok (), ⟨.from .info, 1⟩),
      (.error (.unknownLevel "LOUD"), ⟨.from .info, 1⟩), (.ok (), ⟨.from .critical, 1⟩)] := by
  rfl

end Logging

/-- A run of the program sets up its log by the name of a level.  That always succeeds, and the log
keeps what the run is asked to keep. -/
theorem CommandLine.applyTo_setUp_threshold (options : Options) (usual : LogLevel)
    (logging : Logging) :
    (Logging.setUp (if options.verbose then LogLevel.debug else usual).name).applyTo logging
      = (.ok (), ⟨threshold options usual, 1⟩) :=
  Logging.applyTo_setUp_of_known (Threshold.ofLevel?_name _) logging

end DockCheck
