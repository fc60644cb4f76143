import DockCheck.Session
import DockCheck.Proofs.Checker.Stages

/-!
# Sessions with a catalog

A checker with a catalog reads it when it first needs the tools, and remembers them.  In a session
the files change between the steps, so it matters which step does the reading: `IsFirstRead` says
that it is step `k`, and that no earlier step could read the catalog.

The invariant of a session is the checker itself.  Up to step `k` it is the one at the start
(`checker_after_of_unread`), and after it the one that knows the tools of that moment
(`checker_after_of_isFirstRead`).  What a step shows follows from this, whatever becomes of the
file: `run_with_catalog`.
-/

namespace DockCheck

namespace Checker

/-! ### Checkers with a catalog -/

/-- The checker that knows the tools already. -/
def knowing (specs : List ToolSpec) (checker : Checker) : Checker :=
  { checker with known := some specs }

/-- The checker has a catalog and has not read it yet. -/
structure Awaits (checker : Checker) (path : Path) : Prop where
  unknown : checker.known = none
  catalog : checker.catalogPath = some path

lemma awaits_ofStandards (standards : Standards) (path : Path) (precision matching : Option Text) :
    (ofStandards standards (some path) precision matching).Awaits path := ⟨rfl, rfl⟩

variable {checker : Checker} {path : Path} {specs : List ToolSpec} {failure : Failure}
  {files : Files}

lemma tools_of_load_eq_error (h : checker.Awaits path)
    (hload : Catalog.load files path = .error failure) :
    checker.tools files = ⟨[], .error failure⟩ := by
  rw [tools, h.unknown, h.catalog]
  change Logged.ofExcept (Catalog.load files path) >>= _ = _
  rw [hload]
  rfl

lemma tools_of_load_eq_ok (h : checker.Awaits path) (hload : Catalog.load files path = .ok specs) :
    checker.tools files = Logged.preceded (loadedRecord path specs) (pure specs) := by
  rw [tools, h.unknown, h.catalog]
  change Logged.ofExcept (Catalog.load files path) >>= _ = _
  rw [hload]
  rfl

/-- A catalog that cannot be read leaves the checker as it is. -/
lemma afterReading_of_load_eq_error (h : checker.Awaits path)
    (hload : Catalog.load files path = .error failure) : checker.afterReading files = checker := by
  obtain ⟨standards, catalogPath, policies, known⟩ := checker
  have hknown : known = none := h.unknown
  rw [afterReading, tools_of_load_eq_error h hload, hknown]
  rfl

lemma afterReading_of_load_eq_ok (h : checker.Awaits path)
    (hload : Catalog.load files path = .ok specs) :
    checker.afterReading files = checker.knowing specs := by
  rw [afterReading, tools_of_load_eq_ok h hload]
  rfl

/-- A checker that knows the tools has no need of files. -/
lemma checkTools_knowing (checker : Checker) (specs : List ToolSpec) (files : Files) (t : Text) :
    (checker.knowing specs).checkTools files t = specs.mapM (checker.checkSpec t) := by
  change pure specs >>= _ = _
  rw [pure_bind]
  rfl

lemma checkTools_of_load_eq_error (h : checker.Awaits path)
    (hload : Catalog.load files path = .error failure) (t : Text) :
    checker.checkTools files t = ⟨[], .error failure⟩ := by
  rw [checkTools, tools_of_load_eq_error h hload]
  rfl

/-- A checker that reads the catalog leaves a record of it, and then does what it does when it knows
the tools. -/
lemma checkTools_of_load_eq_ok (h : checker.Awaits path)
    (hload : Catalog.load files path = .ok specs) (others : Files) (t : Text) :
    checker.checkTools files t
      = Logged.preceded (loadedRecord path specs)
          ((checker.knowing specs).checkTools others t) := by
  rw [checkTools_knowing, checkTools, tools_of_load_eq_ok h hload, Logged.preceded_bind, pure_bind]

lemma collectedRecord_ne_loadedRecord (content : Text) (path : Path) (specs : List ToolSpec) :
    collectedRecord content ≠ loadedRecord path specs := by
  intro h
  have hwording := congrArg (fun record => record.message.wording.head?) h
  have hcollected : (collectedRecord content).message.wording.head? = some 'R' := rfl
  have hloaded : (loadedRecord path specs).message.wording.head? = some 'L' := rfl
  rw [hcollected, hloaded] at hwording
  exact absurd hwording (by decide)

/-- A checker that knows the tools leaves records of the tools that it detects, and no others. -/
lemma forall_records_checkTools_knowing {P : LogRecord → Prop}
    (h : ∀ name version, P (detectedRecord name version)) (checker : Checker)
    (specs : List ToolSpec) (files : Files) (t : Text) :
    ∀ record ∈ ((checker.knowing specs).checkTools files t).records, P record := by
  rw [checkTools_knowing]
  exact Logged.forall_records_mapM (forall_records_checkSpec h checker t) specs

end Checker

namespace Session

open Checker

/-! ### Steps -/

/-- Does the step ask for the tools? -/
def Step.asks : Step → Bool
  | .change _ => false
  | _ => true

/-- The changes that a step makes. -/
def Step.changes : Step → List FileChange
  | .change changes => changes
  | _ => []

/-- The state after steps. -/
def State.after (state : State) (steps : List Step) : State := steps.foldl State.next state

/-- The failure that a step shows. -/
def Shown.failure? : Shown → Option Failure
  | .report ⟨_, .error failure⟩ => some failure
  | .tools ⟨_, .error failure⟩ => some failure
  | _ => none

/-- The records that a step leaves. -/
def Shown.records : Shown → List LogRecord
  | .report result => result.records
  | .tools result => result.records
  | .changed => []

/-- What a step shows apart from its records. -/
def Shown.withoutRecords : Shown → Shown
  | .report result => .report ⟨[], result.outcome⟩
  | .tools result => .tools ⟨[], result.outcome⟩
  | .changed => .changed

/-- A step shows what it shows in the state after the steps before it. -/
lemma getElem?_run (state : State) (steps : List Step) (i : Nat) :
    (run state steps)[i]? = steps[i]?.map (state.after (steps.take i)).shown := by
  induction steps generalizing state i with
  | nil => rfl
  | cons step steps ih =>
    cases i with
    | zero => rfl
    | succ i => exact ih (state.next step) i

lemma after_take_succ {state : State} {steps : List Step} {i : Nat} {step : Step}
    (hstep : steps[i]? = some step) :
    state.after (steps.take (i + 1)) = (state.after (steps.take i)).next step := by
  rw [State.after, List.take_add_one, hstep, List.foldl_append]
  rfl

lemma files_next (state : State) (step : Step) :
    (state.next step).files = state.files.changeAll step.changes := by
  cases step <;> rfl

/-- The steps that change nothing leave the files as they are. -/
lemma files_after (state : State) (steps : List Step) :
    (state.after steps).files = state.files.changeAll (steps.flatMap Step.changes) := by
  induction steps generalizing state with
  | nil => rfl
  | cons step steps ih =>
    have hstep : state.after (step :: steps) = (state.next step).after steps := rfl
    rw [hstep, ih, files_next, List.flatMap_cons, Files.changeAll, Files.changeAll,
      Files.changeAll, List.foldl_append]

lemma checker_next_of_not_asks {step : Step} (h : step.asks = false) (state : State) :
    (state.next step).checker = state.checker := by
  cases step with
  | change changes => rfl
  | check content => simp [Step.asks] at h
  | checkTools t => simp [Step.asks] at h

lemma checker_next_of_asks {step : Step} (h : step.asks) (state : State) :
    (state.next step).checker = state.checker.afterReading state.files := by
  cases step with
  | change changes => simp [Step.asks] at h
  | check content => rfl
  | checkTools t => rfl

/-! ### What a step shows -/

section Shown

variable {state : State} {path : Path} {specs : List ToolSpec} {failure : Failure} {step : Step}

/-- A step whose reading fails shows the failure, and leaves no record of a reading. -/
lemma shown_of_load_eq_error (hasks : step.asks) (h : state.checker.Awaits path)
    (hload : Catalog.load state.files path = .error failure) :
    (state.shown step).failure? = some failure
      ∧ ∀ specs, loadedRecord path specs ∉ (state.shown step).records := by
  cases step with
  | change changes => simp [Step.asks] at hasks
  | check content =>
    have hcheck : state.checker.check state.files content
        = ⟨[collectedRecord content], .error failure⟩ := by
      rw [check_eq, checkTools_of_load_eq_error h hload]
      rfl
    rw [State.shown, hcheck]
    refine ⟨rfl, fun specs hmem => ?_⟩
    exact collectedRecord_ne_loadedRecord content path specs (List.mem_singleton.mp hmem).symm
  | checkTools t =>
    rw [State.shown, checkTools_of_load_eq_error h hload]
    exact ⟨rfl, fun specs => List.not_mem_nil⟩

/-- A step that reads the catalog shows what it shows where the tools are known, and leaves one more
record. -/
lemma shown_of_load_eq_ok (hasks : step.asks) (h : state.checker.Awaits path)
    (hload : Catalog.load state.files path = .ok specs) (others : Files) :
    let fresh : State := ⟨state.checker.knowing specs, others⟩
    (state.shown step).withoutRecords = (fresh.shown step).withoutRecords
      ∧ ∃ before after, (fresh.shown step).records = before ++ after
        ∧ (state.shown step).records = before ++ loadedRecord path specs :: after := by
  cases step with
  | change changes => simp [Step.asks] at hasks
  | check content =>
    simp only [State.shown, check_eq, checkTools_of_load_eq_ok h hload others,
      Logged.preceded_bind]
    exact ⟨rfl, [collectedRecord content], _, rfl, rfl⟩
  | checkTools t =>
    simp only [State.shown, checkTools_of_load_eq_ok h hload others]
    exact ⟨rfl, [], _, rfl, rfl⟩

/-- Where the tools are known, a step shows the same with other files. -/
lemma shown_knowing (checker : Checker) (specs : List ToolSpec) (files others : Files)
    (step : Step) :
    (⟨checker.knowing specs, files⟩ : State).shown step
      = (⟨checker.knowing specs, others⟩ : State).shown step := by
  cases step with
  | change changes => rfl
  | check content =>
    simp only [State.shown, check_eq, checkTools_knowing]
  | checkTools t =>
    simp only [State.shown, checkTools_knowing]

/-- Where the tools are known, no step leaves the record of a reading, unless the record of a tool
reads the same. -/
lemma loadedRecord_not_mem_shown_knowing
    (hwording : ∀ name version, detectedMessage name version ≠ loadedMessage path specs)
    (checker : Checker) (files : Files) (step : Step) :
    loadedRecord path specs
      ∉ ((⟨checker.knowing specs, files⟩ : State).shown step).records := by
  have hdetected : ∀ name version, detectedRecord name version ≠ loadedRecord path specs := by
    intro name version h
    simp only [detectedRecord, loadedRecord, LogRecord.mk.injEq, LogMessage.text.injEq] at h
    exact hwording name version h.2.2
  have hverdict : ∀ passed, verdictRecord passed ≠ loadedRecord path specs := by
    intro passed h
    have hlevel : (verdictRecord passed).level = .debug := congrArg LogRecord.level h
    cases passed <;> simp [verdictRecord] at hlevel
  have htools : ∀ t, ∀ record ∈ ((checker.knowing specs).checkTools files t).records,
      record ≠ loadedRecord path specs :=
    forall_records_checkTools_knowing hdetected checker specs files
  intro hmem
  cases step with
  | change changes => exact absurd hmem List.not_mem_nil
  | check content =>
    simp only [State.shown, Shown.records, check_eq, Logged.records_preceded] at hmem
    rcases List.mem_cons.mp hmem with h | h
    · exact collectedRecord_ne_loadedRecord content path specs h.symm
    · exact Logged.forall_records_bind (htools _)
        (forall_records_reportOn hverdict _ content) _ h rfl
  | checkTools t => exact htools t _ hmem rfl

end Shown

/-! ### Which step reads the catalog -/

/-- What reading the catalog gives at a step of a session that starts with the files. -/
def readAt (path : Path) (files : Files) (steps : List Step) (i : Nat) :
    Except Failure (List ToolSpec) :=
  Catalog.load (files.changeAll ((steps.take i).flatMap Step.changes)) path

/-- None of the steps before step `i` that ask for the tools can read the catalog. -/
def Unread (path : Path) (files : Files) (steps : List Step) (i : Nat) : Prop :=
  ∀ j < i, ∀ step, steps[j]? = some step → step.asks →
    ∃ failure, readAt path files steps j = .error failure

/-- Step `k` asks for the tools and can read the catalog, and it is the first that does. -/
structure IsFirstRead (path : Path) (files : Files) (steps : List Step) (k : Nat)
    (specs : List ToolSpec) : Prop where
  asks : ∃ step, steps[k]? = some step ∧ step.asks
  read : readAt path files steps k = .ok specs
  unread : Unread path files steps k

section Runs

variable {start : State} {path : Path} {steps : List Step} {i k : Nat} {specs : List ToolSpec}

/-- If the first read does not come before step `i`, there is none before it. -/
lemma unread_of_forall_isFirstRead {files : Files}
    (h : ∀ k specs, IsFirstRead path files steps k specs → i ≤ k) :
    Unread path files steps i := by
  intro j
  induction j using Nat.strongRecOn with
  | ind j ih =>
    intro hj step hstep hasks
    cases hread : readAt path files steps j with
    | error failure => exact ⟨failure, rfl⟩
    | ok specs =>
      have hunread : Unread path files steps j := fun l hl => ih l hl (Nat.lt_trans hl hj)
      have hle := h j specs ⟨⟨step, hstep, hasks⟩, hread, hunread⟩
      exact absurd hj (Nat.not_lt.mpr hle)

lemma load_after (start : State) (path : Path) (steps : List Step) (i : Nat) :
    Catalog.load (start.after (steps.take i)).files path = readAt path start.files steps i := by
  rw [files_after, readAt]

/-- As long as the catalog cannot be read, the checker is the one at the start. -/
lemma checker_after_of_unread (hstart : start.checker.Awaits path)
    (h : Unread path start.files steps i) :
    (start.after (steps.take i)).checker = start.checker := by
  induction i with
  | zero => rfl
  | succ i ih =>
    have hbefore := ih fun j hj => h j (Nat.lt_succ_of_lt hj)
    cases hstep : steps[i]? with
    | none =>
      rw [List.take_add_one, hstep, Option.toList_none, List.append_nil, hbefore]
    | some step =>
      rw [after_take_succ hstep]
      cases hasks : step.asks with
      | false => rw [checker_next_of_not_asks hasks, hbefore]
      | true =>
        obtain ⟨failure, hread⟩ := h i (Nat.lt_succ_self i) step hstep hasks
        rw [← load_after] at hread
        rw [checker_next_of_asks hasks, hbefore, afterReading_of_load_eq_error hstart hread]

/-- After the catalog was read, the checker knows the tools that stood there at that moment. -/
lemma checker_after_of_isFirstRead (hstart : start.checker.Awaits path)
    (h : IsFirstRead path start.files steps k specs) (hi : k + 1 ≤ i) :
    (start.after (steps.take i)).checker = start.checker.knowing specs := by
  induction hi with
  | refl =>
    obtain ⟨step, hstep, hasks⟩ := h.asks
    have hread := h.read
    rw [← load_after] at hread
    rw [after_take_succ hstep, checker_next_of_asks hasks,
      checker_after_of_unread hstart h.unread, afterReading_of_load_eq_ok hstart hread]
  | @step i _ ih =>
    cases hstep : steps[i]? with
    | none =>
      rw [List.take_add_one, hstep, Option.toList_none, List.append_nil, ih]
    | some step =>
      rw [after_take_succ hstep]
      cases hasks : step.asks with
      | false => rw [checker_next_of_not_asks hasks, ih]
      | true =>
        rw [checker_next_of_asks hasks, ih]
        exact afterReading_of_known rfl _

/-- The step that reads the catalog shows what it shows where the tools are known, and leaves one
more record. -/
lemma shown_at_isFirstRead (hstart : start.checker.Awaits path)
    (h : IsFirstRead path start.files steps k specs) {step : Step} (hasks : step.asks)
    (others : Files) :
    let fresh : State := ⟨start.checker.knowing specs, others⟩
    ((start.after (steps.take k)).shown step).withoutRecords = (fresh.shown step).withoutRecords
      ∧ ∃ before after, (fresh.shown step).records = before ++ after
        ∧ ((start.after (steps.take k)).shown step).records
          = before ++ loadedRecord path specs :: after := by
  have hhere := checker_after_of_unread hstart h.unread
  have hload : Catalog.load (start.after (steps.take k)).files path = .ok specs := by
    rw [load_after, h.read]
  rw [← hhere]
  exact shown_of_load_eq_ok hasks (hhere ▸ hstart) hload others

/-- The steps after the one that reads the catalog show what they show where the tools are known. -/
lemma shown_after_isFirstRead (hstart : start.checker.Awaits path)
    (h : IsFirstRead path start.files steps k specs) (hi : k + 1 ≤ i) (others : Files)
    (step : Step) :
    (start.after (steps.take i)).shown step
      = (⟨start.checker.knowing specs, others⟩ : State).shown step := by
  have hhere : start.after (steps.take i)
      = ⟨start.checker.knowing specs, (start.after (steps.take i)).files⟩ := by
    rw [← checker_after_of_isFirstRead hstart h hi]
  rw [hhere]
  exact shown_knowing start.checker specs _ others step

end Runs

/-! ### What a session with a catalog shows -/

/-- What a step that asks for the tools shows in a session whose checker has a catalog.

Up to the step that is the first to read the catalog, a step shows the failure of its own reading,
and leaves the checker as it was.  From that step on, a step shows what a checker shows that knew
the tools of that moment all along, whatever the files are.  The record of the reading is left by
that step, and by no other. -/
theorem run_with_catalog (standards : Standards) (path : Path) (precision matching : Option Text)
    (files : Files) {steps : List Step} {i : Nat} {step : Step} (hstep : steps[i]? = some step)
    (hasks : step.asks) :
    let checker := ofStandards standards (some path) precision matching
    let start : State := ⟨checker, files⟩
    ∃ shown, (run start steps)[i]? = some shown
      ∧ ((∀ k specs, IsFirstRead path files steps k specs → i < k) →
        ∃ failure, readAt path files steps i = .error failure
          ∧ shown.failure? = some failure
          ∧ (∀ specs, loadedRecord path specs ∉ shown.records)
          ∧ (start.after (steps.take i)).checker = checker
          ∧ (start.after (steps.take (i + 1))).checker = checker)
      ∧ ∀ k specs, IsFirstRead path files steps k specs → k ≤ i → ∀ others,
        let fresh : State := ⟨checker.knowing specs, others⟩
        (start.after (steps.take (i + 1))).checker = fresh.checker
          ∧ shown.withoutRecords = (fresh.shown step).withoutRecords
          ∧ (i ≠ k → shown.records = (fresh.shown step).records)
          ∧ (i = k → ∃ before after, (fresh.shown step).records = before ++ after
            ∧ shown.records = before ++ loadedRecord path specs :: after)
          ∧ ((∀ name version, detectedMessage name version ≠ loadedMessage path specs) →
            (loadedRecord path specs ∈ shown.records ↔ i = k)) := by
  intro checker start
  have hstart : start.checker.Awaits path := awaits_ofStandards standards path precision matching
  refine ⟨(start.after (steps.take i)).shown step, ?_, fun hbefore => ?_, ?_⟩
  · rw [getElem?_run, hstep, Option.map_some]
  · have hunread : Unread path files steps (i + 1) := unread_of_forall_isFirstRead hbefore
    obtain ⟨failure, hread⟩ := hunread i (Nat.lt_succ_self i) step hstep hasks
    have hhere := checker_after_of_unread hstart fun j hj => hunread j (Nat.lt_succ_of_lt hj)
    have hload : Catalog.load (start.after (steps.take i)).files path = .error failure := by
      rw [load_after, hread]
    obtain ⟨hfailure, hrecords⟩ := shown_of_load_eq_error hasks (hhere ▸ hstart) hload
    exact ⟨failure, hread, hfailure, hrecords, hhere, checker_after_of_unread hstart hunread⟩
  · intro k specs hfirst hk others fresh
    have hafter := checker_after_of_isFirstRead hstart hfirst (Nat.succ_le_succ hk)
    rcases Nat.eq_or_lt_of_le hk with rfl | hlt
    · obtain ⟨hshown, before, after, hfresh, hrecords⟩ :=
        shown_at_isFirstRead hstart hfirst hasks others
      have hmem : loadedRecord path specs
          ∈ ((start.after (steps.take k)).shown step).records := by
        rw [hrecords]
        exact List.mem_append_right before List.mem_cons_self
      exact ⟨hafter, hshown, fun hne => absurd rfl hne,
        fun _ => ⟨before, after, hfresh, hrecords⟩, fun _ => iff_of_true hmem rfl⟩
    · have hne : i ≠ k := Nat.ne_of_gt hlt
      rw [shown_after_isFirstRead hstart hfirst hlt others step]
      exact ⟨hafter, rfl, fun _ => rfl, fun heq => absurd heq hne, fun hwording =>
        iff_of_false (loadedRecord_not_mem_shown_knowing hwording checker others step) hne⟩

/-- A session in which the catalog is missing at first, and then is read and removed. -/
def exampleSteps : List Step :=
  let catalog : Text := "tools:\n- key: python\n  name: Python\n  patterns: [python(.)]\n"
  let path := Path.ofText "tools.yaml"
  [.checkTools "python3", .change [.write path (.file (Utf8.encode catalog))],
    .checkTools "python3", .change [.remove path], .checkTools "python3"]

/-- The third step of the example reads the catalog, and the first one could not. -/
lemma exists_isFirstRead_exampleSteps :
    ∃ specs, IsFirstRead (Path.ofText "tools.yaml") (Files.fresh []) exampleSteps 2 specs := by
  have hread : (readAt (Path.ofText "tools.yaml") (Files.fresh []) exampleSteps 2).isOk := by
    decide +kernel
  have hunread : Unread (Path.ofText "tools.yaml") (Files.fresh []) exampleSteps 2 := by
    intro j hj step hstep hasks
    match j, hj with
    | 0, _ => exact ⟨_, rfl⟩
    | 1, _ =>
      cases hstep
      exact absurd hasks (by decide)
  cases hload : readAt (Path.ofText "tools.yaml") (Files.fresh []) exampleSteps 2 with
  | error failure =>
    rw [hload] at hread
    exact absurd hread Bool.false_ne_true
  | ok specs => exact ⟨specs, ⟨_, rfl, rfl⟩, hload, hunread⟩

/-- The last step of the example has the tools, although the catalog is gone. -/
theorem run_with_catalog_removed :
    let path := Path.ofText "tools.yaml"
    let files := Files.fresh []
    let checker := ofStandards exampleStandards (some path) none none
    let start : State := ⟨checker, files⟩
    let step : Step := .checkTools "python3"
    exampleSteps[4]? = some step ∧ step.asks
      ∧ (∃ failure, readAt path files exampleSteps 4 = .error failure)
      ∧ ∃ specs, IsFirstRead path files exampleSteps 2 specs
        ∧ ∃ shown, (run start exampleSteps)[4]? = some shown
          ∧ (start.after exampleSteps).checker = checker.knowing specs
          ∧ shown.withoutRecords
            = ((⟨checker.knowing specs, files⟩ : State).shown step).withoutRecords := by
  intro path files checker start step
  have hstep : exampleSteps[4]? = some step := rfl
  obtain ⟨specs, hfirst⟩ := exists_isFirstRead_exampleSteps
  obtain ⟨shown, hshown, -, hlater⟩ :=
    run_with_catalog exampleStandards path none none files hstep rfl
  obtain ⟨hafter, hsame, -⟩ := hlater 2 specs hfirst (by decide) files
  exact ⟨hstep, rfl, ⟨_, rfl⟩, specs, hfirst, shown, hshown, hafter, hsame⟩

end Session

end DockCheck
