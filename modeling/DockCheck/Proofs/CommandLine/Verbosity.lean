import DockCheck.Proofs.CommandLine.Arguments
import DockCheck.Proofs.CommandLine.Outcome
import DockCheck.Proofs.Settings

/-!
# The log of a run

The level of the log decides on the records that a run keeps, and on nothing else.  A check leaves
`allRecords`, of which the threshold of the log lets some pass, and neither the output nor the code
nor a crash depends on it.

The main statement, `log_separate`, compares two runs that differ in the variable of the level and
in the option for verbosity at most.
-/

namespace DockCheck.CommandLine

variable {options : Options} {environment other : List (Text × Text)} {files : Files}
  {settings others : Settings} {request : Request}

/-! ### Endings -/

namespace Ending

/-- How a run ends, without its log. -/
def withoutRecords : Ending → Ending
  | finished code output _ => finished code output []
  | crashed crash _ => crashed crash []
  | ending => ending

/-- The log of a run. -/
def records : Ending → List LogRecord
  | finished _ _ records => records
  | crashed _ records => records
  | _ => []

end Ending

/-- All records that a check leaves, with that of its failure if it is reported. -/
def allRecords (result : Logged Report) : List LogRecord :=
  match result.outcome with
  | .error (.reported error) => result.records ++ [failureRecord error]
  | _ => result.records

/-- The log keeps the records of the check that its threshold lets pass. -/
lemma records_ofResult (format : Format) (threshold : Threshold) (result : Logged Report) :
    (Ending.ofResult format threshold result).records = keep threshold (allRecords result) := by
  unfold Ending.ofResult allRecords
  rcases result.outcome with (_ | _) | _ <;> rfl

/-- The threshold of the log matters for the log only. -/
lemma withoutRecords_ofResult (format : Format) (first second : Threshold)
    (result : Logged Report) :
    (Ending.ofResult format first result).withoutRecords
      = (Ending.ofResult format second result).withoutRecords := by
  unfold Ending.ofResult
  rcases result.outcome with (_ | _) | _ <;> rfl

/-- What a log keeps of all records from a level on, it keeps of those from a lower level on. -/
lemma keep_keep_of_rank_le {least level : LogLevel} (h : least.rank ≤ level.rank)
    (records : List LogRecord) :
    keep (.from level) (keep (.from least) records) = keep (.from level) records := by
  unfold keep
  rw [List.filter_filter]
  apply List.filter_congr
  intro record _
  have hkeeps : Threshold.keeps (.from level) record.level
      → Threshold.keeps (.from least) record.level := by
    simp only [Threshold.keeps, decide_eq_true_eq]
    exact Nat.le_trans h
  rw [Bool.and_eq_left_iff_imp]
  exact hkeeps

/-! ### Checks -/

/-- Whatever the level of the log is, a check comes to the same. -/
lemma checked_eq_of_sameBut (hload : Settings.load environment = .ok settings)
    (hother : Settings.load other = .ok others)
    (hsame : Settings.SameBut [Settings.variableOf "log_level"] environment other) :
    checked options other files = checked options environment files := by
  have hplan : Plan.make options others = Plan.make options settings := by
    rw [Settings.eq_of_sameBut_logLevel hload hother hsame]
    rfl
  unfold checked
  rw [hload, hother]
  dsimp only
  rw [hplan]

lemma usualLevel_of_load (hload : Settings.load environment = .ok settings) :
    usualLevel environment = settings.logLevel := by
  unfold usualLevel
  rw [hload]

/-- The end of a check at the level that the settings ask for. -/
lemma runCheck_of_load (hload : Settings.load environment = .ok settings) (verbose : Bool) :
    runCheck { options with verbose := verbose } environment files
      = .ofResult options.format (.from (if verbose then .debug else settings.logLevel))
          (checked options environment files) := by
  rw [runCheck_eq, usualLevel_of_load hload]
  rfl

/-- The failure of a check is in the log unless only graver records are kept. -/
lemma failureRecord_mem_records_iff {error : CheckError}
    (hload : Settings.load environment = .ok settings)
    (herror : ComesTo options environment files (.error (.reported error))) (verbose : Bool) :
    failureRecord error
        ∈ (runCheck { options with verbose := verbose } environment files).records
      ↔ verbose = true ∨ settings.logLevel ≠ .critical := by
  have houtcome := comesTo_iff.mp herror
  have hall : allRecords (checked options environment files)
      = (checked options environment files).records ++ [failureRecord error] := by
    unfold allRecords
    rw [houtcome]
  rw [runCheck_of_load hload, records_ofResult, hall]
  unfold keep
  rw [List.mem_filter]
  have hmem : failureRecord error
      ∈ (checked options environment files).records ++ [failureRecord error] :=
    List.mem_append_right _ (List.mem_singleton_self _)
  rw [and_iff_right hmem]
  change Threshold.keeps _ .error = true ↔ _
  cases verbose with
  | true => exact iff_of_true rfl (Or.inl rfl)
  | false => cases settings.logLevel <;> decide

/-! ### Runs -/

/-- The log of a run has no say in how the run ends.

Two runs whose arguments ask for the same, but for verbosity, and whose environments make settings
and differ in the level of the log at most, have the same output and the same code, or break off in
the same way.  The log of a run that is not verbose is the part of the log of a verbose one that has
the level of the settings or a graver one.  A failure that is reported is in the log of every run
but one that is not verbose and has the level for critical records.  Arguments ask for verbosity,
and otherwise for the same, with the option for it in front. -/
theorem log_separate {arguments otherArguments : List Text} {verbose otherVerbose : Bool}
    (harguments : Request.ofArguments arguments = .ok (request.withVerbose verbose))
    (hothers : Request.ofArguments otherArguments = .ok (request.withVerbose otherVerbose))
    (hload : Settings.load environment = .ok settings)
    (hother : Settings.load other = .ok others)
    (hsame : Settings.SameBut [Settings.variableOf "log_level"] environment other)
    (files : Files) :
    (run otherArguments other files).withoutRecords
        = (run arguments environment files).withoutRecords
      ∧ (verbose = false → otherVerbose = true →
        (run arguments environment files).records
          = (run otherArguments other files).records.filter
              (fun record => settings.logLevel.rank ≤ record.level.rank))
      ∧ (∀ options error, request = .check options →
        ComesTo options environment files (.error (.reported error)) →
        (failureRecord error ∈ (run arguments environment files).records
          ↔ verbose = true ∨ settings.logLevel ≠ .critical))
      ∧ Request.ofArguments ("--verbose" :: arguments) = .ok (request.withVerbose true) := by
  have hcons := Request.ofArguments_verbose_cons harguments
  cases request with
  | help =>
    rw [run_of_help harguments, run_of_help hothers]
    refine ⟨rfl, fun _ _ => rfl, ?_, hcons⟩
    intro options error hrequest
    cases hrequest
  | check options =>
    rw [run_of_check harguments, run_of_check hothers]
    refine ⟨?_, ?_, ?_, hcons⟩
    · rw [runCheck_of_load hload, runCheck_of_load hother,
        checked_eq_of_sameBut hload hother hsame]
      exact withoutRecords_ofResult _ _ _ _
    · rintro rfl rfl
      have hrank : LogLevel.debug.rank ≤ settings.logLevel.rank := by
        cases settings.logLevel <;> decide
      rw [runCheck_of_load hload, runCheck_of_load hother, records_ofResult, records_ofResult,
        checked_eq_of_sameBut hload hother hsame]
      exact (keep_keep_of_rank_le hrank _).symm
    · intro options error hrequest herror
      cases hrequest
      exact failureRecord_mem_records_iff hload herror verbose

/-- With verbosity, a level for critical records only hides nothing, and without it, the usual level
keeps the failure. -/
theorem log_separate_unknown_key :
    let arguments : List Text :=
      ["-s", "s.yaml", "--tools=t.yaml", "--format", "json", "-fDockerfile"]
    let silent : List (Text × Text) := [("Dockwarden_Log_Level", "critical")]
    let error := CheckError.catalogInvalid (Path.ofText "t.yaml") (.unknownKey "rust")
    (run ("--verbose" :: arguments) silent exampleFiles).withoutRecords
        = (run arguments [] exampleFiles).withoutRecords
      ∧ (run arguments [] exampleFiles).records
        = (run ("--verbose" :: arguments) silent exampleFiles).records.filter
            (fun record => LogLevel.warning.rank ≤ record.level.rank)
      ∧ failureRecord error ∈ (run arguments [] exampleFiles).records := by
  intro arguments silent error
  have harguments : Request.ofArguments arguments
      = .ok ((Request.check exampleOptions).withVerbose false) := by decide +kernel
  have hverbose : Request.ofArguments ("--verbose" :: arguments)
      = .ok ((Request.check exampleOptions).withVerbose true) := by decide +kernel
  have hsilent : Settings.load silent = .ok { Settings.usual with logLevel := .critical } := by
    decide +kernel
  have hsame : Settings.SameBut [Settings.variableOf "log_level"] [] silent :=
    Settings.sameBut_append (by decide) "critical" []
  have hcomes : ComesTo exampleOptions [] exampleFiles (.error (.reported error)) := by
    rw [comesTo_iff]
    decide +kernel
  obtain ⟨hend, hrecords, hfailure, -⟩ :=
    log_separate harguments hverbose Settings.load_nil hsilent hsame exampleFiles
  refine ⟨hend, hrecords rfl rfl, ?_⟩
  rw [hfailure exampleOptions error rfl hcomes]
  exact Or.inr (by decide)

end DockCheck.CommandLine
