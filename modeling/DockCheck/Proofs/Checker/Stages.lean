import DockCheck.Checker
import DockCheck.Proofs.Log.Outcome
import DockCheck.Proofs.Tool.Detection

/-!
# The stages of a check

A check collects the instructions of a Dockerfile, asks for the tools, looks for each of them in the
instructions and gives its verdict.  Each of these stages has an outcome, and leaves records: the
`collectedRecord`, the `loadedRecord` of a catalog that was read, a `detectedRecord` for every tool
that is found and the `verdictRecord`.
-/

namespace DockCheck

namespace Standards

/-- Under the name of a key stand its allowed versions. -/
lemma allowed?_name (standards : Standards) (key : ToolKey) :
    standards.allowed? key.name = some (standards.versions key) := by
  rw [allowed?, ToolKey.ofName?_name, Option.map_some]

/-- A tool has no allowed versions exactly if its key is none of the known ones. -/
lemma allowed?_eq_none_iff {standards : Standards} {key : Text} :
    standards.allowed? key = none ↔ ∀ known : ToolKey, key ≠ known.name := by
  rw [allowed?, Option.map_eq_none_iff]
  constructor
  · rintro h known rfl
    rw [ToolKey.ofName?_name] at h
    simp at h
  · intro h
    cases hkey : ToolKey.ofName? key with
    | none => rfl
    | some known =>
      have hname : known.name = key := by simpa using List.find?_some hkey
      exact absurd hname.symm (h known)

end Standards

namespace Checker

/-- Standards with one allowed version for two of the tools. -/
def exampleStandards : Standards where
  baseImage := "alpine"
  jdkVersions := []
  mavenVersions := []
  gradleVersions := []
  goVersions := ["1"]
  nodeVersions := []
  pythonVersions := ["3.9"]
  precision := .truncated
  policy := .exact

/-- The text of a Dockerfile in which tools are looked for: its instructions, each on a line of its
own. -/
def scanned (content : Text) : Text :=
  let lines := Text.lines content
  toolText (Dockerfile.runInstructions (Dockerfile.escapeOf lines) lines)

/-- The record that the instructions of a Dockerfile were collected. -/
def collectedRecord (content : Text) : LogRecord :=
  let lines := Text.lines content
  let instructions := Dockerfile.runInstructions (Dockerfile.escapeOf lines) lines
  ⟨.debug, .checker, .text (collectedMessage instructions lines)⟩

/-- The record that a catalog was read. -/
def loadedRecord (path : Path) (specs : List ToolSpec) : LogRecord :=
  ⟨.debug, .checker, .text (loadedMessage path specs)⟩

/-- The record that a tool was detected. -/
def detectedRecord (name version : Text) : LogRecord :=
  ⟨.debug, .checker, .text (detectedMessage name version)⟩

/-- The record of the verdict. -/
def verdictRecord : Bool → LogRecord
  | true => ⟨.info, .checker, .text "Dockerfile complies with standards"⟩
  | false => ⟨.warning, .checker, .text "Dockerfile violates standards"⟩

/-- Makes the report from the results of the tools, and leaves a record of the verdict. -/
def reportOn (checker : Checker) (content : Text) (results : List ToolResult) : Logged Report := do
  let report : Report :=
    ⟨checkBaseImage (Text.lines content) checker.standards.baseImage, results⟩
  logVerdict report
  return report

variable {files : Files} {checker : Checker} {precision : Precision} {policy : MatchPolicy}

/-- The stages of a check. -/
lemma check_eq (files : Files) (checker : Checker) (content : Text) :
    checker.check files content
      = Logged.preceded (collectedRecord content)
          (checker.checkTools files (scanned content) >>= checker.reportOn content) := rfl

lemma logVerdict_eq (report : Report) :
    logVerdict report = ⟨[verdictRecord report.passed], .ok ()⟩ := by
  unfold logVerdict
  cases report.passed <;> rfl

/-! ### Outcomes -/

lemma outcome_logDetection (result : ToolResult) : (logDetection result).outcome = .ok () := by
  unfold logDetection
  cases result.version? <;> rfl

/-- A tool whose key is unknown is a fault of the catalog. -/
lemma outcome_checkSpec_of_unknown {spec : ToolSpec} (h : ∀ key : ToolKey, spec.key ≠ key.name)
    (checker : Checker) (t : Text) :
    (checker.checkSpec t spec).outcome
      = .error (.reported (.catalogInvalid checker.catalogPath (.unknownKey spec.key))) := by
  rw [checkSpec, Standards.allowed?_eq_none_iff.mpr h]
  rfl

/-- A tool whose key is known is checked against the allowed versions of the key. -/
lemma outcome_checkSpec (hpolicies : checker.policies = ⟨precision.name, policy.name⟩) (t : Text)
    {spec : ToolSpec} {key : ToolKey} (hkey : spec.key = key.name) :
    (checker.checkSpec t spec).outcome
      = (checkTool precision policy (checker.standards.versions key) spec t).mapError
          fun fault => .escaped (.tool (.search fault)) := by
  simp only [checkSpec, hkey, Standards.allowed?_name, hpolicies, checkToolBy_name,
    Logged.outcome_bind, Logged.outcome_ofExcept, outcome_logDetection, Logged.outcome_pure]
  cases checkTool precision policy (checker.standards.versions key) spec t <;> rfl

/-- The tools in a text are checked one after the other. -/
lemma outcome_checkTools {specs : List ToolSpec}
    (hspecs : (checker.tools files).outcome = .ok specs) (t : Text) :
    (checker.checkTools files t).outcome
      = specs.mapM fun spec => (checker.checkSpec t spec).outcome := by
  rw [checkTools, Logged.outcome_bind, hspecs, ← Logged.outcome_mapM]
  rfl

/-- The report puts the base image and the results of the tools together. -/
lemma outcome_check (files : Files) (checker : Checker) (content : Text) :
    (checker.check files content).outcome
      = (checker.checkTools files (scanned content)).outcome.map fun results =>
          ⟨checkBaseImage (Text.lines content) checker.standards.baseImage, results⟩ := by
  rw [check_eq, Logged.outcome_preceded, Logged.outcome_bind]
  simp only [reportOn, logVerdict_eq, Logged.outcome_bind, Logged.outcome_pure]
  cases (checker.checkTools files (scanned content)).outcome <;> rfl

/-! ### Records -/

variable {P : LogRecord → Prop}

/-- The check of a tool leaves at most the record that it was detected. -/
lemma forall_records_checkSpec (h : ∀ name version, P (detectedRecord name version))
    (checker : Checker) (t : Text) (spec : ToolSpec) :
    ∀ record ∈ (checker.checkSpec t spec).records, P record := by
  unfold checkSpec
  cases checker.standards.allowed? spec.key with
  | none => simp
  | some allowed =>
    refine Logged.forall_records_bind (by simp) fun result => ?_
    refine Logged.forall_records_bind ?_ (by simp)
    unfold logDetection
    cases result.version? with
    | none => simp
    | some version => simpa [detectedRecord] using h result.name version

/-- The report leaves the record of the verdict. -/
lemma forall_records_reportOn (h : ∀ passed, P (verdictRecord passed)) (checker : Checker)
    (content : Text) (results : List ToolResult) :
    ∀ record ∈ (checker.reportOn content results).records, P record := by
  unfold reportOn
  refine Logged.forall_records_bind ?_ (by simp)
  rw [logVerdict_eq]
  simpa using h _

end Checker

end DockCheck
