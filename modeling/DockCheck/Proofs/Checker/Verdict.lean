import DockCheck.Proofs.Checker.Tools
import DockCheck.Proofs.Dockerfile.BaseImage

/-!
# Verdicts

A check cuts a Dockerfile into lines, collects its instructions, looks for tools in them and judges
what it finds.  This module says what comes out of all these stages together.

The main statement, `check_outcome`, describes the report of a checker whose tools and policies are
known: it has one result for each tool in order, and it passes exactly if the file names the
expected base image and every tool complies.  The one way in which there is no report is that a
search comes upon a match in which a group ends before it begins; that needs a pattern that is not
orderly, and `not_exists_report_of_possessive` is a file and a tool with which it happens.
-/

namespace DockCheck

/-- A report passes exactly if its base image and all its tools do. -/
lemma Report.passed_iff (report : Report) :
    report.passed ↔ report.baseImage.valid ∧ ∀ result ∈ report.tools, result.isValid := by
  have hmissing : ∀ result : ToolResult, ¬ result.isFound → result.isValid := by
    intro result
    cases result <;> simp [ToolResult.isFound, ToolResult.isValid]
  simp only [passed, found, Bool.and_eq_true, List.all_eq_true, List.mem_filter, and_imp]
  refine and_congr_right fun _ => forall₂_congr fun result _ => ⟨fun h => ?_, fun h _ => h⟩
  by_cases hfound : result.isFound
  · exact h hfound
  · exact hmissing result hfound

namespace Checker

section Outcomes

variable {files : Files} {checker : Checker} {precision : Precision} {policy : MatchPolicy}

/-! ### The report -/

/-- A tool in a text complies with the allowed versions under its key. -/
def Accepts (checker : Checker) (precision : Precision) (policy : MatchPolicy) (t : Text)
    (spec : ToolSpec) : Prop :=
  ∃ key : ToolKey, spec.key = key.name
    ∧ Complies precision policy (checker.standards.versions key) spec t

/-- A tool whose result is known is accepted exactly if the result is valid. -/
lemma GivesResult.accepts_iff {t : Text} {spec : ToolSpec} {result : ToolResult}
    (h : checker.GivesResult precision policy t spec result) :
    checker.Accepts precision policy t spec ↔ result.isValid := by
  obtain ⟨key, hkey, hresult⟩ := h
  rw [hresult.isValid_iff]
  constructor
  · rintro ⟨other, hother, hcomplies⟩
    have hsame : some key = some other := by
      rw [← ToolKey.ofName?_name, ← hkey, hother, ToolKey.ofName?_name]
    cases hsame
    exact hcomplies
  · exact fun hcomplies => ⟨key, hkey, hcomplies⟩

variable {specs : List ToolSpec}

section Policies

variable (hpolicies : checker.policies = ⟨precision.name, policy.name⟩)

include hpolicies

/-- If every tool can be judged, there is a report with their results. -/
lemma exists_report (hspecs : (checker.tools files).outcome = .ok specs) {content : Text}
    (hjudged : ∀ spec ∈ specs, IsJudged (scanned content) spec) :
    ∃ results, (checker.check files content).outcome
        = .ok ⟨checkBaseImage (Text.lines content) checker.standards.baseImage, results⟩
      ∧ List.Forall₂ (checker.GivesResult precision policy (scanned content)) specs results := by
  obtain ⟨results, hresults⟩ := exists_forall₂ fun spec hmem =>
    exists_checkSpec_eq_ok hpolicies (hjudged spec hmem)
  have houtcome : specs.mapM (fun spec => (checker.checkSpec (scanned content) spec).outcome)
      = .ok results := mapM_eq_ok_iff.mpr (hresults.imp fun _ _ h => h.1)
  refine ⟨results, ?_, hresults.imp fun _ _ h => h.2⟩
  rw [outcome_check, outcome_checkTools hspecs, houtcome]
  rfl

/-- If the keys are known, there is no report exactly if a search breaks. -/
lemma check_breaks_iff (hspecs : (checker.tools files).outcome = .ok specs)
    (hkeys : ∀ spec ∈ specs, ∃ key : ToolKey, spec.key = key.name) {content : Text} :
    (checker.check files content).outcome = .error (.escaped (.tool (.search .spanReversed)))
      ↔ ∃ spec ∈ specs, DetectionBreaks spec.patterns (scanned content) := by
  rw [check_eq_error_iff hpolicies hspecs]
  constructor
  · intro h
    obtain ⟨spec, hmem, hrefuses⟩ := h.exists_mem
    cases hrefuses with
    | search _ hbreaks => exact ⟨spec, hmem, hbreaks⟩
  · rintro ⟨spec, hmem, hbreaks⟩
    refine reaches_of_exists_mem ⟨spec, hmem, .search (hkeys spec hmem) hbreaks⟩ ?_
    intro other hother
    by_cases h : DetectionBreaks other.patterns (scanned content)
    · exact Or.inr (.search (hkeys other hother) h)
    · exact Or.inl ⟨hkeys other hother, h⟩

end Policies

/-- What a check of a Dockerfile comes to, if the tools and the policies are known and every tool
has a list of allowed versions.

Unless a search breaks, there is a report.  It has one result for each tool, in order, and it
passes exactly if the first `FROM` line names the expected base image and every tool either is not
detected or is detected in an allowed version.  A search never breaks if the patterns are
orderly. -/
theorem check_outcome (hspecs : (checker.tools files).outcome = .ok specs)
    (hpolicies : checker.policies = ⟨precision.name, policy.name⟩)
    (hkeys : ∀ spec ∈ specs, ∃ key : ToolKey, spec.key = key.name) (content : Text) :
    ((∀ spec ∈ specs, ¬ DetectionBreaks spec.patterns (scanned content)) →
        ∃ report, (checker.check files content).outcome = .ok report
          ∧ List.Forall₂ (checker.GivesResult precision policy (scanned content)) specs
              report.tools
          ∧ (report.passed
            ↔ Dockerfile.NamesImage (Text.lines content) checker.standards.baseImage
              ∧ ∀ spec ∈ specs, checker.Accepts precision policy (scanned content) spec))
      ∧ ((checker.check files content).outcome = .error (.escaped (.tool (.search .spanReversed)))
        ↔ ∃ spec ∈ specs, DetectionBreaks spec.patterns (scanned content))
      ∧ ((∀ spec ∈ specs, ∀ pattern ∈ spec.patterns, pattern.body.isOrderly []) →
        ∀ spec ∈ specs, ¬ DetectionBreaks spec.patterns (scanned content)) := by
  refine ⟨fun hbreaks => ?_, check_breaks_iff hpolicies hspecs hkeys, fun horderly spec hmem => ?_⟩
  · obtain ⟨results, houtcome, hresults⟩ :=
      exists_report hpolicies hspecs fun spec hmem => ⟨hkeys spec hmem, hbreaks spec hmem⟩
    refine ⟨_, houtcome, hresults, ?_⟩
    rw [Report.passed_iff, valid_checkBaseImage_iff]
    exact and_congr_right fun _ =>
      (forall_mem_iff_of_forall₂ hresults fun _ _ h => h.accepts_iff).symm
  · exact not_detectionBreaks_of_isOrderly (horderly spec hmem) _

/-! ### A file that complies and a search that breaks -/

/-- The built-in tools have an outcome for a file that mentions one of them. -/
theorem check_outcome_builtin :
    let files := Files.fresh []
    let checker := ofStandards exampleStandards none none none
    let content : Text := "FROM alpine\nRUN apt-get install python3.9"
    (checker.tools files).outcome = .ok Builtin.tools
      ∧ checker.policies = ⟨Precision.truncated.name, MatchPolicy.exact.name⟩
      ∧ (∀ spec ∈ Builtin.tools, ∃ key : ToolKey, spec.key = key.name)
      ∧ ∃ report, (checker.check files content).outcome = .ok report
        ∧ List.Forall₂ (checker.GivesResult .truncated .exact (scanned content)) Builtin.tools
            report.tools
        ∧ report.passed
        ∧ Dockerfile.NamesImage (Text.lines content) exampleStandards.baseImage
        ∧ ∀ spec ∈ Builtin.tools, checker.Accepts .truncated .exact (scanned content) spec := by
  intro files checker content
  have hspecs : (checker.tools files).outcome = .ok Builtin.tools := rfl
  have hpolicies : checker.policies = ⟨Precision.truncated.name, MatchPolicy.exact.name⟩ := rfl
  have hkeys : ∀ spec ∈ Builtin.tools, ∃ key : ToolKey, spec.key = key.name := by
    simp only [Builtin.tools, List.forall_mem_cons]
    exact ⟨⟨.jdk, rfl⟩, ⟨.maven, rfl⟩, ⟨.gradle, rfl⟩, ⟨.go, rfl⟩, ⟨.node, rfl⟩, ⟨.python, rfl⟩,
      nofun⟩
  obtain ⟨hreport, -, horderly⟩ := check_outcome hspecs hpolicies hkeys content
  obtain ⟨report, houtcome, hresults, hpassed⟩ := hreport (horderly Builtin.isOrderly_of_mem_tools)
  have heval : (checker.check files content).outcome.toOption.map Report.passed = some true := by
    decide +kernel
  have htrue : report.passed := by
    rw [houtcome] at heval
    simpa [Except.toOption] using heval
  exact ⟨hspecs, hpolicies, hkeys, report, houtcome, hresults, htrue, hpassed.mp htrue⟩

/-- A catalog with one tool, whose pattern repeats a group possessively. -/
def possessiveCatalog : Text :=
  "tools: [\x7bkey: go, name: Go, patterns: ['(?:(\\d)|v)*+']\x7d]"

/-- The pattern of the catalog matches `1vv`, but its group then ends before it begins, so that
there is no report although the catalog is read and its tool has a list of allowed versions. -/
theorem not_exists_report_of_possessive :
    let path := Path.ofText "tools.yaml"
    let files := (Files.fresh []).write path (.file (Utf8.encode possessiveCatalog))
    let checker := ofStandards exampleStandards (some path) none none
    (∃ specs, (checker.tools files).outcome = .ok specs
        ∧ ∀ spec ∈ specs, ∃ key : ToolKey, spec.key = key.name)
      ∧ ¬ ∃ report, (checker.check files "FROM alpine\nRUN 1vv").outcome = .ok report := by
  intro path files checker
  have hkeys : (checker.tools files).outcome.toOption.map (List.map ToolSpec.key)
      = some [ToolKey.go.name] := by decide +kernel
  have hfails : (checker.check files "FROM alpine\nRUN 1vv").outcome.toOption = none := by
    decide +kernel
  constructor
  · cases h : (checker.tools files).outcome with
    | error failure => rw [h] at hkeys; cases hkeys
    | ok specs =>
      rw [h] at hkeys
      have hmap : specs.map ToolSpec.key = [ToolKey.go.name] := Option.some.inj hkeys
      refine ⟨specs, rfl, fun spec hmem => ⟨.go, ?_⟩⟩
      have hkey : spec.key ∈ specs.map ToolSpec.key := List.mem_map_of_mem hmem
      rwa [hmap, List.mem_singleton] at hkey
  · rintro ⟨report, hreport⟩
    rw [hreport] at hfails
    cases hfails

end Outcomes

end Checker

end DockCheck
