import DockCheck.Proofs.Checker.Verdict

/-!
# Standards that ask for less

Standards ask for less than others if they allow all versions that the others allow and, where they
compare versions in another way, do so by their beginnings.  The same tools are then found in the
same versions, and each of them fares at least as well (`ToolResult.Improves`).

The main statement, `check_relaxed`, says that a checker that asks for less (`Relaxes`) comes to a
report exactly where the other one does, and that a Dockerfile that passes goes on to pass.
-/

namespace DockCheck

/-! ### Versions and tools -/

/-- A version that is allowed stays so if more versions are allowed, and if they are compared by
their beginnings. -/
lemma Version.isAllowed_of_subset {policy relaxed : MatchPolicy} {allowed more : List Text}
    {version : Text} (hpolicy : relaxed = policy ∨ relaxed = .leading) (hsubset : allowed ⊆ more)
    (h : isAllowed policy allowed version) : isAllowed relaxed more version := by
  -- A version that is allowed, or refines one that is, does so by its beginning.
  have hleading : (∃ entry ∈ allowed, version = entry ∨ Text.startsWith version (entry ++ ['.']))
      → isAllowed .leading more version := by
    rintro ⟨entry, hentry, hversion⟩
    have hany : version == entry || Text.startsWith version (entry ++ ['.']) := by
      simpa using hversion
    exact List.any_eq_true.mpr ⟨entry, hsubset hentry, hany⟩
  cases policy with
  | exact =>
    have hmem : version ∈ allowed := List.contains_iff_mem.mp h
    rcases hpolicy with rfl | rfl
    · exact List.contains_iff_mem.mpr (hsubset hmem)
    · exact hleading ⟨version, hmem, Or.inl rfl⟩
  | leading =>
    have hrelaxed : relaxed = .leading := hpolicy.elim id id
    obtain ⟨entry, hentry, hversion⟩ := List.any_eq_true.mp h
    rw [hrelaxed]
    exact hleading ⟨entry, hentry, by simpa using hversion⟩

/-- A result is at least as good as another one of the same tool: the tool is found in the same
version, if it is found, and complies if it does so by the other result. -/
structure ToolResult.Improves (better result : ToolResult) : Prop where
  name : better.name = result.name
  found : better.isFound = result.isFound
  version : better.version? = result.version?
  valid : result.isValid → better.isValid

section Tools

variable {precision : Precision} {policy relaxed : MatchPolicy} {allowed more : List Text}

/-- The judgement on a version gets no worse. -/
lemma improves_judge (hpolicy : relaxed = policy ∨ relaxed = .leading) (hsubset : allowed ⊆ more)
    (name raw : Text) :
    (judge precision relaxed more name raw).Improves (judge precision policy allowed name raw) := by
  have hallowed : Version.isAllowed policy allowed (Version.normalize precision raw)
      → Version.isAllowed relaxed more (Version.normalize precision raw) :=
    Version.isAllowed_of_subset hpolicy hsubset
  unfold judge
  dsimp only
  by_cases h : Version.isAllowed policy allowed (Version.normalize precision raw)
  · rw [if_pos h, if_pos (hallowed h)]
    exact ⟨rfl, rfl, rfl, id⟩
  · rw [if_neg h]
    split
    · exact ⟨rfl, rfl, rfl, fun _ => rfl⟩
    · exact ⟨rfl, rfl, rfl, id⟩

/-- The check of a tool comes to a result that is no worse. -/
lemma exists_checkTool_improves (hpolicy : relaxed = policy ∨ relaxed = .leading)
    (hsubset : allowed ⊆ more) {spec : ToolSpec} {t : Text} {result : ToolResult}
    (h : checkTool precision policy allowed spec t = .ok result) :
    ∃ better, checkTool precision relaxed more spec t = .ok better ∧ better.Improves result := by
  unfold checkTool at h ⊢
  cases hversion : extractVersion spec.patterns t with
  | error fault =>
    rw [hversion] at h
    cases h
  | ok found =>
    rw [hversion] at h
    cases found with
    | none =>
      cases h
      exact ⟨_, rfl, rfl, rfl, rfl, id⟩
    | some raw =>
      cases h
      exact ⟨_, rfl, improves_judge hpolicy hsubset spec.name raw⟩

end Tools

namespace Checker

/-! ### Checkers -/

/-- The second checker asks for less than the first.  Its tools, its base image and its precision
are the same, it allows all versions that the first one allows, and it compares versions as the
first one does or by their beginnings. -/
structure Relaxes (checker relaxed : Checker) : Prop where
  catalogPath : relaxed.catalogPath = checker.catalogPath
  known : relaxed.known = checker.known
  baseImage : relaxed.standards.baseImage = checker.standards.baseImage
  versions : ∀ key, checker.standards.versions key ⊆ relaxed.standards.versions key
  policies : ∃ precision policy relaxedPolicy,
    checker.policies = ⟨Precision.name precision, MatchPolicy.name policy⟩
      ∧ relaxed.policies = ⟨Precision.name precision, MatchPolicy.name relaxedPolicy⟩
      ∧ (relaxedPolicy = policy ∨ relaxedPolicy = .leading)

variable {checker relaxed : Checker} {t : Text} {spec : ToolSpec} {failure : Failure}

lemma Relaxes.refuses_iff (h : Relaxes checker relaxed) :
    relaxed.Refuses t spec failure ↔ checker.Refuses t spec failure := by
  constructor
  · rintro (hkey | ⟨hkey, hbreaks⟩)
    · rw [h.catalogPath]
      exact .unknownKey hkey
    · exact .search hkey hbreaks
  · rintro (hkey | ⟨hkey, hbreaks⟩)
    · rw [← h.catalogPath]
      exact .unknownKey hkey
    · exact .search hkey hbreaks

lemma Relaxes.tools_eq (h : Relaxes checker relaxed) (files : Files) :
    relaxed.tools files = checker.tools files := by
  rw [tools, tools, h.known, h.catalogPath]

/-- A tool fails by both checkers or by none of them. -/
lemma Relaxes.checkSpec_eq_error_iff (h : Relaxes checker relaxed) :
    (relaxed.checkSpec t spec).outcome = .error failure
      ↔ (checker.checkSpec t spec).outcome = .error failure := by
  obtain ⟨precision, policy, relaxedPolicy, hpolicies, hrelaxed, -⟩ := h.policies
  rw [Checker.checkSpec_eq_error_iff hrelaxed, Checker.checkSpec_eq_error_iff hpolicies,
    h.refuses_iff]

/-- A tool that has a result has one that is no worse by the second checker. -/
lemma Relaxes.exists_checkSpec (h : Relaxes checker relaxed) {result : ToolResult}
    (hresult : (checker.checkSpec t spec).outcome = .ok result) :
    ∃ better, (relaxed.checkSpec t spec).outcome = .ok better ∧ better.Improves result := by
  obtain ⟨precision, policy, relaxedPolicy, hpolicies, hrelaxed, hpolicy⟩ := h.policies
  obtain ⟨⟨key, hkey⟩, -⟩ := (exists_checkSpec_eq_ok_iff hpolicies).mp ⟨result, hresult⟩
  rw [outcome_checkSpec hpolicies t hkey] at hresult
  cases hcheck : checkTool precision policy (checker.standards.versions key) spec t with
  | error fault =>
    rw [hcheck] at hresult
    cases hresult
  | ok given =>
    rw [hcheck] at hresult
    cases hresult
    obtain ⟨better, hbetter, himproves⟩ :=
      exists_checkTool_improves hpolicy (h.versions key) hcheck
    refine ⟨better, ?_, himproves⟩
    rw [outcome_checkSpec hrelaxed t hkey, hbetter]
    rfl

/-- The check of the tools fails by both checkers or by none of them. -/
lemma Relaxes.checkTools_eq_error_iff (h : Relaxes checker relaxed) (files : Files) (t : Text)
    (failure : Failure) : (relaxed.checkTools files t).outcome = .error failure
      ↔ (checker.checkTools files t).outcome = .error failure := by
  have htools := h.tools_eq files
  cases hspecs : (checker.tools files).outcome with
  | error other =>
    rw [checkTools, checkTools, Logged.outcome_bind, Logged.outcome_bind, htools, hspecs]
    rfl
  | ok specs =>
    obtain ⟨precision, policy, relaxedPolicy, hpolicies, hrelaxed, -⟩ := h.policies
    have hrelaxedSpecs : (relaxed.tools files).outcome = .ok specs := by rw [htools, hspecs]
    rw [Checker.checkTools_eq_error_iff hrelaxed hrelaxedSpecs,
      Checker.checkTools_eq_error_iff hpolicies hspecs]
    simp only [h.refuses_iff]

/-- Where the check of the tools gives results, the second checker gives results that are no
worse. -/
lemma Relaxes.exists_checkTools (h : Relaxes checker relaxed) {files : Files}
    {results : List ToolResult} (hresults : (checker.checkTools files t).outcome = .ok results) :
    ∃ better, (relaxed.checkTools files t).outcome = .ok better
      ∧ List.Forall₂ ToolResult.Improves better results := by
  have htools := h.tools_eq files
  cases hspecs : (checker.tools files).outcome with
  | error other =>
    rw [checkTools, Logged.outcome_bind, hspecs] at hresults
    cases hresults
  | ok specs =>
    have hrelaxedSpecs : (relaxed.tools files).outcome = .ok specs := by rw [htools, hspecs]
    rw [outcome_checkTools hspecs, mapM_eq_ok_iff] at hresults
    obtain ⟨better, hbetter, himproves⟩ :=
      exists_forall₂_of_forall₂ hresults fun spec result => h.exists_checkSpec
    refine ⟨better, ?_, himproves⟩
    rw [outcome_checkTools hrelaxedSpecs, mapM_eq_ok_iff]
    exact hbetter

/-- Results that are no worse are all valid if the others are. -/
lemma isValid_of_forall₂_improves {better results : List ToolResult}
    (h : List.Forall₂ ToolResult.Improves better results)
    (hvalid : ∀ result ∈ results, result.isValid) : ∀ result ∈ better, result.isValid := by
  induction h with
  | nil => exact hvalid
  | cons himproves _ ih =>
    obtain ⟨hfirst, hothers⟩ := List.forall_mem_cons.mp hvalid
    exact List.forall_mem_cons.mpr ⟨himproves.valid hfirst, ih hothers⟩

/-- A checker that asks for less than another one fails where that fails, and in the same way.
Where the other one makes a report, it makes one that has the same base image, and for each tool, in
order, the same name, version and whether it is found; what is valid stays valid, and a Dockerfile
that passes goes on to pass.  There is a report as soon as the tools are known, their keys are, and
no search for them breaks. -/
theorem check_relaxed (h : Relaxes checker relaxed) (files : Files) (content : Text) :
    (∀ failure, (relaxed.check files content).outcome = .error failure
        ↔ (checker.check files content).outcome = .error failure)
      ∧ (∀ report, (checker.check files content).outcome = .ok report →
        ∃ better, (relaxed.check files content).outcome = .ok better
          ∧ better.baseImage = report.baseImage
          ∧ List.Forall₂ ToolResult.Improves better.tools report.tools
          ∧ (report.passed → better.passed))
      ∧ ∀ specs, (checker.tools files).outcome = .ok specs →
        (∀ spec ∈ specs, IsJudged (scanned content) spec) →
        ∃ report, (checker.check files content).outcome = .ok report := by
  refine ⟨fun failure => ?_, fun report hreport => ?_, fun specs hspecs hjudged => ?_⟩
  · have htools := h.checkTools_eq_error_iff files (scanned content)
    rw [outcome_check, outcome_check]
    cases hrelaxed : (relaxed.checkTools files (scanned content)).outcome with
    | error other =>
      rw [h.checkTools_eq_error_iff] at hrelaxed
      rw [hrelaxed]
      exact Iff.rfl
    | ok better =>
      cases hchecker : (checker.checkTools files (scanned content)).outcome with
      | error other =>
        rw [← h.checkTools_eq_error_iff, hrelaxed] at hchecker
        cases hchecker
      | ok results => exact iff_of_false nofun nofun
  · rw [outcome_check] at hreport
    cases hresults : (checker.checkTools files (scanned content)).outcome with
    | error failure =>
      rw [hresults] at hreport
      cases hreport
    | ok results =>
      rw [hresults] at hreport
      cases hreport
      obtain ⟨better, hbetter, himproves⟩ := h.exists_checkTools hresults
      refine ⟨_, by rw [outcome_check, hbetter]; rfl, ?_, himproves, ?_⟩
      · rw [h.baseImage]
      · rw [Report.passed_iff, Report.passed_iff, h.baseImage]
        rintro ⟨himage, hvalid⟩
        exact ⟨himage, isValid_of_forall₂_improves himproves hvalid⟩
  · obtain ⟨precision, policy, -, hpolicies, -, -⟩ := h.policies
    obtain ⟨results, hreport, -⟩ := exists_report hpolicies hspecs hjudged
    exact ⟨_, hreport⟩

/-- Standards that ask for less than the example: one more version is allowed, and versions are
compared by their beginnings. -/
def relaxedStandards : Standards :=
  { exampleStandards with pythonVersions := ["3", "3.9"], policy := .leading }

/-- A Dockerfile that passes by the example goes on to pass by the standards that ask for less. -/
theorem check_relaxed_example :
    let files := Files.fresh []
    let checker := ofStandards exampleStandards none none none
    let relaxed := ofStandards relaxedStandards none none none
    let content : Text := "FROM alpine\nRUN apt-get install python3.9"
    Relaxes checker relaxed
      ∧ ∃ report better, (checker.check files content).outcome = .ok report
        ∧ (relaxed.check files content).outcome = .ok better
        ∧ List.Forall₂ ToolResult.Improves better.tools report.tools
        ∧ report.passed ∧ better.passed := by
  intro files checker relaxed content
  have hversions : ∀ key, checker.standards.versions key ⊆ relaxed.standards.versions key := by
    intro key
    cases key with
    | python => exact List.subset_cons_self _ _
    | _ => exact List.Subset.refl _
  have hrelaxes : Relaxes checker relaxed :=
    ⟨rfl, rfl, rfl, hversions, .truncated, .exact, .leading, rfl, rfl, Or.inr rfl⟩
  obtain ⟨-, himproves, -⟩ := check_relaxed hrelaxes files content
  have heval : (checker.check files content).outcome.toOption.map Report.passed = some true := by
    decide +kernel
  cases houtcome : (checker.check files content).outcome with
  | error failure =>
    rw [houtcome] at heval
    cases heval
  | ok report =>
    rw [houtcome] at heval
    have hpassed : report.passed = true := Option.some.inj heval
    obtain ⟨better, hbetter, -, htools, hpasses⟩ := himproves report houtcome
    exact ⟨hrelaxes, report, better, rfl, hbetter, htools, hpassed, hpasses hpassed⟩

end Checker

end DockCheck
