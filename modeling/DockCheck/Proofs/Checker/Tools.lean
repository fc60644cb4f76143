import DockCheck.Proofs.Checker.Stages

/-!
# The tools of a check

A checker judges its tools one after the other.  A tool whose key is known has the result of
`GivesResult`, and `Refuses` says in which two ways a tool can have none: its key is unknown, or a
search for it breaks.  The check ends with the first tool that has no result
(`checkTools_eq_error_iff`).
-/

namespace DockCheck.Checker

/-- The policies of a checker are those that are given, and else those of the standards. -/
lemma policies_ofStandards (standards : Standards) (catalogPath : Option Path)
    (precision : Option Precision) (policy : Option MatchPolicy) :
    (ofStandards standards catalogPath (precision.map Precision.name)
        (policy.map MatchPolicy.name)).policies
      = ⟨(precision.getD standards.precision).name, (policy.getD standards.policy).name⟩ := by
  have hprecision : nameOr (precision.map Precision.name) standards.precision.name
      = (precision.getD standards.precision).name := by
    rcases precision with _ | precision
    · rfl
    · cases precision <;> rfl
  have hpolicy : nameOr (policy.map MatchPolicy.name) standards.policy.name
      = (policy.getD standards.policy).name := by
    rcases policy with _ | policy
    · rfl
    · cases policy <;> rfl
  rw [← hprecision, ← hpolicy]
  rfl

/-- The result of a tool in a text, if its key is known. -/
def GivesResult (checker : Checker) (precision : Precision) (policy : MatchPolicy) (t : Text)
    (spec : ToolSpec) (result : ToolResult) : Prop :=
  ∃ key : ToolKey, spec.key = key.name
    ∧ IsResultOf precision policy (checker.standards.versions key) spec t result

/-- The key of a tool is known, and no search for the tool breaks. -/
def IsJudged (t : Text) (spec : ToolSpec) : Prop :=
  (∃ key : ToolKey, spec.key = key.name) ∧ ¬ DetectionBreaks spec.patterns t

/-- The failures with which a tool is refused. -/
inductive Refuses (checker : Checker) (t : Text) (spec : ToolSpec) : Failure → Prop where
  /-- An unknown key is a fault of the catalog. -/
  | unknownKey (h : ∀ key : ToolKey, spec.key ≠ key.name) :
    checker.Refuses t spec
      (.reported (.catalogInvalid checker.catalogPath (.unknownKey spec.key)))
  | search (hkey : ∃ key : ToolKey, spec.key = key.name)
    (h : DetectionBreaks spec.patterns t) :
    checker.Refuses t spec (.escaped (.tool (.search .spanReversed)))

variable {files : Files} {checker : Checker} {precision : Precision} {policy : MatchPolicy}
  {t : Text} {spec : ToolSpec} {failure : Failure}

/-- A tool that cannot be judged is refused. -/
lemma isJudged_or_refuses (checker : Checker) (t : Text) (spec : ToolSpec) :
    IsJudged t spec ∨ ∃ failure, checker.Refuses t spec failure := by
  by_cases hkey : ∃ key : ToolKey, spec.key = key.name
  · by_cases hbreaks : DetectionBreaks spec.patterns t
    · exact Or.inr ⟨_, .search hkey hbreaks⟩
    · exact Or.inl ⟨hkey, hbreaks⟩
  · exact Or.inr ⟨_, .unknownKey fun key heq => hkey ⟨key, heq⟩⟩

section Policies

variable (hpolicies : checker.policies = ⟨precision.name, policy.name⟩)

include hpolicies

/-- A tool that can be judged is given its result. -/
lemma exists_checkSpec_eq_ok (h : IsJudged t spec) :
    ∃ result, (checker.checkSpec t spec).outcome = .ok result
      ∧ checker.GivesResult precision policy t spec result := by
  obtain ⟨⟨key, hkey⟩, hbreaks⟩ := h
  rw [outcome_checkSpec hpolicies t hkey]
  cases hcheck : checkTool precision policy (checker.standards.versions key) spec t with
  | error fault =>
    cases fault
    exact absurd (checkTool_eq_error_iff.mp hcheck) hbreaks
  | ok result => exact ⟨result, rfl, key, hkey, (checkTool_eq_ok_iff.mp hcheck).2⟩

/-- A tool that is refused fails. -/
lemma checkSpec_eq_error (h : checker.Refuses t spec failure) :
    (checker.checkSpec t spec).outcome = .error failure := by
  cases h with
  | unknownKey h => exact outcome_checkSpec_of_unknown h checker t
  | search hkey h =>
    obtain ⟨key, hkey⟩ := hkey
    have hfails : checkTool precision policy (checker.standards.versions key) spec t
        = .error .spanReversed := checkTool_eq_error_iff.mpr h
    rw [outcome_checkSpec hpolicies t hkey, hfails]
    rfl

lemma exists_checkSpec_eq_ok_iff :
    (∃ result, (checker.checkSpec t spec).outcome = .ok result) ↔ IsJudged t spec := by
  constructor
  · rintro ⟨result, hresult⟩
    rcases isJudged_or_refuses checker t spec with h | ⟨failure, h⟩
    · exact h
    · rw [checkSpec_eq_error hpolicies h] at hresult
      cases hresult
  · intro h
    obtain ⟨result, hresult, -⟩ := exists_checkSpec_eq_ok hpolicies h
    exact ⟨result, hresult⟩

lemma checkSpec_eq_error_iff :
    (checker.checkSpec t spec).outcome = .error failure ↔ checker.Refuses t spec failure := by
  constructor
  · intro hfails
    rcases isJudged_or_refuses checker t spec with h | ⟨other, h⟩
    · obtain ⟨result, hresult, -⟩ := exists_checkSpec_eq_ok hpolicies h
      rw [hresult] at hfails
      cases hfails
    · rw [checkSpec_eq_error hpolicies h] at hfails
      cases hfails
      exact h
  · exact checkSpec_eq_error hpolicies

variable {specs : List ToolSpec} (hspecs : (checker.tools files).outcome = .ok specs)

include hspecs

/-- The check of the tools fails exactly at the first of them that is refused. -/
lemma checkTools_eq_error_iff :
    (checker.checkTools files t).outcome = .error failure
      ↔ Reaches (IsJudged t) (fun spec => checker.Refuses t spec failure) specs := by
  rw [outcome_checkTools hspecs, mapM_eq_error_iff]
  simp only [exists_checkSpec_eq_ok_iff hpolicies, checkSpec_eq_error_iff hpolicies]

/-- A check whose tools are known fails exactly if the check of the tools does. -/
lemma check_eq_error_iff {content : Text} :
    (checker.check files content).outcome = .error failure
      ↔ Reaches (IsJudged (scanned content))
          (fun spec => checker.Refuses (scanned content) spec failure) specs := by
  rw [outcome_check, ← checkTools_eq_error_iff hpolicies hspecs]
  cases (checker.checkTools files (scanned content)).outcome <;> simp [Except.map]

end Policies

/-- Without tools there is no report. -/
lemma check_eq_error_of_tools (h : (checker.tools files).outcome = .error failure)
    (content : Text) : (checker.check files content).outcome = .error failure := by
  rw [outcome_check, checkTools, Logged.outcome_bind, h]
  rfl

end DockCheck.Checker
