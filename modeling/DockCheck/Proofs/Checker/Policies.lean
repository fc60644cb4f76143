import DockCheck.Proofs.Checker.Separation
import DockCheck.Proofs.Standards.Policies
import DockCheck.Session

/-!
# The policies of checkers

A checker that is given policies judges every tool by them, and uses those of its standards where
none is given (`exists_results_of_check`).  Of standards, nothing but the policies is at stake, so
that the checker is as good as one that is given nothing and has the standards with these policies:
`run_withPolicies` says so of whole sessions.
-/

namespace DockCheck

namespace Checker

variable {files : Files} {checker : Checker} {precision : Precision} {policy : MatchPolicy}

/-! ### One pair of policies -/

/-- All results of a report are found with the same two policies. -/
lemma exists_results_of_check (hpolicies : checker.policies = ⟨precision.name, policy.name⟩)
    {content : Text} {report : Report} (h : (checker.check files content).outcome = .ok report) :
    ∃ specs, (checker.tools files).outcome = .ok specs
      ∧ List.Forall₂ (checker.GivesResult precision policy (scanned content)) specs
          report.tools := by
  cases hspecs : (checker.tools files).outcome with
  | error failure =>
    rw [check_eq_error_of_tools hspecs] at h
    cases h
  | ok specs =>
    rw [outcome_check, outcome_checkTools hspecs] at h
    cases hresults : specs.mapM fun spec => (checker.checkSpec (scanned content) spec).outcome with
    | error failure =>
      rw [hresults] at h
      cases h
    | ok results =>
      rw [hresults] at h
      cases h
      refine ⟨specs, rfl, ?_⟩
      have hall := mapM_eq_ok_iff.mp hresults
      apply hall.imp
      intro spec result hresult
      have hjudged := (exists_checkSpec_eq_ok_iff hpolicies).mp ⟨result, hresult⟩
      obtain ⟨found, hfound, hgives⟩ := exists_checkSpec_eq_ok hpolicies hjudged
      rw [hresult] at hfound
      cases hfound
      exact hgives

/-! ### Policies of standards and policies that are given -/

variable (standards : Standards) (catalogPath : Option Path) (given : Option Precision)
  (matching : Option MatchPolicy)

/-- Policies may be given to a checker or to its standards. -/
lemma ofStandards_withPolicies :
    ofStandards (standards.withPolicies given matching) catalogPath none none
      = (ofStandards standards catalogPath (given.map Precision.name)
          (matching.map MatchPolicy.name)).under (standards.withPolicies given matching) := by
  have hpolicies := policies_ofStandards standards catalogPath given matching
  unfold under
  rw [Checker.mk.injEq, hpolicies]
  exact ⟨rfl, rfl, rfl, rfl⟩

/-- A checker does not ask its standards for policies. -/
lemma check_under_withPolicies (checker : Checker) (files : Files) (content : Text) :
    (checker.under (checker.standards.withPolicies given matching)).check files content
      = checker.check files content := rfl

end Checker

namespace Session

open Checker

variable (given : Option Precision) (matching : Option MatchPolicy)

/-- A session does not ask the standards of its checker for policies. -/
lemma run_under_withPolicies (checker : Checker) (files : Files) (steps : List Step) :
    run ⟨checker.under (checker.standards.withPolicies given matching), files⟩ steps
      = run ⟨checker, files⟩ steps := by
  induction steps generalizing checker files with
  | nil => rfl
  | cons step steps ih =>
    let standards := checker.standards.withPolicies given matching
    let state : State := ⟨checker, files⟩
    let other : State := ⟨checker.under standards, files⟩
    have hshown : other.shown step = state.shown step := by cases step <;> rfl
    -- After the step, the checkers are the same again but for the policies of their standards.
    have hnext : other.next step
        = ⟨(state.next step).checker.under
            ((state.next step).checker.standards.withPolicies given matching),
          (state.next step).files⟩ := by
      cases step <;> rfl
    change other.shown step :: run (other.next step) steps
      = state.shown step :: run (state.next step) steps
    rw [hshown, hnext, ih]

/-- Whatever a session does, policies may be given to its checker or to the standards of it. -/
theorem run_withPolicies (standards : Standards) (catalogPath : Option Path) (files : Files)
    (steps : List Step) :
    run ⟨ofStandards (standards.withPolicies given matching) catalogPath none none, files⟩ steps
      = run ⟨ofStandards standards catalogPath (given.map Precision.name)
          (matching.map MatchPolicy.name), files⟩ steps := by
  rw [ofStandards_withPolicies]
  exact run_under_withPolicies given matching
    (ofStandards standards catalogPath (given.map Precision.name) (matching.map MatchPolicy.name))
    files steps

end Session

end DockCheck
