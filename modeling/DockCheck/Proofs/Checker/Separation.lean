import DockCheck.Proofs.Checker.Escapes

/-!
# Standards that differ in one place

The base image of standards decides on the base image of a Dockerfile, and the allowed versions
under a key decide on the tools with that key.  Neither has a say in anything else: not in the
other results, and not in which tools are found in which versions (`ToolResult.SameFinding`).

The main statement, `standards_separate`, compares the checks by two standards that differ in one
of these places.  Both fail in the same way, or both make reports that differ in what the place
decides on at most.
-/

namespace DockCheck

/-! ### Outcomes that agree -/

/-- Both computations fail in the same way, or their values are related. -/
inductive Agrees {ε α β : Type} (R : α → β → Prop) : Except ε α → Except ε β → Prop where
  | ok {a : α} {b : β} (h : R a b) : Agrees R (.ok a) (.ok b)
  | error (e : ε) : Agrees R (.error e) (.error e)

namespace Agrees

variable {ε α β γ δ : Type} {R : α → β → Prop}

lemma refl {R : α → α → Prop} (h : ∀ a, R a a) (outcome : Except ε α) :
    Agrees R outcome outcome := by
  cases outcome with
  | ok a => exact .ok (h a)
  | error e => exact .error e

lemma map {S : γ → δ → Prop} {f : α → γ} {g : β → δ} {first : Except ε α} {second : Except ε β}
    (h : Agrees R first second) (hmap : ∀ a b, R a b → S (f a) (g b)) :
    Agrees S (first.map f) (second.map g) := by
  cases h with
  | ok h => exact .ok (hmap _ _ h)
  | error e => exact .error e

lemma imp {S : α → β → Prop} {first : Except ε α} {second : Except ε β} (h : Agrees R first second)
    (himp : ∀ a b, R a b → S a b) : Agrees S first second := by
  cases h with
  | ok h => exact .ok (himp _ _ h)
  | error e => exact .error e

lemma mapError {φ : Type} {first : Except ε α} {second : Except ε β} (h : Agrees R first second)
    (f : ε → φ) : Agrees R (first.mapError f) (second.mapError f) := by
  cases h with
  | ok h => exact .ok h
  | error e => exact .error (f e)

lemma bind {S : γ → δ → Prop} {first : Except ε α} {second : Except ε β} {f : α → Except ε γ}
    {g : β → Except ε δ} (h : Agrees R first second) (hnext : ∀ a b, R a b → Agrees S (f a) (g b)) :
    Agrees S (first >>= f) (second >>= g) := by
  cases h with
  | ok h => exact hnext _ _ h
  | error e => exact .error e

lemma exists_of_eq_ok {first : Except ε α} {second : Except ε β} (h : Agrees R first second) {a : α}
    (hfirst : first = .ok a) : ∃ b, second = .ok b ∧ R a b := by
  cases h with
  | ok h =>
    cases hfirst
    exact ⟨_, rfl, h⟩
  | error e => cases hfirst

/-- Traversals agree if they do so for every member: the values that both give for a member are
related as it asks for. -/
lemma mapM {R : α → β → γ → Prop} {f : α → Except ε β} {g : α → Except ε γ}
    (h : ∀ a, Agrees (R a) (f a) (g a)) (l : List α) :
    Agrees (fun values others => others.length = values.length
        ∧ List.Forall₂ (fun a pair => R a pair.1 pair.2) l (values.zip others))
      (l.mapM f) (l.mapM g) := by
  induction l with
  | nil => exact .ok ⟨rfl, .nil⟩
  | cons a l ih =>
    rw [List.mapM_cons, List.mapM_cons]
    refine (h a).bind fun value other hvalue => ih.bind fun values others hvalues => ?_
    exact .ok ⟨congrArg (· + 1) hvalues.1, .cons hvalue hvalues.2⟩

end Agrees

/-! ### Standards and results -/

namespace Standards

/-- The standards with other allowed versions for one tool. -/
def allowing (key : ToolKey) (allowed : List Text) (standards : Standards) : Standards :=
  match key with
  | .jdk => { standards with jdkVersions := allowed }
  | .maven => { standards with mavenVersions := allowed }
  | .gradle => { standards with gradleVersions := allowed }
  | .go => { standards with goVersions := allowed }
  | .node => { standards with nodeVersions := allowed }
  | .python => { standards with pythonVersions := allowed }

lemma baseImage_allowing (key : ToolKey) (allowed : List Text) (standards : Standards) :
    (standards.allowing key allowed).baseImage = standards.baseImage := by
  cases key <;> rfl

lemma versions_allowing_of_ne {key other : ToolKey} (h : other ≠ key) (allowed : List Text)
    (standards : Standards) :
    (standards.allowing key allowed).versions other = standards.versions other := by
  cases key <;> cases other <;> first | rfl | exact absurd rfl h

/-- The allowed versions under every key but one are the same. -/
lemma allowed?_allowing_of_ne {key : ToolKey} {name : Text} (h : name ≠ key.name)
    (allowed : List Text) (standards : Standards) :
    (standards.allowing key allowed).allowed? name = standards.allowed? name := by
  rw [allowed?, allowed?]
  cases hname : ToolKey.ofName? name with
  | none => rfl
  | some other =>
    have hother : other.name = name := by simpa using List.find?_some hname
    have hne : other ≠ key := by
      rintro rfl
      exact h hother.symm
    rw [Option.map_some, Option.map_some, versions_allowing_of_ne hne]

end Standards

/-- Two results have the same tool, and it is found in the same version or by neither. -/
structure ToolResult.SameFinding (result other : ToolResult) : Prop where
  name : other.name = result.name
  found : other.isFound = result.isFound
  version : other.version? = result.version?

lemma sameFinding_judge (precision : Precision) (policy : MatchPolicy) (allowed others : List Text)
    (name raw : Text) : (judge precision policy allowed name raw).SameFinding
      (judge precision policy others name raw) := by
  unfold judge
  dsimp only
  split <;> split <;> exact ⟨rfl, rfl, rfl⟩

/-- Other allowed versions do not change what is found. -/
lemma agrees_checkToolBy (policies : Policies) (allowed others : List Text) (spec : ToolSpec)
    (t : Text) : Agrees ToolResult.SameFinding (checkToolBy policies allowed spec t)
      (checkToolBy policies others spec t) := by
  unfold checkToolBy
  cases extractVersion spec.patterns t with
  | error fault => exact .error _
  | ok found =>
    cases found with
    | none => exact .ok ⟨rfl, rfl, rfl⟩
    | some raw =>
      cases hprecision : Precision.ofName policies.precision with
      | error fault => exact .error _
      | ok precision =>
        cases hpolicy : MatchPolicy.ofName policies.matching with
        | error fault => exact .error _
        | ok policy => exact .ok (sameFinding_judge precision policy allowed others spec.name raw)

namespace Checker

/-! ### Checks -/

/-- The checker with other standards, and with its own policies. -/
def under (standards : Standards) (checker : Checker) : Checker :=
  { checker with standards := standards }

/-- A tool with allowed versions is checked against them. -/
lemma outcome_checkSpec_of_allowed? {checker : Checker} {spec : ToolSpec} {allowed : List Text}
    (h : checker.standards.allowed? spec.key = some allowed) (t : Text) :
    (checker.checkSpec t spec).outcome
      = (checkToolBy checker.policies allowed spec t).mapError fun fault =>
          .escaped (.tool fault) := by
  simp only [checkSpec, h, Logged.outcome_bind, Logged.outcome_ofExcept, outcome_logDetection,
    Logged.outcome_pure]
  cases checkToolBy checker.policies allowed spec t <;> rfl

/-- The check of a tool asks standards for the versions under the key of the tool only. -/
lemma checkSpec_under {standards : Standards} {checker : Checker} {spec : ToolSpec}
    (h : standards.allowed? spec.key = checker.standards.allowed? spec.key) (t : Text) :
    (checker.under standards).checkSpec t spec = checker.checkSpec t spec := by
  unfold checkSpec under
  rw [h]

/-- What other allowed versions under a key may change in the result of a tool. -/
def SameUpTo (key : ToolKey) (spec : ToolSpec) (result other : ToolResult) : Prop :=
  (spec.key ≠ key.name → other = result) ∧ result.SameFinding other

lemma agrees_checkSpec (key : ToolKey) (allowed : List Text) (checker : Checker) (t : Text)
    (spec : ToolSpec) :
    Agrees (SameUpTo key spec) (checker.checkSpec t spec).outcome
      ((checker.under (checker.standards.allowing key allowed)).checkSpec t spec).outcome := by
  by_cases hkey : spec.key = key.name
  · have hversions : ∀ standards : Standards,
        standards.allowed? spec.key = some (standards.versions key) := by
      intro standards
      rw [hkey, Standards.allowed?_name]
    rw [outcome_checkSpec_of_allowed? (hversions _), outcome_checkSpec_of_allowed? (hversions _)]
    refine ((agrees_checkToolBy _ _ _ spec t).imp fun result other h => ?_).mapError _
    exact ⟨fun hne => absurd hkey hne, h⟩
  · rw [checkSpec_under (Standards.allowed?_allowing_of_ne hkey allowed _)]
    exact .refl (fun result => ⟨fun _ => rfl, rfl, rfl, rfl⟩) _

/-- The checks of all tools agree, and the results are the same up to those with the key. -/
lemma agrees_checkTools (key : ToolKey) (allowed : List Text) (files : Files) (checker : Checker)
    (t : Text) {specs : List ToolSpec} (hspecs : (checker.tools files).outcome = .ok specs) :
    Agrees (fun results others => others.length = results.length
        ∧ List.Forall₂ (fun spec pair => SameUpTo key spec pair.1 pair.2) specs
            (results.zip others))
      (checker.checkTools files t).outcome
      ((checker.under (checker.standards.allowing key allowed)).checkTools files t).outcome := by
  have hother : ((checker.under (checker.standards.allowing key allowed)).tools files).outcome
      = .ok specs := hspecs
  rw [outcome_checkTools hspecs, outcome_checkTools hother]
  exact .mapM (agrees_checkSpec key allowed checker t) specs

/-- The check of the tools does not ask for the base image. -/
lemma checkTools_under_baseImage (image : Text) (files : Files) (checker : Checker) (t : Text) :
    (checker.under { checker.standards with baseImage := image }).checkTools files t
      = checker.checkTools files t := rfl

/-- The reports of checks that differ in the allowed versions under the key. -/
structure SameReportUpTo (key : ToolKey) (specs : List ToolSpec) (report other : Report) :
    Prop where
  baseImage : other.baseImage = report.baseImage
  length : other.tools.length = report.tools.length
  /-- Each tool, in order, has a result in both of them. -/
  tools : List.Forall₂ (fun spec pair => SameUpTo key spec pair.1 pair.2) specs
    (report.tools.zip other.tools)

lemma agrees_check (key : ToolKey) (allowed : List Text) (files : Files) (checker : Checker)
    (content : Text) :
    Agrees (fun report other => ∃ specs, (checker.tools files).outcome = .ok specs
        ∧ SameReportUpTo key specs report other)
      (checker.check files content).outcome
      ((checker.under (checker.standards.allowing key allowed)).check files content).outcome := by
  rw [outcome_check, outcome_check]
  cases hspecs : (checker.tools files).outcome with
  | error failure =>
    have hother : ((checker.under (checker.standards.allowing key allowed)).tools files).outcome
        = .error failure := hspecs
    rw [checkTools, checkTools, Logged.outcome_bind, Logged.outcome_bind, hspecs, hother]
    exact .error failure
  | ok specs =>
    refine (agrees_checkTools key allowed files checker (scanned content) hspecs).map ?_
    rintro results others ⟨hlength, hresults⟩
    refine ⟨specs, rfl, ?_, hlength, hresults⟩
    change checkBaseImage _ (checker.standards.allowing key allowed).baseImage = _
    rw [Standards.baseImage_allowing]

/-- Each part of a report depends on its own part of the standards.

With another base image in the standards, the tools are judged as before: a check fails as before,
or makes a report with the same results.  With other allowed versions under one key, a check fails
as before, or makes a report with the same outcome for the base image and one result for each tool,
in order, as before.  The results of the tools with other keys are the same, and those of the tools
with the key have the same name and are found in the same version, or not found.  There is a report
as soon as the policies and the tools are known, the keys of the tools are, and no search for them
breaks. -/
theorem standards_separate (checker : Checker) (files : Files) (content : Text) :
    (∀ image,
        let other := checker.under { checker.standards with baseImage := image }
        (∀ t, other.checkTools files t = checker.checkTools files t)
          ∧ Agrees (fun report changed => changed.tools = report.tools)
              (checker.check files content).outcome (other.check files content).outcome)
      ∧ (∀ key allowed,
        let other := checker.under (checker.standards.allowing key allowed)
        Agrees (fun report changed => ∃ specs, (checker.tools files).outcome = .ok specs
            ∧ SameReportUpTo key specs report changed)
          (checker.check files content).outcome (other.check files content).outcome)
      ∧ ∀ (precision : Precision) (policy : MatchPolicy) specs,
        checker.policies = ⟨precision.name, policy.name⟩ →
        (checker.tools files).outcome = .ok specs →
        (∀ spec ∈ specs, IsJudged (scanned content) spec) →
        ∃ report, (checker.check files content).outcome = .ok report := by
  refine ⟨?_, ?_, ?_⟩
  · intro image other
    have htools : ∀ t, other.checkTools files t = checker.checkTools files t :=
      checkTools_under_baseImage image files checker
    refine ⟨htools, ?_⟩
    rw [outcome_check, outcome_check, htools]
    have hsame : Agrees (· = ·) (checker.checkTools files (scanned content)).outcome
        (checker.checkTools files (scanned content)).outcome := .refl (fun _ => rfl) _
    apply hsame.map
    rintro results others rfl
    rfl
  · intro key allowed
    exact agrees_check key allowed files checker content
  · intro precision policy specs hpolicies hspecs hjudged
    obtain ⟨results, hreport, -⟩ := exists_report hpolicies hspecs hjudged
    exact ⟨_, hreport⟩

lemma passed_eq {outcome : Except Failure Report} {report : Report} {passed : Bool}
    (h : outcome = .ok report) (hpassed : outcome.toOption.map Report.passed = some passed) :
    report.passed = passed := by
  rw [h] at hpassed
  exact Option.some.inj hpassed

/-- With another base image in the standards, or without the version of Python that it mentions, a
Dockerfile that passed does not, for one reason at a time. -/
theorem standards_separate_python :
    let files := Files.fresh []
    let checker := ofStandards exampleStandards none none none
    let content : Text := "FROM alpine\nRUN apt-get install python3.9"
    let otherImage := checker.under { exampleStandards with baseImage := "debian" }
    let otherVersions := checker.under (exampleStandards.allowing .python ["3.8"])
    checker.policies = ⟨Precision.truncated.name, MatchPolicy.exact.name⟩
      ∧ (checker.tools files).outcome = .ok Builtin.tools
      ∧ (∀ spec ∈ Builtin.tools, IsJudged (scanned content) spec)
      ∧ ∃ report first second, (checker.check files content).outcome = .ok report
        ∧ (otherImage.check files content).outcome = .ok first
        ∧ (otherVersions.check files content).outcome = .ok second
        ∧ first.tools = report.tools
        ∧ SameReportUpTo .python Builtin.tools report second
        ∧ report.passed ∧ ¬ first.passed ∧ ¬ second.passed := by
  intro files checker content otherImage otherVersions
  have hspecs : (checker.tools files).outcome = .ok Builtin.tools := rfl
  have hjudged : ∀ spec ∈ Builtin.tools, IsJudged (scanned content) spec := fun spec hspec =>
    isJudged_of_mem_tools hspec (scanned content)
  obtain ⟨himage, hversions, hexists⟩ := standards_separate checker files content
  obtain ⟨report, hreport⟩ := hexists .truncated .exact Builtin.tools rfl hspecs hjudged
  obtain ⟨first, hfirst, htools⟩ := (himage "debian").2.exists_of_eq_ok hreport
  obtain ⟨second, hsecond, specs, hsame, hup⟩ :=
    (hversions .python ["3.8"]).exists_of_eq_ok hreport
  have hspecsEq : specs = Builtin.tools := Except.ok.inj (hsame.symm.trans hspecs)
  have hpassed : (checker.check files content).outcome.toOption.map Report.passed = some true := by
    decide +kernel
  have hfirstPassed : (otherImage.check files content).outcome.toOption.map Report.passed
      = some false := by decide +kernel
  have hsecondPassed : (otherVersions.check files content).outcome.toOption.map Report.passed
      = some false := by decide +kernel
  refine ⟨rfl, hspecs, hjudged, report, first, second, hreport, hfirst, hsecond, htools,
    hspecsEq ▸ hup, passed_eq hreport hpassed, ?_, ?_⟩
  · rw [passed_eq hfirst hfirstPassed]
    exact Bool.false_ne_true
  · rw [passed_eq hsecond hsecondPassed]
    exact Bool.false_ne_true

end Checker

end DockCheck
