import DockCheck.Proofs.Checker.Policies
import DockCheck.Proofs.Checker.Reading
import DockCheck.Proofs.CommandLine.Arguments
import DockCheck.Proofs.CommandLine.Catalogs
import DockCheck.Proofs.Json.RoundTrip
import DockCheck.Proofs.Standards.Loading

/-!
# Policies from options, variables and documents

The policies of a run come from its options, and else from variables of the environment, and else
from its standards.  A run that is given policies in one of the first two ways ends as a run that is
given none, but whose standards have been edited to say the same (`Edits`, `report_of_edits`).

The main statement, `policies_override_document`, says so of checkers and of runs, and which
arguments and variables give policies to a run.
-/

namespace DockCheck.CommandLine

variable {files edited : Files} {plan : Plan} {standards : Standards}

/-- The files differ in the document of the standards only, which is edited to have the policies of
the plan. -/
structure Edits (plan : Plan) (standards : Standards) (files edited : Files) : Prop where
  document : ∃ entries changed, Standards.Holds files plan.standards (.table entries)
    ∧ Standards.ofData (.table entries) = .ok standards
    ∧ Standards.Holds edited plan.standards (.table changed)
    ∧ Standards.SetsPolicies plan.precision plan.policy entries changed
  dockerfile : readDockerfile edited plan.dockerfile = readDockerfile files plan.dockerfile
  tools : Checker.readTools edited plan.tools = Checker.readTools files plan.tools

/-- Nothing else differs if the files at the other paths are the same. -/
lemma Edits.of_find {entries changed : List (Text × Data)}
    (hholds : Standards.Holds files plan.standards (.table entries))
    (haccepted : Standards.ofData (.table entries) = .ok standards)
    (hchanged : Standards.Holds edited plan.standards (.table changed))
    (hsets : Standards.SetsPolicies plan.precision plan.policy entries changed)
    (hdockerfile : edited.find plan.dockerfile = files.find plan.dockerfile)
    (htools : ∀ path, plan.tools = some path → edited.find path = files.find path) :
    Edits plan standards files edited where
  document := ⟨entries, changed, hholds, haccepted, hchanged, hsets⟩
  dockerfile := by
    unfold readDockerfile Files.exists? Files.readText Files.readBytes
    rw [hdockerfile]
  tools := by
    cases hpath : plan.tools with
    | none => rfl
    | some path =>
      unfold Checker.readTools Catalog.load Files.readStream Files.readBytes
      dsimp only
      rw [htools path hpath]

namespace Plan

/-- The plan of a check that is given no policies. -/
def withoutPolicies (plan : Plan) : Plan := { plan with precision := none, policy := none }

lemma checker_withoutPolicies (plan : Plan) (standards : Standards) :
    plan.withoutPolicies.checker (standards.withPolicies plan.precision plan.policy)
      = (plan.checker standards).under (standards.withPolicies plan.precision plan.policy) :=
  Checker.ofStandards_withPolicies standards plan.tools plan.precision plan.policy

/-- Where the same tools are read, a check is the same. -/
lemma check_congr_of_readTools
    (h : Checker.readTools edited plan.tools = Checker.readTools files plan.tools)
    (content : Text) :
    (plan.checker standards).check edited content
      = (plan.checker standards).check files content := by
  have htools : (plan.checker standards).tools edited = (plan.checker standards).tools files := h
  unfold Checker.check Checker.checkTools
  rw [htools]

/-- Once the standards are loaded, the Dockerfile is read and checked. -/
lemma report_of_loads (h : loadStandards files plan.standards = .ok standards) :
    plan.report files = (do
      Logged.log .debug .inputs (loadedMessage plan.standards standards)
      let content ← Logged.ofExcept (readDockerfile files plan.dockerfile)
      (plan.checker standards).check files content) := by
  unfold report
  rw [h]
  exact pure_bind standards _

/-- A plan without policies leads to the same report on files with edited standards. -/
theorem report_of_edits (h : Edits plan standards files edited) :
    plan.withoutPolicies.report edited = plan.report files := by
  obtain ⟨entries, changed, hholds, haccepted, hchanged, hsets⟩ := h.document
  have hloads : loadStandards files plan.standards = .ok standards :=
    Standards.load_eq_ok_iff.mpr ⟨_, hholds, haccepted⟩
  have hedited : loadStandards edited plan.withoutPolicies.standards
      = .ok (standards.withPolicies plan.precision plan.policy) :=
    Standards.load_eq_ok_iff.mpr
      ⟨_, hchanged, Standards.ofData_of_setsPolicies hsets haccepted⟩
  have hcheck : ∀ content,
      (plan.withoutPolicies.checker
        (standards.withPolicies plan.precision plan.policy)).check edited content
        = (plan.checker standards).check files content := by
    intro content
    rw [checker_withoutPolicies]
    have hunder := Checker.check_under_withPolicies plan.precision plan.policy
      (plan.checker standards) edited content
    exact hunder.trans (check_congr_of_readTools h.tools content)
  rw [report_of_loads hloads, report_of_loads hedited]
  simp only [hcheck]
  change (do
    Logged.log .debug .inputs (loadedMessage plan.standards standards)
    let content ← Logged.ofExcept (readDockerfile edited plan.dockerfile)
    (plan.checker standards).check files content) = _
  rw [h.dockerfile]

end Plan

/-! ### Runs -/

section Runs

variable {arguments bare : List Text} {options : Options} {environment : List (Text × Text)}
  {settings : Settings}

/-- A run that is given policies ends as one that is given none and reads the edited standards. -/
lemma run_of_edits (harguments : Request.ofArguments arguments = .ok (.check options))
    (hbare : Request.ofArguments bare
      = .ok (.check { options with precision := none, policy := none }))
    (hload : Settings.load environment = .ok settings)
    (h : Edits (Plan.make options settings) standards files edited) :
    run bare (Settings.without Settings.policyVariables environment) edited
      = run arguments environment files := by
  rw [run_of_check hbare, run_of_check harguments]
  unfold runCheck
  rw [hload, Settings.load_without_policyVariables hload]
  dsimp only
  have hplan : Plan.make { options with precision := none, policy := none }
      { settings with precision := none, policy := none }
        = (Plan.make options settings).withoutPolicies := rfl
  rw [hplan, Plan.report_of_edits h]
  rfl

end Runs

/-- To give policies is to edit the standards.

A checker that is given policies makes the same reports, with the same log and in every session, as
one that is given none but has standards with these policies; where only one policy is given, only
that one is another.  All results of a report are found with the one pair of policies.

A run whose arguments or environment give policies ends in every respect as the run without these
arguments and variables on files in which the document of the standards is edited to say the
policies: those of the options, and where they say nothing, those of the variables.  Any document
can be edited so.  Options are given by arguments in front of others, unless these give them
already, and settings by variables in whatever letter case their names are written. -/
theorem policies_override_document (standards : Standards) (files : Files) :
    (∀ (precision : Option Precision) (policy : Option MatchPolicy) (catalogPath : Option Path),
        let given := Checker.ofStandards standards catalogPath (precision.map Precision.name)
          (policy.map MatchPolicy.name)
        let edited := Checker.ofStandards (standards.withPolicies precision policy) catalogPath
          none none
        (∀ content, edited.check files content = given.check files content)
          ∧ (∀ steps, Session.run ⟨edited, files⟩ steps = Session.run ⟨given, files⟩ steps)
          ∧ ∀ content report, (given.check files content).outcome = .ok report →
            ∃ specs, (given.tools files).outcome = .ok specs
              ∧ List.Forall₂ (given.GivesResult (precision.getD standards.precision)
                  (policy.getD standards.policy) (Checker.scanned content)) specs report.tools)
      ∧ (∀ arguments bare options environment settings edited,
        Request.ofArguments arguments = .ok (.check options) →
        Request.ofArguments bare
          = .ok (.check { options with precision := none, policy := none }) →
        Settings.load environment = .ok settings →
        Edits (Plan.make options settings) standards files edited →
        run bare (Settings.without Settings.policyVariables environment) edited
          = run arguments environment files)
      ∧ (∀ precision policy entries,
        ∃ changed, Standards.SetsPolicies precision policy entries changed)
      ∧ (∀ given request, Request.ofArguments given = .ok request →
        (∀ p : Precision, Request.ofArguments ("--precision" :: p.name :: given)
            = .ok (request.withOptions fun options =>
              { options with precision := options.precision.or (some p) }))
          ∧ ∀ m : MatchPolicy, Request.ofArguments ("--match" :: m.name :: given)
            = .ok (request.withOptions fun options =>
              { options with policy := options.policy.or (some m) }))
      ∧ ∀ environment settings name, Settings.load environment = .ok settings →
        (Settings.comparedName name = "dockwarden_version_precision" →
          ∀ p : Precision, Settings.load (environment ++ [(name, p.name)])
            = .ok { settings with precision := some p })
          ∧ (Settings.comparedName name = "dockwarden_version_match" →
            ∀ m : MatchPolicy, Settings.load (environment ++ [(name, m.name)])
              = .ok { settings with policy := some m }) := by
  refine ⟨?_, ?_, Standards.exists_setsPolicies, ?_, ?_⟩
  · intro precision policy catalogPath given edited
    have hpolicies := Checker.policies_ofStandards standards catalogPath precision policy
    refine ⟨?_, ?_, ?_⟩
    · intro content
      have hedited : edited = given.under (standards.withPolicies precision policy) :=
        Checker.ofStandards_withPolicies standards catalogPath precision policy
      rw [hedited]
      exact Checker.check_under_withPolicies precision policy given files content
    · intro steps
      exact Session.run_withPolicies precision policy standards catalogPath files steps
    · intro content report hreport
      exact Checker.exists_results_of_check hpolicies hreport
  · intro arguments bare options environment settings edited harguments hbare hload hedits
    exact run_of_edits harguments hbare hload hedits
  · intro given request hrequest
    exact ⟨fun p => Request.ofArguments_precision_cons p hrequest,
      fun m => Request.ofArguments_policy_cons m hrequest⟩
  · intro environment settings name hload
    exact ⟨fun hname p => Settings.load_append_precision hload hname p,
      fun hname m => Settings.load_append_policy hload hname m⟩

/-- The entries of a document that allows one version of Go, with others behind them. -/
def exampleEntries (others : List (Text × Data)) : List (Text × Data) :=
  ("baseImage", .text "alpine") :: ("goVersions", .list [.text "1"]) :: ("jdkVersions", .list [])
    :: ("mavenVersions", .list []) :: ("gradleVersions", .list []) :: ("nodeVersions", .list [])
    :: ("pythonVersions", .list []) :: others

/-- The document of these entries, with the text of others behind them. -/
def exampleDocument (others : Text) : Text :=
  "\x7b\"baseImage\": \"alpine\", \"goVersions\": [\"1\"], \"jdkVersions\": [], "
    ++ "\"mavenVersions\": [], \"gradleVersions\": [], \"nodeVersions\": [], "
    ++ "\"pythonVersions\": []" ++ others ++ "\x7d"

/-- The standards of these entries. -/
def exampleGoRules : Standards := { exampleRules with goVersions := ["1"] }

/-- The options of a check against these standards. -/
def exampleGoOptions : Options :=
  { exampleOptions with standards := Path.ofText "s.json", format := .text }

/-- A Dockerfile that mentions a version of Go. -/
def exampleDockerfile : Text := "FROM alpine\nRUN get go1.2\n"

/-- A catalog with Go only. -/
def exampleCatalog : Text := "tools:\n- key: go\n  name: Go\n  patterns: ['go([0-9.]+)']\n"

/-- The files of the example with a document of standards. -/
def exampleFilesOf (document : Text) : Files :=
  ((exampleFilesWith (Utf8.encode exampleCatalog)).write (Path.ofText "s.json")
    (.file (Utf8.encode document))).write (Path.ofText "Dockerfile")
      (.file (Utf8.encode exampleDockerfile))

/-- A file with the document of entries holds these entries.  They may be nested one level less than
the table that they are in. -/
lemma holds_exampleFilesOf {others : List (Text × Data)} {document : Text}
    (hkeys : ((exampleEntries others).map Prod.fst).Nodup)
    (hothers : ∀ entry ∈ others, Json.Plain 984 entry.2)
    (hwrite : Json.write none (.table (exampleEntries others)) = document)
    (hnewlines : Text.newlines document = document) :
    Standards.Holds (exampleFilesOf document) (Path.ofText "s.json")
      (.table (exampleEntries others)) := by
  have hlist : Json.Plain 984 (.list []) := .list nofun
  have hversions : Json.Plain 984 (.list [.text "1"]) := .list (by simpa using .text _)
  have hplain : ∀ entry ∈ exampleEntries others, Json.Plain 984 entry.2 := by
    simp only [exampleEntries, List.forall_mem_cons]
    exact ⟨.text _, hversions, hlist, hlist, hlist, hlist, hlist, hothers⟩
  have hdocument := Json.read_write (.table hkeys hplain) none Json.isGap_nil
  rw [List.append_nil, hwrite] at hdocument
  have hfind : (exampleFilesOf document).find (Path.ofText "s.json")
      = .ok (.file (Utf8.encode document)) := rfl
  have hread := readText_of_find hfind
  rw [hnewlines] at hread
  exact .json hread (by decide) hdocument

/-- What a run makes of the policies of the example does not depend on where they are given: an
option decides over a variable, and the edited document says what the option says. -/
theorem policies_override_document_major :
    let bare : List Text := ["-s", "s.json", "--tools=t.yaml", "-fDockerfile"]
    let arguments : List Text := "--precision" :: Precision.major.name :: bare
    let environment : List (Text × Text) := [("Dockwarden_Version_Precision", Precision.exact.name)]
    let files := exampleFilesOf (exampleDocument [])
    let edited := exampleFilesOf (exampleDocument ", \"versionPrecision\": \"major\"")
    run bare (Settings.without Settings.policyVariables environment) edited
        = run arguments environment files
      ∧ (run arguments environment files).withoutOutput = .finished 0 [] [] := by
  intro bare arguments environment files edited
  obtain ⟨-, hruns, -, hoptions, hvariables⟩ := policies_override_document exampleGoRules files
  have hbare : Request.ofArguments bare = .ok (.check exampleGoOptions) := by decide +kernel
  have harguments := (hoptions bare (.check exampleGoOptions) hbare).1 .major
  have hload := (hvariables [] Settings.usual "Dockwarden_Version_Precision" Settings.load_nil).1
    (by decide) .exact
  have hholds : Standards.Holds files (Path.ofText "s.json") (.table (exampleEntries [])) := by
    refine holds_exampleFilesOf (by decide) nofun ?_ (by decide +kernel)
    simp only [exampleEntries, Json.write, Json.writeEntries, Json.writeList, Json.writeItems]
    decide +kernel
  have hchanged : Standards.Holds edited (Path.ofText "s.json")
      (.table (exampleEntries [("versionPrecision", .text "major")])) := by
    have hmajor : ∀ entry ∈ ([("versionPrecision", .text "major")] : List (Text × Data)),
        Json.Plain 984 entry.2 := List.forall_mem_singleton.mpr (.text _)
    refine holds_exampleFilesOf (by decide) hmajor ?_ (by decide +kernel)
    simp only [exampleEntries, Json.write, Json.writeEntries, Json.writeList, Json.writeItems]
    decide +kernel
  have hedits : Edits (Plan.make { exampleGoOptions with precision := some .major }
      { Settings.usual with precision := some .exact }) exampleGoRules files edited := by
    have haccepted : Standards.ofData (.table (exampleEntries [])) = .ok exampleGoRules := by
      decide +kernel
    have hsets := (Standards.SetsPolicies.refl (exampleEntries [])).putPrecision .major
    have hdockerfile : ∀ document, (exampleFilesOf document).find (Path.ofText "Dockerfile")
        = .ok (.file (Utf8.encode exampleDockerfile)) := fun _ => rfl
    have hcatalog : ∀ document, (exampleFilesOf document).find (Path.ofText "t.yaml")
        = .ok (.file (Utf8.encode exampleCatalog)) := fun _ => rfl
    refine .of_find hholds haccepted hchanged hsets ?_ ?_
    · exact (hdockerfile _).trans (hdockerfile _).symm
    · rintro path hpath
      cases hpath
      exact (hcatalog _).trans (hcatalog _).symm
  exact ⟨hruns arguments bare _ environment _ _ harguments hbare hload hedits, by decide +kernel⟩

end DockCheck.CommandLine
