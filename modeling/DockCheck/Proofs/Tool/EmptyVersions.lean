import DockCheck.Proofs.Pattern.Lines
import DockCheck.Proofs.Tool.WholeVersions
import DockCheck.Proofs.Version.Normal
import DockCheck.Tool.Catalog

/-!
# Tools that are found without a version

A capture is passed over if it is empty, and only then is it normalized.  So a capture with nothing
but dots is taken for a version, of which nothing is left.  The main statement,
`found_version_eq_nil_iff`, says that a tool is found with an empty version for captures of this
kind and for no others.
-/

namespace DockCheck

open Pattern (Node CharTest Greed)
open Text (isDigit)

variable {precision : Precision} {policy : MatchPolicy} {allowed : List Text} {spec : ToolSpec}
  {t : Text}

/-! ### Captures of a run of characters -/

/-- If the group of a pattern is a run of characters that pass a test, then all characters of what
it captures do. -/
lemma Pattern.Captures.forall_holds {pattern : Pattern} {word : Text} {opening : Node}
    {greed : Greed} {low : Nat} {high : Option Nat} {test : CharTest}
    (h : pattern.Captures t word) (horderly : pattern.body.isOrderly [])
    (hgreed : greed ≠ .possessive)
    (hbody : pattern.body = .seq opening (.group 1 (.run greed low high test))) :
    ∀ c ∈ word, test.holds c := by
  obtain ⟨capture, hcapture, rfl⟩ := h.exists_firstGroup?
  obtain ⟨n, -, reached, hprefers, hgroup, -⟩ := (firstGroup?_eq_some_iff horderly).mp hcapture
  have hmatches : (Node.seq opening (.group 1 (.run greed low high test))).Matches
      (Spot.at t n) reached := hbody ▸ hprefers.toMatches
  obtain ⟨middle, -, hrest⟩ := Node.matches_seq_iff.mp hmatches
  obtain ⟨inner, hrun, rfl⟩ := Node.matches_group_iff.mp hrest
  obtain ⟨w, -, hw, -, hpasses, -⟩ := (Node.matches_run_iff hgreed).mp hrun
  rw [Node.group?_capture, hpasses.ahead] at hgroup
  obtain rfl := Option.some.inj hgroup
  rwa [Capture.word_eq]

/-! ### Found versions -/

/-- A tool is found with the normal form of what is extracted. -/
lemma exists_version?_iff {version : Text} :
    (∃ result, checkTool precision policy allowed spec t = .ok result
        ∧ result.version? = some version)
      ↔ ∃ raw, extractVersion spec.patterns t = .ok (some raw)
        ∧ Version.normalize precision raw = version := by
  constructor
  · rintro ⟨result, hresult, hversion⟩
    have hfound : Finds precision policy allowed spec t := by
      refine ⟨result, hresult, ?_⟩
      cases result with
      | notFound name => cases hversion
      | valid name version => rfl
      | invalid name version allowed => rfl
    obtain ⟨raw, hraw⟩ := finds_iff.mp hfound
    rw [checkTool_of_extractVersion hraw] at hresult
    obtain rfl := Except.ok.inj hresult
    rw [judge_version?] at hversion
    exact ⟨raw, hraw, Option.some.inj hversion⟩
  · rintro ⟨raw, hraw, rfl⟩
    exact ⟨_, checkTool_of_extractVersion hraw, judge_version? spec.name⟩

/-- Whatever the policies are, a tool is found in a text with an empty version exactly if there is
nothing but dots, and white space around them, in what its patterns capture there.  It is found with
a version that is not empty exactly if something else is captured. -/
theorem found_version_eq_nil_iff (precision : Precision) (policy : MatchPolicy)
    (allowed : List Text) (spec : ToolSpec) (t : Text) :
    ((∃ result, checkTool precision policy allowed spec t = .ok result
          ∧ result.version? = some [])
        ↔ ∃ raw, extractVersion spec.patterns t = .ok (some raw)
          ∧ ∀ c ∈ Text.strip raw, c = '.')
      ∧ ((∃ result version, checkTool precision policy allowed spec t = .ok result
          ∧ result.version? = some version ∧ version ≠ [])
        ↔ ∃ raw, extractVersion spec.patterns t = .ok (some raw)
          ∧ ∃ c ∈ Text.strip raw, c ≠ '.') := by
  have hnil : ∀ raw, Version.normalize precision raw = [] ↔ ∀ c ∈ Text.strip raw, c = '.' :=
    fun raw => Version.normalize_eq_nil_iff
  constructor
  · rw [exists_version?_iff]
    simp only [hnil]
  · constructor
    · rintro ⟨result, version, hresult, hversion, hne⟩
      obtain ⟨raw, hraw, rfl⟩ := exists_version?_iff.mp ⟨result, hresult, hversion⟩
      refine ⟨raw, hraw, ?_⟩
      by_contra hall
      push Not at hall
      exact hne ((hnil raw).mpr hall)
    · rintro ⟨raw, hraw, c, hc, hdot⟩
      obtain ⟨result, hresult, hversion⟩ := exists_version?_iff.mpr ⟨raw, hraw, rfl⟩
      exact ⟨result, _, hresult, hversion, fun hempty => hdot ((hnil raw).mp hempty c hc)⟩

/-- Characters that are digits or dots. -/
def digitOrDot : CharTest := .set .exact false [.kind .digit false false, .code 46]

lemma holds_digitOrDot_iff {c : Char} : digitOrDot.holds c ↔ isDigit c ∨ c = '.' := by
  have hdot : c.toNat = 46 ↔ c = '.' := Char.toNat_inj (d := '.')
  have hcode : (Pattern.SetItem.code 46).holds .exact c.toNat ↔ c = '.' := by
    rw [Pattern.SetItem.holds_code_iff (by decide), hdot]
  rw [digitOrDot, CharTest.holds_set_iff]
  simp [hcode, Pattern.SetItem.holds_kind_iff, Pattern.CharKind.holds]

/-- A tool with a pattern that captures digits and dots can be found with an empty version. -/
theorem found_version_empty_dot :
    let data : Data := .table [("key", .text "go"), ("name", .text "Go"),
      ("patterns", .list [.text "v([\\d.]+)"])]
    ∃ spec, ToolSpec.ofData data = .ok spec
      ∧ (∀ pattern ∈ spec.patterns, ∀ t word,
        pattern.Captures t word → Version.IsNumeric word)
      ∧ checkTool .truncated .exact ["1.22"] spec "echo v."
        = .ok (.invalid "Go" [] ["1.22"]) := by
  intro data
  let body : Node := .seq (.char (.code .unicode false 118))
    (.group 1 (.run .greedy 1 none digitOrDot))
  have heval : (ToolSpec.ofData data).toOption.map (fun spec =>
        (spec.patterns.map Pattern.body,
          (checkTool .truncated .exact ["1.22"] spec "echo v.").toOption))
      = some ([body], some (.invalid "Go" [] ["1.22"])) := by
    decide +kernel
  cases hdata : ToolSpec.ofData data with
  | error crash =>
    rw [hdata] at heval
    cases heval
  | ok spec =>
    rw [hdata] at heval
    obtain ⟨hbodies, hresult⟩ := Prod.mk.inj (Option.some.inj heval)
    refine ⟨spec, rfl, fun pattern hpattern t word hcaptures c hc => ?_, ?_⟩
    · have hbody : pattern.body = body := by
        have hmem : pattern.body ∈ spec.patterns.map Pattern.body := List.mem_map_of_mem hpattern
        rwa [hbodies, List.mem_singleton] at hmem
      have horderly : pattern.body.isOrderly [] := by
        rw [hbody]
        rfl
      have hgreed : Greed.greedy ≠ .possessive := nofun
      exact holds_digitOrDot_iff.mp (hcaptures.forall_holds horderly hgreed hbody c hc)
    · cases hcheck : checkTool .truncated .exact ["1.22"] spec "echo v." with
      | error fault =>
        rw [hcheck] at hresult
        cases hresult
      | ok result =>
        rw [hcheck] at hresult
        exact congrArg Except.ok (Option.some.inj hresult)

end DockCheck
