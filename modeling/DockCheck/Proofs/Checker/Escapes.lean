import DockCheck.Proofs.Checker.Verdict
import DockCheck.Proofs.Dockerfile.Escapes
import DockCheck.Proofs.Tool.Alike

/-!
# Checks of files with backticks

No pattern of a built-in tool tells a backslash from a backtick, and no version holds one.  So the
built-in tools are found in the same versions if the two are exchanged
(`Builtin.extractVersion_swapEscapes`).

The main statement, `exchange_escapes`, says that a Dockerfile which continues its lines by
backslashes has the same results of the built-in tools as the one that is written with backticks
instead.
-/

namespace DockCheck

open Dockerfile (otherEscape swapEscapes withBackticks)

/-! ### Built-in tools -/

/-- Does the test give the same answer for both escape characters? -/
def Pattern.CharTest.blursEscapes (test : CharTest) : Bool := test.holds '\\' == test.holds '\x60'

lemma blurs_otherEscape :
    Pattern.Blurs (fun c d => d = otherEscape c) Pattern.CharTest.blursEscapes where
  holds_eq := by
    rintro test c d htest rfl
    exact (Dockerfile.apply_otherEscape (eq_of_beq htest) c).symm
  isWord_eq := by
    rintro ascii c d rfl
    have hword : Pattern.CharKind.word.holds ascii '\\'
        = Pattern.CharKind.word.holds ascii '\x60' := by
      cases ascii <;> decide
    exact (Dockerfile.apply_otherEscape hword c).symm
  feed_iff := by
    rintro c d rfl
    exact (Dockerfile.otherEscape_eq_iff (by decide)).symm

namespace Builtin

/-- No pattern of a built-in tool tells the two escape characters apart. -/
lemma testsOnly_blursEscapes :
    ∀ spec ∈ tools, ∀ pattern ∈ spec.patterns,
      pattern.body.testsOnly Pattern.CharTest.blursEscapes := by
  decide +kernel

/-- A built-in tool is found in the same version if the two escape characters are exchanged. -/
theorem extractVersion_swapEscapes {spec : ToolSpec} (hspec : spec ∈ tools) (t : Text) :
    extractVersion spec.patterns (swapEscapes t) = extractVersion spec.patterns t := by
  have halike : List.Forall₂ (fun c d => d = otherEscape c) t (swapEscapes t) :=
    List.forall₂_map_right_iff.mpr (List.forall₂_same.mpr fun _ _ => rfl)
  have hversion : ∀ c d, d = otherEscape c → Text.isDigit c ∨ c = '.' → d = c := by
    rintro c d rfl hc
    have hbackslash : c ≠ '\\' := by
      rintro rfl
      revert hc
      decide
    have hbacktick : c ≠ '\x60' := by
      rintro rfl
      revert hc
      decide
    exact Equiv.swap_apply_of_ne_of_ne hbackslash hbacktick
  exact (extractVersion_eq_of_forall₂ blurs_otherEscape hversion hspec
    (testsOnly_blursEscapes spec hspec) halike).symm

end Builtin

namespace Checker

/-! ### Checks -/

variable {checker : Checker} {files : Files} {t u : Text}

/-- The check of a tool asks a text for nothing but the version of the tool. -/
lemma checkSpec_congr {spec : ToolSpec}
    (h : extractVersion spec.patterns t = extractVersion spec.patterns u) :
    checker.checkSpec t spec = checker.checkSpec u spec := by
  unfold checkSpec checkToolBy
  rw [h]

/-- Texts that mention the same versions of all tools have the same results. -/
lemma outcome_checkTools_congr {specs : List ToolSpec}
    (hspecs : (checker.tools files).outcome = .ok specs)
    (h : ∀ spec ∈ specs, extractVersion spec.patterns t = extractVersion spec.patterns u) :
    (checker.checkTools files t).outcome = (checker.checkTools files u).outcome := by
  have hresults : ∀ spec ∈ specs,
      (checker.checkSpec t spec).outcome = (checker.checkSpec u spec).outcome := by
    intro spec hspec
    rw [checkSpec_congr (h spec hspec)]
  rw [outcome_checkTools hspecs, outcome_checkTools hspecs]
  exact mapM_congr hresults

/-- The results of the tools in a report are those of the check of the tools. -/
lemma tools_outcome_check (files : Files) (checker : Checker) (content : Text) :
    (checker.check files content).outcome.map Report.tools
      = (checker.checkTools files (scanned content)).outcome := by
  rw [outcome_check]
  cases (checker.checkTools files (scanned content)).outcome <;> rfl

/-- Tools are looked for in the same text, up to the exchange. -/
lemma scanned_withBackticks {content : Text}
    (h : Dockerfile.escapeOf (Text.lines content) = "\\") :
    scanned (withBackticks content) = swapEscapes (scanned content) := by
  unfold scanned toolText
  dsimp only
  rw [h, Dockerfile.escapeOf_withBackticks, Dockerfile.runInstructions_withBackticks,
    Dockerfile.join_swapEscapes rfl]

/-- A built-in tool can be judged in every text. -/
lemma isJudged_of_mem_tools {spec : ToolSpec} (hspec : spec ∈ Builtin.tools) (t : Text) :
    IsJudged t spec := by
  have hkeys : ∀ spec ∈ Builtin.tools, ∃ key : ToolKey, spec.key = key.name := by
    simp only [Builtin.tools, List.forall_mem_cons]
    exact ⟨⟨.jdk, rfl⟩, ⟨.maven, rfl⟩, ⟨.gradle, rfl⟩, ⟨.go, rfl⟩, ⟨.node, rfl⟩, ⟨.python, rfl⟩,
      List.forall_mem_nil _⟩
  exact ⟨hkeys spec hspec,
    not_detectionBreaks_of_isOrderly (Builtin.isOrderly_of_mem_tools spec hspec) t⟩

/-- The two escape characters can be exchanged.

The instructions of lines that are continued by backticks are those of the lines with the two
exchanged, which are continued by backslashes.  And if the escape character of a Dockerfile is the
backslash, that of the Dockerfile with backticks and a directive for them is the backtick, and the
check with the built-in tools comes to the same results for both.  With policies that are known it
comes to a report for both. -/
theorem exchange_escapes :
    (∀ lines, Dockerfile.runInstructions "`" (lines.map swapEscapes)
        = (Dockerfile.runInstructions "\\" lines).map swapEscapes)
      ∧ ∀ (files : Files) (checker : Checker) (content : Text),
        (checker.tools files).outcome = .ok Builtin.tools →
        Dockerfile.escapeOf (Text.lines content) = "\\" →
        Dockerfile.escapeOf (Text.lines (withBackticks content)) = "`"
          ∧ (checker.check files (withBackticks content)).outcome.map Report.tools
            = (checker.check files content).outcome.map Report.tools
          ∧ ∀ (precision : Precision) (policy : MatchPolicy),
            checker.policies = ⟨precision.name, policy.name⟩ →
            ∃ report other, (checker.check files content).outcome = .ok report
              ∧ (checker.check files (withBackticks content)).outcome = .ok other
              ∧ other.tools = report.tools := by
  have hbacktick : ("`" : Text) = swapEscapes "\\" := by decide
  refine ⟨fun lines => ?_, fun files checker content hspecs hescape => ?_⟩
  · rw [hbacktick, Dockerfile.runInstructions_swapEscapes]
  have htools : (checker.check files (withBackticks content)).outcome.map Report.tools
      = (checker.check files content).outcome.map Report.tools := by
    rw [tools_outcome_check, tools_outcome_check, scanned_withBackticks hescape]
    exact outcome_checkTools_congr hspecs fun spec hspec =>
      Builtin.extractVersion_swapEscapes hspec (scanned content)
  refine ⟨Dockerfile.escapeOf_withBackticks content, htools, fun precision policy hpolicies => ?_⟩
  obtain ⟨results, hreport, -⟩ := exists_report hpolicies hspecs fun spec hspec =>
    isJudged_of_mem_tools hspec (scanned content)
  rw [hreport] at htools
  cases hother : (checker.check files (withBackticks content)).outcome with
  | error failure =>
    rw [hother] at htools
    cases htools
  | ok other =>
    rw [hother] at htools
    exact ⟨_, other, hreport, rfl, Except.ok.inj htools⟩

/-- A command over two lines is the same with either of the escape characters. -/
theorem exchange_escapes_over_lines :
    let files := Files.fresh []
    let checker := ofStandards exampleStandards none none none
    let content : Text := "FROM alpine\nRUN apt-get \\\n  install python3.9"
    (checker.tools files).outcome = .ok Builtin.tools
      ∧ Dockerfile.escapeOf (Text.lines content) = "\\"
      ∧ withBackticks content
        = ("# escape=`\nFROM alpine\nRUN apt-get `\n  install python3.9" : Text)
      ∧ ∃ report other, (checker.check files content).outcome = .ok report
        ∧ (checker.check files (withBackticks content)).outcome = .ok other
        ∧ other.tools = report.tools
        ∧ other.tools.filter ToolResult.isFound = [.valid "Python" "3.9"] := by
  intro files checker content
  have hspecs : (checker.tools files).outcome = .ok Builtin.tools := rfl
  have hescape : Dockerfile.escapeOf (Text.lines content) = "\\" := by decide +kernel
  obtain ⟨-, -, hreports⟩ := exchange_escapes.2 files checker content hspecs hescape
  obtain ⟨report, other, hreport, hother, hsame⟩ := hreports .truncated .exact rfl
  have heval : (checker.check files content).outcome.toOption.map
      (fun report => report.tools.filter ToolResult.isFound) = some [.valid "Python" "3.9"] := by
    decide +kernel
  rw [hreport] at heval
  refine ⟨hspecs, hescape, by decide +kernel, report, other, hreport, hother, hsame, ?_⟩
  rw [hsame]
  exact Option.some.inj heval

end Checker

end DockCheck
