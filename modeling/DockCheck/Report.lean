import DockCheck.Dockerfile.BaseImage
import DockCheck.Schema
import DockCheck.Tool

/-!
# Reports

A `Report` is the outcome of one check: that of the base image and one result for each tool.  What
it says beyond that, such as whether the check passed, is computed from these.  `Report.ofData`
reads a report from data and ignores whatever those say about computed values.
-/

namespace DockCheck

/-- The outcome of one check. -/
structure Report where
  baseImage : ImageCheck
  tools : List ToolResult
  deriving DecidableEq, Repr

namespace Report

/-- The results of the tools that are mentioned, in order. -/
def found (report : Report) : List ToolResult := report.tools.filter ToolResult.isFound

/-- The number of tools that are mentioned in an allowed version. -/
def validFoundCount (report : Report) : Nat := report.found.countP ToolResult.isValid

/-- Did the check pass?  A tool that is not mentioned does no harm. -/
def passed (report : Report) : Bool :=
  report.baseImage.valid && report.found.all ToolResult.isValid

end Report

/-! ### Reading reports -/

namespace ToolResult

/-- The words for outcomes, in the order in which messages list them. -/
def statuses : List Text := ["not_found", "valid", "invalid"]

open Schema in
/-- The result of a tool, as its status says which of the three it is. -/
def reader : Reader ToolResult := fun location value =>
  match value with
  | .table entries =>
    let key : Text := "status"
    match entries.lookup key with
    | none => .issue location (.noTag key)
    | some tag =>
      let unknown : Checked ToolResult := .issue location (.unknownTag key tag.shown statuses)
      match tag with
      | .text t =>
        let inner := location ++ [.field t]
        let name := field ["name"] text inner entries
        let version := field ["detected_version"] text inner entries
        if t = "not_found" then (.ok ToolResult.notFound : Checked _).and name
        else if t = "valid" then ((.ok ToolResult.valid : Checked _).and name).and version
        else if t = "invalid" then
          (((.ok ToolResult.invalid : Checked _).and name).and version).and
            (fieldOr [] ["allowed_versions"] texts inner entries)
        else unknown
      | _ => unknown
  | _ => .issue location .notFields

/-- The title of the form. -/
def title : Text := "tagged-union[ToolNotFound,ToolFoundValid,ToolFoundInvalid]"

/-- The result of a tool in a document. -/
def ofData (value : Data) : Except Schema.Rejection ToolResult := (reader [] value).titled title

/-- The entries of a result without the computed ones. -/
def coreEntries : ToolResult → List (Text × Data)
  | notFound name => [("status", .text "not_found"), ("name", .text name)]
  | valid name version =>
    [("status", .text "valid"), ("name", .text name), ("detected_version", .text version)]
  | invalid name version allowed =>
    [("status", .text "invalid"), ("name", .text name), ("detected_version", .text version),
      ("allowed_versions", .list (allowed.map .text))]

/-- A text or null. -/
def textOrNull : Option Text → Data
  | none => .null
  | some t => .text t

/-- The entries of a result, the computed ones included. -/
def toData (result : ToolResult) : Data :=
  let computed : List (Text × Data) :=
    [("found", .bool result.isFound), ("valid", .bool result.isValid),
      ("version", textOrNull result.version?), ("message", .text result.message)]
  .table (result.coreEntries ++ computed)

end ToolResult

namespace ImageCheck

open Schema in
/-- The outcome of the check of a base image. -/
def ofEntries (location : List Step) (entries : List (Text × Data)) : Checked ImageCheck :=
  (((.ok ImageCheck.mk : Checked _).and
    (field ["status"] (choice ImageStatus.all ImageStatus.name) location entries)).and
    (field ["expected"] text location entries)).and
    (fieldOr none ["image"] (optional text) location entries)

/-- The entries of the outcome, the computed ones included. -/
def toData (check : ImageCheck) : Data :=
  .table
    [("status", .text check.status.name), ("expected", .text check.expected),
      ("image", ToolResult.textOrNull check.image), ("valid", .bool check.valid),
      ("message", .text check.message)]

end ImageCheck

namespace Report

open Schema in
/-- A report. -/
def ofEntries (location : List Step) (entries : List (Text × Data)) : Checked Report :=
  ((.ok Report.mk : Checked _).and
    (field ["base_image"] (model "BaseImageCheck" ImageCheck.ofEntries) location entries)).and
    (fieldOr [] ["tools"] (list ToolResult.reader) location entries)

/-- The title of the form. -/
def title : Text := "ValidationReport"

/-- The report of a document. -/
def ofData (value : Data) : Except Schema.Rejection Report :=
  (Schema.model title ofEntries [] value).titled title

/-- The entries of a report, the computed ones included. -/
def toData (report : Report) : Data :=
  .table
    [("base_image", report.baseImage.toData), ("tools", .list (report.tools.map (·.toData))),
      ("passed", .bool report.passed)]

end Report

end DockCheck
