import DockCheck.Failure
import DockCheck.Schema
import DockCheck.Tool
import DockCheck.Yaml

/-!
# Tool catalogs

A catalog is a YAML document with a list of tools.  `ToolSpec.ofData` reads one tool, whose
patterns are compiled then and there, and `Catalog.load` reads the catalog in a file.
-/

namespace DockCheck

namespace Pattern.Refusal

/-- Is a number in the pattern, or a part of it, too large?  That is not a fault of the text of a
pattern but of its size. -/
def isTooLarge : Refusal → Bool
  | .fault _ .repetitionTooLarge => true
  | .fault _ .codeTooLarge => true
  | .fault _ .lookbehindTooLong => true
  | _ => false

end Pattern.Refusal

namespace ToolSpec

/-- The patterns of the given texts, or why the first that is refused is. -/
def patternsOf (sources : List Text) : Except Pattern.Refusal (List Pattern) :=
  sources.mapM Pattern.ofText

open Schema in
/-- Patterns, of which there must be at least one. -/
def patternReader : Reader (List Pattern) := fun location value =>
  match texts location value with
  | .faulty issues => .faulty issues
  | .ok [] => .issue location (.refused "at least one pattern is required")
  | .ok sources =>
    match patternsOf sources with
    | .ok found => .ok found
    | .error refusal => .issue location (.refused refusal.message)

open Schema in
/-- A tool. -/
def ofEntries (location : List Step) (entries : List (Text × Data)) : Checked ToolSpec :=
  (((.ok ToolSpec.mk : Checked _).and
    (field ["key"] text location entries)).and
    (field ["name"] text location entries)).and
    (field ["patterns"] patternReader location entries)

/-- The title of the form. -/
def title : Text := "ToolSpec"

open Schema in
/-- The pattern of a tool that is too large, if the first that is refused is. -/
def tooLarge? (value : Data) : Option Pattern.Refusal :=
  match (value.field? "patterns").map (texts []) with
  | some (.ok sources) =>
    match patternsOf sources with
    | .error refusal => if refusal.isTooLarge then some refusal else none
    | .ok _ => none
  | _ => none

/-- The tool of a document. -/
def ofData (value : Data) : Except Crash ToolSpec :=
  match tooLarge? value with
  | some refusal => .error (.pattern refusal)
  | none => ((Schema.model title ofEntries [] value).titled title).mapError .rejected

/-- The entries of a tool. -/
def toData (spec : ToolSpec) : Data :=
  .table
    [("key", .text spec.key), ("name", .text spec.name),
      ("patterns", .list (spec.patterns.map fun pattern => .text pattern.source))]

end ToolSpec

namespace Catalog

/-- The tool of an item of the catalog at a path. -/
def tool (path : Path) (value : Data) : Except Failure ToolSpec :=
  (ToolSpec.ofData value).mapError fun crash =>
    match crash with
    | .rejected rejection => .reported (.catalogInvalid path (.rejected rejection))
    | crash => .escaped crash

/-- The tools of the catalog at a path. -/
def ofData (path : Path) (value : Data) : Except Failure (List ToolSpec) :=
  match value.field? "tools" with
  | some (.list items) => items.mapM (tool path)
  | _ => .error (.reported (.catalogInvalid path .noTools))

/-- The catalog at a path, whose text is given. -/
def ofStream (path : Path) (document : Text.Stream) : Except Failure (List ToolSpec) :=
  match Yaml.readStream document with
  | .ok value => ofData path value
  | .error .malformed => .error (.reported (.catalogInvalid path .badYaml))
  | .error fault => .error (.escaped (.yaml fault))

/-- Loads the catalog in a file. -/
def load (files : Files) (path : Path) : Except Failure (List ToolSpec) :=
  match files.readStream path with
  | .ok document => ofStream path document
  | .error (.system .missing _) => .error (.reported (.catalogInvalid path .noFile))
  | .error fault => .error (.escaped (.file fault))

end Catalog

end DockCheck
