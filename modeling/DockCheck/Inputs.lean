import DockCheck.Failure
import DockCheck.Standards
import DockCheck.Yaml

/-!
# The inputs of a check

`loadStandards` reads a standards document, which is JSON or by the suffix of its path YAML, and
`readDockerfile` reads the file that is checked.
-/

namespace DockCheck

/-- Is the document at a path YAML? -/
def Path.isYaml (path : Path) : Bool :=
  let suffixes : List Text := [".yaml", ".yml"]
  suffixes.contains (path.suffix.map fun c => if 'A' ≤ c && c ≤ 'Z' then c.toLower else c)

/-- The data of the document at a path, whose text is given. -/
def parseDocument (path : Path) (document : Text) : Except Failure Data :=
  if path.isYaml then
    match Yaml.read document with
    | .ok value => .ok value
    | .error .malformed => .error (.reported (.standardsInvalid path .badYaml))
    | .error fault => .error (.escaped (.yaml fault))
  else
    match Json.read document with
    | .ok value => .ok value
    | .error (.malformed problem left) =>
      .error (.reported (.standardsInvalid path (.badJson document problem left)))
    | .error (.numeral fault) => .error (.escaped (.numeral fault))
    | .error (.tooDeep container) => .error (.escaped (.tooDeep container))

/-- The standards of the data of the document at a path. -/
def standardsOfData (path : Path) (value : Data) : Except Failure Standards :=
  match value with
  | .table _ =>
    (Standards.ofData value).mapError fun rejection =>
      .reported (.standardsInvalid path (.rejected rejection))
  | _ => .error (.reported (.standardsInvalid path .notTable))

/-- The standards of the document at a path, whose text is given. -/
def standardsOfText (path : Path) (document : Text) : Except Failure Standards := do
  standardsOfData path (← parseDocument path document)

/-- Loads standards from a file. -/
def loadStandards (files : Files) (path : Path) : Except Failure Standards :=
  match files.exists? path Files.isFile with
  | .error fault => .error (.escaped (.file fault))
  | .ok false => .error (.reported (.standardsMissing path))
  | .ok true =>
    match files.readText path with
    | .error fault => .error (.reported (.standardsInvalid path (.unreadable fault)))
    | .ok document => standardsOfText path document

/-- Reads the file that is checked. -/
def readDockerfile (files : Files) (path : Path) : Except Failure Text :=
  match files.exists? path fun _ => true with
  | .error fault => .error (.escaped (.file fault))
  | .ok false => .error (.reported (.dockerfileMissing path))
  | .ok true =>
    (files.readText path).mapError fun fault =>
      .reported (.dockerfileUnreadable path (.unreadable fault))

end DockCheck
