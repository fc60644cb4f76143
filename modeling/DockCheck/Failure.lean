import DockCheck.Files
import DockCheck.Json.Reader
import DockCheck.Schema.Issue
import DockCheck.Tool
import DockCheck.Yaml.Token

/-!
# Failures

A check can fail in two ways.  A `CheckError` is foreseen: it says which input is at fault, and the
program reports it.  A `Crash` is not: it comes from deep within the reading of an input, nobody
handles it, and it ends the program.  A `Failure` is either of them.
-/

namespace DockCheck

/-- What is wrong with an input. -/
inductive Detail where
  /-- A text from elsewhere. -/
  | text (t : Text)
  /-- The data do not have the right form. -/
  | rejected (rejection : Schema.Rejection)
  /-- The input is not well-formed YAML. -/
  | badYaml
  /-- The input is not well-formed JSON. -/
  | badJson (document : Text) (problem : Json.Problem) (left : Nat)
  /-- The input could not be read. -/
  | unreadable (fault : FileFault)
  /-- The outermost value is no table. -/
  | notTable
  /-- There is no file. -/
  | noFile
  /-- The outermost value has no list of tools. -/
  | noTools
  /-- A tool has a key without allowed versions. -/
  | unknownKey (key : Text)
  deriving DecidableEq, Repr

/-- The wording of what is wrong with an input.  Of a rejection this is the first line; what is
wrong with YAML has no wording of its own. -/
def Detail.message : Detail → Text
  | .text t => t
  | .rejected rejection => rejection.headline
  | .badYaml => []
  | .badJson document problem left => (Json.Fault.malformed problem left).message document
  | .unreadable fault => fault.message
  | .notTable => "top-level value must be an object"
  | .noFile => "file not found"
  | .noTools => "expected a 'tools' list"
  | .unknownKey key => "unknown tool key: " ++ key

/-- A foreseen failure. -/
inductive CheckError where
  | standardsMissing (path : Path)
  | standardsInvalid (path : Path) (detail : Detail)
  | dockerfileMissing (path : Path)
  | dockerfileUnreadable (path : Path) (detail : Detail)
  /-- Without a path, the catalog is the built-in one. -/
  | catalogInvalid (path : Option Path) (detail : Detail)
  | settingsInvalid (detail : Detail)
  deriving DecidableEq, Repr

namespace CheckError

/-- What is wrong with the input, if that is known. -/
def detail? : CheckError → Option Detail
  | standardsInvalid _ detail => some detail
  | dockerfileUnreadable _ detail => some detail
  | catalogInvalid _ detail => some detail
  | settingsInvalid detail => some detail
  | _ => none

/-- The wording of a foreseen failure. -/
def message : CheckError → Text
  | standardsMissing path => "Standards file not found: " ++ path.toText
  | standardsInvalid path detail =>
    "Invalid standards file " ++ path.toText ++ ": " ++ detail.message
  | dockerfileMissing path => "Dockerfile not found: " ++ path.toText
  | dockerfileUnreadable path detail =>
    "Failed to read Dockerfile " ++ path.toText ++ ": " ++ detail.message
  | catalogInvalid path detail =>
    "Invalid tool catalog " ++ (path.map Path.toText).getD "<built-in>" ++ ": " ++ detail.message
  | settingsInvalid detail => "Invalid settings: " ++ detail.message

end CheckError

/-- A failure that nobody handles. -/
inductive Crash where
  | rejected (rejection : Schema.Rejection)
  | tool (fault : ToolFault)
  /-- A look-up of the allowed versions under an unknown key. -/
  | unknownKey (key : Text)
  /-- A pattern is too large. -/
  | pattern (refusal : Pattern.Refusal)
  | file (fault : FileFault)
  /-- A YAML document asks for a value that does not exist. -/
  | yaml (fault : Yaml.Fault)
  | numeral (fault : Text.NumeralFault)
  /-- The values of a JSON document are nested too deep. -/
  | tooDeep (container : Json.Container)
  | unknownLevel (name : Text)
  deriving DecidableEq, Repr

/-- The wording of a failure that nobody handles. -/
def Crash.message : Crash → Text
  | .rejected rejection => rejection.headline
  | .tool (.search fault) => fault.message
  | .tool (.policy error) => error.message
  | .unknownKey key => Text.quoted key
  | .pattern (.fault source fault) => fault.message source
  | .pattern refusal => refusal.message
  | .file fault => fault.message
  | .yaml fault => fault.message
  | .numeral fault => fault.message
  | .tooDeep container => container.tooDeepMessage
  | .unknownLevel name => "Unknown level: " ++ Text.quoted name

/-- Why a check has no outcome. -/
inductive Failure where
  | reported (error : CheckError)
  | escaped (crash : Crash)
  deriving DecidableEq, Repr

end DockCheck
