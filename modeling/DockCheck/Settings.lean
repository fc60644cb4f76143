import DockCheck.Failure
import DockCheck.Log
import DockCheck.Schema
import DockCheck.Text.LetterCase

/-!
# Settings

The `Settings` of a check come from variables of the environment, whose names are read in any
letter case, and from values that are given directly, which come first.
-/

namespace DockCheck

/-- The settings of a check.  Policies that are not set are those of the standards. -/
structure Settings where
  dockerfile : Path
  standards : Path
  tools : Option Path
  precision : Option Precision
  policy : Option MatchPolicy
  logLevel : LogLevel
  deriving DecidableEq, Repr

namespace Settings

/-- The key of the Dockerfile, which is also the name of its variable. -/
def dockerfileKey : Text := "DOCKERFILE_PATH"

/-- The other key of the Dockerfile. -/
def dockerfileField : Text := "dockerfile_path"

/-- The keys of the other settings, in order. -/
def otherKeys : List Text :=
  ["standards_path", "tools_path", "version_precision", "version_match", "log_level"]

/-- The start of the names of variables. -/
def variableStart : Text := "dockwarden_"

/-- The name of a variable as names are compared. -/
def comparedName (name : Text) : Text := name.map Text.lowerToAscii

/-- The value of a variable by its name in lower case.  Of several variables whose names differ in
letter case, the last counts. -/
def valueIn? (environment : List (Text × Text)) (name : Text) : Option Text :=
  (environment.reverse.find? fun entry => comparedName entry.1 == name).map (·.2)

/-- The values that the environment gives, by the keys of the settings. -/
def ofEnvironment (environment : List (Text × Text)) : List (Text × Data) :=
  let entry (key name : Text) : Option (Text × Data) :=
    (valueIn? environment name).map fun t => (key, .text t)
  (entry dockerfileKey (comparedName dockerfileKey)).toList
    ++ otherKeys.filterMap fun key => entry key (variableStart ++ key)

/-- The values that are given directly, by the keys of the settings, and after them those that are
no settings. -/
def ofGiven (given : List (Text × Data)) : List (Text × Data) :=
  let dockerfile := (Schema.firstField [dockerfileKey, dockerfileField] given).map (·.2)
  (dockerfile.map fun value => (dockerfileKey, value)).toList
    ++ given.filter fun entry => entry.1 != dockerfileKey && entry.1 != dockerfileField

/-- The values of the settings. -/
def values (environment : List (Text × Text)) (given : List (Text × Data)) :
    List (Text × Data) :=
  let direct := ofGiven given
  direct ++ (ofEnvironment environment).filter fun entry => (direct.lookup entry.1).isNone

open Schema in
/-- A path. -/
def path : Reader Path := fun location value =>
  match value with
  | .text t => .ok (Path.ofText t)
  | _ => .issue location .notPath

open Schema in
/-- A log level, in any letter case. -/
def logLevelOf : Reader LogLevel := fun location value =>
  let upper : Data := match value with
    | .text t => .text (Text.upper t)
    | other => other
  choice LogLevel.all LogLevel.name location upper

open Schema in
/-- Refuses the values that are no settings. -/
def refuseOthers (location : List Step) (entries : List (Text × Data)) : Checked Unit :=
  match entries.filter fun entry => entry.1 != dockerfileKey && !otherKeys.contains entry.1 with
  | [] => .ok ()
  | others => .faulty (others.map fun entry => ⟨location ++ [.field entry.1], .unknownField⟩)

open Schema in
/-- The settings of values. -/
def ofEntries (location : List Step) (entries : List (Text × Data)) : Checked Settings :=
  (((((((.ok (fun a b c d e f (_ : Unit) => Settings.mk a b c d e f) : Checked _).and
    (fieldOr (Path.ofText "cosmos/Dockerfile") [dockerfileKey] path location entries)).and
    (fieldOr (Path.ofText "managed_files/standards.json") ["standards_path"] path location
      entries)).and
    (fieldOr none ["tools_path"] (optional path) location entries)).and
    (fieldOr none ["version_precision"] (optional (choice Precision.all Precision.name)) location
      entries)).and
    (fieldOr none ["version_match"] (optional (choice MatchPolicy.all MatchPolicy.name)) location
      entries)).and
    (fieldOr .warning ["log_level"] logLevelOf location entries)).and
    (refuseOthers location entries)

/-- The title of the form. -/
def title : Text := "CheckerConfig"

/-- The settings that an environment and directly given values make. -/
def make (environment : List (Text × Text)) (given : List (Text × Data)) :
    Except Schema.Rejection Settings :=
  (ofEntries [] (values environment given)).titled title

/-- Loads the settings from an environment. -/
def load (environment : List (Text × Text)) : Except CheckError Settings :=
  (make environment []).mapError fun rejection => .settingsInvalid (.rejected rejection)

/-- The entries of the settings. -/
def toData (settings : Settings) : Data :=
  let orNull (t : Option Text) : Data := (t.map Data.text).getD .null
  .table
    [("dockerfile_path", .text settings.dockerfile.toText),
      ("standards_path", .text settings.standards.toText),
      ("tools_path", orNull (settings.tools.map Path.toText)),
      ("version_precision", orNull (settings.precision.map Precision.name)),
      ("version_match", orNull (settings.policy.map MatchPolicy.name)),
      ("log_level", .text settings.logLevel.name)]

end Settings

end DockCheck
