import DockCheck.Checker
import DockCheck.CommandLine.Arguments
import DockCheck.Inputs
import DockCheck.Report.Console
import DockCheck.Settings

/-!
# The command line

`CommandLine.run` is one run of the program: it reads the arguments and the settings, checks one
Dockerfile and says how the run ends.  A run either prints a whole report or prints nothing.
-/

namespace DockCheck.CommandLine

/-! ### Options -/

/-- The form of the report. -/
inductive Format where
  | text
  | json
  deriving DecidableEq, Repr

namespace Format

/-- The forms. -/
def all : List Format := [.text, .json]

/-- The name of a form. -/
def name : Format → Text
  | text => "text"
  | json => "json"

/-- Writes a report. -/
def write : Format → Report → Text
  | text => Report.plain
  | json => Report.json

end Format

/-- What the arguments ask for. -/
structure Options where
  dockerfile : Option Path
  standards : Option Path
  tools : Option Path
  precision : Option Precision
  policy : Option MatchPolicy
  format : Format
  verbose : Bool
  deriving DecidableEq, Repr

/-- What a command line asks for. -/
inductive Request where
  | help
  | check (options : Options)
  deriving DecidableEq, Repr

/-- The choice that an option makes, if it is there. -/
def choice {α : Type} (all : List α) (name : α → Text) (option : OptionName)
    (arguments : Arguments) : Except UsageError (Option α) :=
  match arguments.last? option with
  | none => .ok none
  | some t =>
    match all.find? fun a => name a == t with
    | some a => .ok (some a)
    | none => .error (.unknownChoice option t)

/-- The path that an option gives, if it is there. -/
def pathOf (option : OptionName) (arguments : Arguments) : Option Path :=
  (arguments.last? option).map Path.ofText

/-- What arguments ask for.  No argument may be left over. -/
def Options.ofArguments (arguments : Arguments) : Except UsageError Options := do
  let precision ← choice Precision.all Precision.name .precision arguments
  let policy ← choice MatchPolicy.all MatchPolicy.name .matching arguments
  let format ← choice Format.all Format.name .format arguments
  match arguments.others with
  | [] =>
    return {
      dockerfile := pathOf .dockerfile arguments
      standards := pathOf .standards arguments
      tools := pathOf .tools arguments
      precision := precision
      policy := policy
      format := format.getD .text
      verbose := arguments.has .verbose }
  | t :: _ => throw (.extraArgument t)

/-- What a command line asks for.  Who asks for help gets it, whatever else is asked for. -/
def Request.ofArguments (given : List Text) : Except UsageError Request := do
  let arguments ← Arguments.read given
  if arguments.has .help then return .help
  return .check (← Options.ofArguments arguments)

/-! ### The plan of a check -/

/-- What a check works with. -/
structure Plan where
  standards : Path
  dockerfile : Path
  tools : Option Path
  precision : Option Precision
  policy : Option MatchPolicy
  deriving DecidableEq, Repr

namespace Plan

/-- Options come before settings. -/
def make (options : Options) (settings : Settings) : Plan where
  standards := options.standards.getD settings.standards
  dockerfile := options.dockerfile.getD settings.dockerfile
  tools := options.tools.or settings.tools
  precision := options.precision.or settings.precision
  policy := options.policy.or settings.policy

/-- The files that a check reads. -/
def paths (plan : Plan) : List Path := plan.standards :: plan.dockerfile :: plan.tools.toList

/-- The checker for standards. -/
def checker (plan : Plan) (standards : Standards) : Checker :=
  Checker.ofStandards standards plan.tools (plan.precision.map Precision.name)
    (plan.policy.map MatchPolicy.name)

/-- The wording of the record that standards were loaded. -/
def loadedMessage (path : Path) (standards : Standards) : Text :=
  "Loaded standards from " ++ path.toText ++ " (base image " ++ standards.baseImage ++ ")"

/-- Makes the report: loads the standards, reads the Dockerfile and checks it. -/
def report (files : Files) (plan : Plan) : Logged Report := do
  let standards ← Logged.ofExcept (loadStandards files plan.standards)
  Logged.log .debug .inputs (loadedMessage plan.standards standards)
  let content ← Logged.ofExcept (readDockerfile files plan.dockerfile)
  (plan.checker standards).check files content

end Plan

/-! ### Runs -/

/-- How a run ends. -/
inductive Ending where
  /-- The command line makes no sense. -/
  | misused (error : UsageError)
  /-- Help was asked for. -/
  | helped
  /-- The run printed its output and left with a code. -/
  | finished (code : Nat) (output : Text) (records : List LogRecord)
  /-- The run broke off. -/
  | crashed (crash : Crash) (records : List LogRecord)
  deriving DecidableEq, Repr

/-- The record of a failure that is reported. -/
def failureRecord (error : CheckError) : LogRecord := ⟨.error, .commandLine, .failed error⟩

/-- The records that a log keeps. -/
def keep (threshold : Threshold) (records : List LogRecord) : List LogRecord :=
  records.filter fun record => threshold.keeps record.level

/-- How a check ends: with its report, or with the report of its failure. -/
def Ending.ofResult (format : Format) (threshold : Threshold) (result : Logged Report) : Ending :=
  match result.outcome with
  | .ok report =>
    .finished (if report.passed then 0 else 1) (format.write report)
      (keep threshold result.records)
  | .error (.reported error) =>
    .finished 1 [] (keep threshold (result.records ++ [failureRecord error]))
  | .error (.escaped crash) => .crashed crash (keep threshold result.records)

/-- The records that are kept: all of them if asked for, and else those of a level. -/
def threshold (options : Options) (usual : LogLevel) : Threshold :=
  .from (if options.verbose then .debug else usual)

/-- One check.  Settings that make no sense are reported before anything is read. -/
def runCheck (options : Options) (environment : List (Text × Text)) (files : Files) : Ending :=
  match Settings.load environment with
  | .error error =>
    .finished 1 [] (keep (threshold options .warning) [failureRecord error])
  | .ok settings =>
    .ofResult options.format (threshold options settings.logLevel)
      ((Plan.make options settings).report files)

/-- One run of the program. -/
def run (arguments : List Text) (environment : List (Text × Text)) (files : Files) : Ending :=
  match Request.ofArguments arguments with
  | .error error => .misused error
  | .ok .help => .helped
  | .ok (.check options) => runCheck options environment files

end DockCheck.CommandLine
