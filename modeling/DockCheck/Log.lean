import DockCheck.Failure
import DockCheck.Text.UpperCase

/-!
# Logging

A check leaves `LogRecord`s.  `Logging` is the state of the log: the level below which records are
dropped, and the number of places where the others go.  A `Logging.Change` alters it step by step;
`Logging.setUp` sets the level by its name and then has the records go to one place.
-/

namespace DockCheck

/-- How grave a record is. -/
inductive LogLevel where
  | debug
  | info
  | warning
  | error
  | critical
  deriving DecidableEq, Repr

namespace LogLevel

/-- The levels, the least grave first. -/
def all : List LogLevel := [.debug, .info, .warning, .error, .critical]

/-- The name of a level. -/
def name : LogLevel → Text
  | .debug => "DEBUG"
  | .info => "INFO"
  | .warning => "WARNING"
  | .error => "ERROR"
  | .critical => "CRITICAL"

/-- The place of a level in the order of gravity. -/
def rank : LogLevel → Nat
  | .debug => 1
  | .info => 2
  | .warning => 3
  | .error => 4
  | .critical => 5

end LogLevel

/-- The level of a log: records of this level and graver ones are kept, or all records are. -/
inductive Threshold where
  | everything
  | from (level : LogLevel)
  deriving DecidableEq, Repr

namespace Threshold

/-- The name of a threshold. -/
def name : Threshold → Text
  | everything => "NOTSET"
  | «from» level => level.name

/-- The names by which a threshold can be set.  Two levels have two names. -/
def names : List (Text × Threshold) := [
  ("CRITICAL", .from .critical), ("FATAL", .from .critical), ("ERROR", .from .error),
  ("WARN", .from .warning), ("WARNING", .from .warning), ("INFO", .from .info),
  ("DEBUG", .from .debug), ("NOTSET", .everything)]

/-- Are records of this level kept? -/
def keeps (threshold : Threshold) (level : LogLevel) : Bool :=
  match threshold with
  | everything => true
  | «from» least => least.rank ≤ level.rank

end Threshold

/-- The state of the log. -/
structure Logging where
  threshold : Threshold
  handlers : Nat
  deriving DecidableEq, Repr

namespace Logging

/-- The state at first: warnings count, and records go nowhere. -/
def initial : Logging := ⟨.from .warning, 0⟩

/-- The level that is set where none is given. -/
def usualLevel : Text := "WARNING"

/-- A change to the log, which may fail.  A failure does not take back what was done before it. -/
abbrev Change := ExceptT Crash (StateM Logging)

/-- What a change comes to in a state, and the state after it. -/
def Change.applyTo {α : Type} (change : Change α) (logging : Logging) : Except Crash α × Logging :=
  Id.run (StateT.run (ExceptT.run change) logging)

/-- Sets the level by its name. -/
def setLevel (name : Text) : Change Unit :=
  match Threshold.names.lookup name with
  | some threshold => modify fun logging => { logging with threshold := threshold }
  | none => throw (.unknownLevel name)

/-- Has the records go nowhere. -/
def clearHandlers : Change Unit := modify fun logging => { logging with handlers := 0 }

/-- Has the records go to one more place. -/
def addHandler : Change Unit :=
  modify fun logging => { logging with handlers := logging.handlers + 1 }

/-- Sets the level by its name, in any letter case, and has the records go to one place instead of
those where they went before. -/
def setUp (level : Text) : Change Unit := do
  setLevel (Text.upper level)
  clearHandlers
  addHandler

/-- What setting up the log comes to for one level after the other, with the state after each. -/
def setUpEach (logging : Logging) : List Text → List (Except Crash Unit × Logging)
  | [] => []
  | level :: levels =>
    let call := (setUp level).applyTo logging
    call :: setUpEach call.2 levels

/-- The levels of the records that are kept. -/
def kept (logging : Logging) : List LogLevel := LogLevel.all.filter logging.threshold.keeps

end Logging

/-- What a record says. -/
inductive LogMessage where
  | text (t : Text)
  /-- A failure that was reported. -/
  | failed (error : CheckError)
  deriving DecidableEq, Repr

/-- What the record of a reported failure says before the failure. -/
def failureNotice : Text := "Error validating Dockerfile: "

/-- The wording of what a record says. -/
def LogMessage.wording : LogMessage → Text
  | .text t => t
  | .failed error => failureNotice ++ error.message

/-- The part of the program that a record comes from. -/
inductive LogSource where
  /-- The reading of the inputs. -/
  | inputs
  /-- The check of a Dockerfile. -/
  | checker
  /-- The command line. -/
  | commandLine
  deriving DecidableEq, Repr

/-- A record of the log. -/
structure LogRecord where
  level : LogLevel
  source : LogSource
  message : LogMessage
  deriving DecidableEq, Repr

end DockCheck
