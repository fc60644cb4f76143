import DockCheck.Checker

/-!
# Sessions

A session puts one checker to work again and again, while the files around it change.
`Session.run` gives what each step shows.
-/

namespace DockCheck

/-- A change to the files. -/
inductive FileChange where
  | write (path : Path) (content : Content)
  | remove (path : Path)
  deriving DecidableEq, Repr

/-- The files after a change. -/
def Files.change (files : Files) : FileChange → Files
  | .write path content => files.write path content
  | .remove path => files.remove path

/-- The files after changes. -/
def Files.changeAll (files : Files) (changes : List FileChange) : Files :=
  changes.foldl Files.change files

namespace Session

/-- A step of a session. -/
inductive Step where
  /-- A Dockerfile is checked. -/
  | check (content : Text)
  /-- The tools in a text are judged. -/
  | checkTools (t : Text)
  /-- Files change. -/
  | change (changes : List FileChange)
  deriving DecidableEq, Repr

/-- What a step shows. -/
inductive Shown where
  | report (result : Logged Report)
  | tools (result : Logged (List ToolResult))
  | changed

/-- The checker of a session and the files around it. -/
structure State where
  checker : Checker
  files : Files

namespace State

/-- The state after a step. -/
def next (state : State) : Step → State
  | .change changes => { state with files := state.files.changeAll changes }
  | _ => { state with checker := state.checker.afterReading state.files }

/-- What a step shows in a state. -/
def shown (state : State) : Step → Shown
  | .check content => .report (state.checker.check state.files content)
  | .checkTools t => .tools (state.checker.checkTools state.files t)
  | .change _ => .changed

end State

/-- What the steps of a session show. -/
def run (state : State) : List Step → List Shown
  | [] => []
  | step :: steps => state.shown step :: run (state.next step) steps

end Session

end DockCheck
