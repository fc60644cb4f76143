import DockCheck.Text.Blank
import DockCheck.Text.LetterCase

/-!
# Run instructions

`runInstructions` collects the shell commands of a Dockerfile.  A line that opens with the keyword
`RUN` starts an instruction, and as long as its lines end in the escape text the instruction goes
on.  Blank lines and comment lines within an instruction do not count, and the end of the file ends
an instruction that is still open.

An `Assembly` is the state between two lines: the instructions that are complete, and the parts of
the one that is open.
-/

namespace DockCheck.Dockerfile

/-- The text after the keyword of a line that opens an instruction.  The keyword, in any letter
case, stands alone or before white space or the escape text. -/
def runBody? (escape line : Text) : Option Text :=
  let word : Text := "run"
  let rest := line.drop 3
  let separated := match rest with
    | [] => true
    | c :: _ => Text.isBlank c || Text.startsWith rest escape
  if (line.take 3).map Text.asciiLower = word && separated then some (Text.strip rest) else none

/-- The part of a continued line that belongs to its instruction: what stands before the escape
text.  Nothing stands before an empty one. -/
def beforeEscape (escape line : Text) : Text :=
  if escape.isEmpty then [] else Text.strip (Text.dropRight line escape.length)

/-- The instruction with the given parts: those that are not empty, with single spaces between
them. -/
def joinParts (parts : List Text) : Text :=
  Text.join [' '] (parts.filter fun part => !part.isEmpty)

/-- The state of the collection between two lines.  Both lists have their latest member first. -/
structure Assembly where
  /-- The instructions that are complete. -/
  complete : List Text
  /-- The parts of the instruction that is open, if one is. -/
  pending : Option (List Text)
  deriving DecidableEq, Repr

namespace Assembly

/-- The state before the first line. -/
def empty : Assembly := ⟨[], none⟩

/-- Completes the open instruction, if there is one. -/
def close (state : Assembly) : Assembly :=
  match state.pending with
  | none => state
  | some parts => ⟨joinParts parts.reverse :: state.complete, none⟩

/-- Is the line, without the white space around it, skipped within an instruction? -/
def isSkipped (line : Text) : Bool := line.isEmpty || Text.startsWith line ['#']

/-- Takes the next line in. -/
def step (escape : Text) (state : Assembly) (raw : Text) : Assembly :=
  let line := Text.strip raw
  match state.pending with
  | none =>
    match runBody? escape line with
    | none => state
    | some body =>
      if Text.endsWith body escape then { state with pending := some [beforeEscape escape body] }
      else close { state with pending := some [body] }
  | some parts =>
    if isSkipped line then state
    else if Text.endsWith line escape then
      { state with pending := some (beforeEscape escape line :: parts) }
    else close { state with pending := some (line :: parts) }

/-- The state after the given lines. -/
def run (escape : Text) (lines : List Text) : Assembly := lines.foldl (step escape) empty

end Assembly

/-- The shell commands of a Dockerfile, in order, each as one text without the keyword. -/
def runInstructions (escape : Text) (lines : List Text) : List Text :=
  (Assembly.run escape lines).close.complete.reverse

end DockCheck.Dockerfile
