import DockCheck.Text.Blank
import DockCheck.Text.Letters
import DockCheck.Text.LetterCase

/-!
# Parser directives

A Dockerfile may open with a block of directive lines `# name=value`.  The directive `escape`
chooses the character that continues a line on the next one: the backslash, which it is without a
directive, or the backtick.  The main definitions are `Directive.ofLine?` and `escapeOf`.
-/

namespace DockCheck.Dockerfile

/-- A parser directive. -/
structure Directive where
  name : Text
  value : Text
  deriving DecidableEq, Repr

/-- May the character stand in the name of a directive after its first letter? -/
def isDirectiveNamePart (c : Char) : Bool := Text.isAsciiWord c || c == '-'

/-- The directive that a line holds: after the number sign a name, an equals sign and a value
without white space, with white space between them as one likes.  Anything else is no directive
line, and ends the block of directives. -/
def Directive.ofLine? (line : Text) : Option Directive :=
  match Text.strip line with
  | '#' :: rest =>
    let start := Text.trimLeft rest
    let name := start.takeWhile isDirectiveNamePart
    match name.head?, Text.trimLeft (start.dropWhile isDirectiveNamePart) with
    | some first, '=' :: rest =>
      let value := Text.trimLeft rest
      if Text.isAsciiLetter first && !value.any Text.isBlank then some ⟨name, value⟩ else none
    | _, _ => none
  | _ => none

/-- The escape character of a file without a directive for it. -/
def defaultEscape : Text := "\\"

/-- The escape character that a directive chooses, if it does choose one: its name is `escape` in
any letter case and its value a backslash or a backtick. -/
def Directive.escape? (directive : Directive) : Option Text :=
  let known : List Text := ["\\", "`"]
  let word : Text := "escape"
  if directive.name.map Text.asciiLower = word && known.contains directive.value then
    some directive.value
  else none

/-- The directives at the start of a file. -/
def directives : List Text → List Directive
  | [] => []
  | line :: lines =>
    match Directive.ofLine? line with
    | none => []
    | some directive => directive :: directives lines

/-- The escape character of a file: that of the first directive that chooses one. -/
def escapeOf (lines : List Text) : Text :=
  ((directives lines).findSome? Directive.escape?).getD defaultEscape

end DockCheck.Dockerfile
