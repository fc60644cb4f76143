import DockCheck.Json.Printer
import DockCheck.Report
import DockCheck.Text.Columns

/-!
# Reports on a terminal

`Report.plain` writes a report for a reader and `Report.json` writes it for a program.

A line of the plain form goes through the conventions of a terminal.  The line is cut at its tags,
such as `[b]`, which are shown as they stand.  In each piece a backslash before an opening bracket
is dropped and the code of a symbol, such as `:gear:`, becomes the symbol.  Control characters that
would move the cursor are dropped, and a tab goes to the next multiple of eight columns.
-/

namespace DockCheck

namespace Console

/-! ### Tags -/

/-- May the character come first in a tag? -/
def opensTag (c : Char) : Bool := ('a' ≤ c && c ≤ 'z') || c == '#' || c == '/' || c == '@'

/-- The text up to the first closing bracket, that bracket included, and the text after it, if
there is no opening bracket before. -/
def upToBracket : Text → Option (Text × Text)
  | [] => none
  | c :: rest =>
    if c == ']' then some ([c], rest)
    else if c == '[' then none
    else (upToBracket rest).map fun (inner, after) => (c :: inner, after)

/-- The tag at the start of a text, and the text after it. -/
def tag? : Text → Option (Text × Text)
  | '[' :: c :: rest =>
    if opensTag c then (upToBracket rest).map fun (inner, after) => ('[' :: c :: inner, after)
    else none
  | _ => none

/-- Does a tag follow after the backslashes at the start of a text? -/
def tagFollows (t : Text) : Bool := (tag? (t.dropWhile (· == '\\'))).isSome

/-- The pieces of a text: its tags, the backslashes in front of a tag, and what lies between.
`piece` is what lies before the text since the latest tag, with the last character first; `left` is
the number of characters of the current tag that are still to come. -/
def piecesFrom (piece : Text) : (left : Nat) → Text → List Text
  | _, [] => [piece.reverse]
  | n + 1, c :: rest =>
    if n = 0 then (c :: piece).reverse :: piecesFrom [] 0 rest
    else piecesFrom (c :: piece) n rest
  | 0, c :: rest =>
    match tag? (c :: rest) with
    | some (tag, _) => piece.reverse :: piecesFrom [c] (tag.length - 1) rest
    | none =>
      if c == '\\' && tagFollows rest && piece.head? != some '\\' then
        piece.reverse :: piecesFrom [c] 0 rest
      else piecesFrom (c :: piece) 0 rest

/-- The pieces of a text. -/
def pieces (t : Text) : List Text := piecesFrom [] 0 t

/-- A text with every backslash before an opening bracket dropped. -/
def dropBracketEscapes : Text → Text
  | [] => []
  | '\\' :: '[' :: rest => '[' :: dropBracketEscapes rest
  | c :: rest => c :: dropBracketEscapes rest

/-! ### Symbols -/

/-- The symbols with a code, by its name in lower case. -/
def symbols : List (Text × Text) := [("gear", "⚙"), ("whale", "🐳")]

/-- The two forms of a symbol that its code may ask for, and the character that selects each. -/
def forms : List (Text × Char) := [("-emoji:", '\ufe0f'), ("-text:", '\ufe0e')]

/-- Reads a code after its opening colon: its name, what selects the form, and the text after the
closing colon.  There is no white space in a code. -/
def code? (name : Text) : Text → Option (Text × Text × Text)
  | [] => none
  | c :: rest =>
    match forms.find? fun form => Text.startsWith (c :: rest) form.1 with
    | some (mark, selector) => some (name.reverse, [selector], (c :: rest).drop mark.length)
    | none =>
      if c == ':' then some (name.reverse, [], rest)
      else if Text.isBlank c then none
      else code? (c :: name) rest

/-- A text with the codes of the known symbols replaced.  Unknown codes stay.  `fuel` is at least the
number of characters. -/
def replaceCodes (known : List (Text × Text)) : (fuel : Nat) → Text → Text
  | 0, t => t
  | _, [] => []
  | fuel + 1, c :: rest =>
    if c == ':' then
      match code? [] rest with
      | some (name, selector, after) =>
        let length := rest.length - after.length
        (match known.lookup (name.map Text.asciiLower) with
          | some symbol => symbol ++ selector
          | none => c :: rest.take length) ++ replaceCodes known fuel after
      | none => c :: replaceCodes known fuel rest
    else c :: replaceCodes known fuel rest

/-! ### Layout -/

/-- Does the character move the cursor back, to another line or page, or ring the bell? -/
def isDropped (c : Char) : Bool :=
  c == '\x07' || c == '\x08' || c == '\x0b' || c == '\x0c' || c == '\r'

/-- The parts of a line between its tabs, with the tabs expanded.  The first part begins at the
given column.  A tab takes at least one column. -/
def expandParts (column : Nat) : List Text → Text
  | [] => []
  | [part] => part
  | part :: parts =>
    let padded := part ++ [' ']
    let reached := column + Text.width padded
    let fill := (8 - reached % 8) % 8
    padded ++ List.replicate fill ' ' ++ expandParts (reached + fill) parts

/-- A text with its tabs expanded. -/
def expandTabs (t : Text) : Text :=
  Text.join ['\n'] ((Text.fields '\n' t).map fun line => expandParts 0 (Text.fields '\t' line))

/-- A value as it goes into a line: a single backslash at its end is doubled. -/
def value (t : Text) : Text :=
  let single : Text := "\\"
  let double : Text := "\\\\"
  if Text.endsWith t single && !Text.endsWith t double then t ++ single else t

/-- A line as a terminal shows it that knows the given symbols. -/
def line (known : List (Text × Text)) (t : Text) : Text :=
  let shown := (pieces t).flatMap fun piece =>
    let plain := dropBracketEscapes piece
    replaceCodes known plain.length plain
  expandTabs (shown.filter fun c => !isDropped c) ++ "\n"

end Console

namespace Report

/-- The word for a verdict. -/
def verdict (valid : Bool) : Text := if valid then "✅ Valid" else "❌ Invalid"

/-- The lines about a tool that is mentioned. -/
def toolLines (result : ToolResult) : List Text := [
  "  " ++ Console.value result.name ++ ":",
  "    Status: " ++ verdict result.isValid,
  "    Version: " ++ Console.value (result.version?.getD []),
  "    Details: " ++ Console.value result.message]

/-- The lines of a report. -/
def lines (report : Report) : List Text :=
  let head : List Text := [
    "\n=== Dockerfile Validation Results ===\n",
    "Base Image:",
    "  Status: " ++ verdict report.baseImage.valid,
    "  Details: " ++ Console.value report.baseImage.message,
    "",
    "Tools:"]
  let none : List Text := if report.found.isEmpty then ["  No tracked tools found"] else []
  let summary : Text :=
    "\nSummary: " ++ Text.ofNat report.validFoundCount ++ "/" ++ Text.ofNat report.found.length
      ++ " detected tools valid"
  head ++ none ++ report.found.flatMap toolLines ++ [summary]

/-- A report for a reader, on a terminal that knows the given symbols. -/
def plainWith (known : List (Text × Text)) (report : Report) : Text :=
  report.lines.flatMap (Console.line known)

/-- A report for a reader. -/
def plain (report : Report) : Text := report.plainWith Console.symbols

/-- A report for a program. -/
def json (report : Report) : Text := Json.pretty report.toData ++ "\n"

end Report

end DockCheck
