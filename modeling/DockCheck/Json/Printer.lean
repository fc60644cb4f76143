import DockCheck.Data

/-!
# Writing JSON

`Json.pretty` writes a value over several lines with an indent of two columns for each level, and
`Json.compact` on one line.  Characters outside of ASCII stand for themselves; only quotes,
backslashes and control characters are escaped.
-/

namespace DockCheck.Json

/-- A character within a string. -/
def escapedChar (c : Char) : Text :=
  if c == '"' then "\\\""
  else if c == '\\' then "\\\\"
  else if c == '\n' then "\\n"
  else if c == '\r' then "\\r"
  else if c == '\t' then "\\t"
  else if c == '\x0c' then "\\f"
  else if c == '\x08' then "\\b"
  else if c.toNat < 0x20 then "\\u" ++ Text.hex 4 c.toNat
  else [c]

/-- A string. -/
def string (t : Text) : Text := '"' :: (t.flatMap escapedChar ++ ['"'])

/-- The text of a number that is no integer. -/
def decimal (shown : Text) : Text :=
  let names : List (Text × Text) := [("nan", "NaN"), ("inf", "Infinity"), ("-inf", "-Infinity")]
  (names.lookup shown).getD shown

/-- A line feed and the indent of a level. -/
def newLine (level : Nat) : Text := '\n' :: List.replicate (2 * level) ' '

/-- The separator after an item: a comma, and before the next item a blank or a new line. -/
def separator (level : Option Nat) : Text :=
  match level with
  | none => ", "
  | some n => ',' :: newLine n

/-- What stands between a bracket and the items within it. -/
def margin (level : Option Nat) : Text :=
  match level with
  | none => []
  | some n => newLine n

mutual

/-- A value.  The level is that of the line on which it begins; without one, all is on one line. -/
def write (level : Option Nat) : Data → Text
  | .null => "null"
  | .bool b => if b then "true" else "false"
  | .int n => Text.ofInt n
  | .float shown => decimal shown
  | .text t => string t
  | .list items => writeList level items
  | .bag items => writeList level items
  | .table [] => "\x7b\x7d"
  | .table (entry :: entries) =>
    let inner := level.map (· + 1)
    "\x7b" ++ margin inner ++ writeEntries inner (entry :: entries) ++ margin level ++ "\x7d"
  | .bytes _ => "null"
  | .other shown => string shown

/-- Values between brackets. -/
def writeList (level : Option Nat) : List Data → Text
  | [] => "[]"
  | item :: items =>
    let inner := level.map (· + 1)
    "[" ++ margin inner ++ writeItems inner (item :: items) ++ margin level ++ "]"

/-- Values with separators between them. -/
def writeItems (level : Option Nat) : List Data → Text
  | [] => []
  | [item] => write level item
  | item :: items => write level item ++ separator level ++ writeItems level items

/-- Keys and values with separators between them. -/
def writeEntries (level : Option Nat) : List (Text × Data) → Text
  | [] => []
  | [(key, value)] => string key ++ ": " ++ write level value
  | (key, value) :: entries =>
    string key ++ ": " ++ write level value ++ separator level ++ writeEntries level entries

end

/-- A value over several lines. -/
def pretty (value : Data) : Text := write (some 0) value

/-- A value on one line. -/
def compact (value : Data) : Text := write none value

end DockCheck.Json
