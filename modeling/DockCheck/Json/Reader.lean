import DockCheck.Data
import DockCheck.Decimal.Shortest
import DockCheck.Text.Numeral

/-!
# Reading JSON

`Json.read` reads a document as `Data`.  Every reader takes the text that is left and gives its
value and the text after it; a fault is placed by the number of characters that are left where it
stands.  Besides JSON proper, `NaN`, `Infinity` and `-Infinity` are read, and of several members of
an object under one key the last counts.
-/

namespace DockCheck.Json

/-- What is wrong at a place of a document. -/
inductive Problem where
  | byteOrderMark
  | value
  | extraData
  | propertyName
  | colon
  | comma
  | unterminatedString
  | controlCharacter
  | badEscape
  | badUnicodeEscape
  deriving DecidableEq, Repr

/-- The wording of a problem. -/
def Problem.message : Problem → Text
  | .byteOrderMark => "Unexpected UTF-8 BOM (decode using utf-8-sig)"
  | .value => "Expecting value"
  | .extraData => "Extra data"
  | .propertyName => "Expecting property name enclosed in double quotes"
  | .colon => "Expecting ':' delimiter"
  | .comma => "Expecting ',' delimiter"
  | .unterminatedString => "Unterminated string starting at"
  | .controlCharacter => "Invalid control character at"
  | .badEscape => "Invalid \\escape"
  | .badUnicodeEscape => "Invalid \\uXXXX escape"

/-- A value with others in it. -/
inductive Container where
  | object
  | array
  deriving DecidableEq, Repr

/-- The word for a container. -/
def Container.name : Container → Text
  | .object => "object"
  | .array => "array"

/-- Why a text is no JSON document. -/
inductive Fault where
  /-- Something is wrong where the given number of characters are left. -/
  | malformed (problem : Problem) (left : Nat)
  /-- An integer has too many digits. -/
  | numeral (fault : Text.NumeralFault)
  /-- Values are nested too deep. -/
  | tooDeep (container : Container)
  deriving DecidableEq, Repr

/-- The wording of a container that is nested too deep. -/
def Container.tooDeepMessage (container : Container) : Text :=
  "maximum recursion depth exceeded while decoding a JSON " ++ container.name
    ++ " from a unicode string"

/-- The wording of a place in a document: its line, its column and its offset. -/
def placeMessage (document : Text) (offset : Nat) : Text :=
  let before := document.take offset
  let column := (before.reverse.takeWhile (· != '\n')).length + 1
  "line " ++ Text.ofNat (before.count '\n' + 1) ++ " column " ++ Text.ofNat column
    ++ " (char " ++ Text.ofNat offset ++ ")"

/-- The wording of a fault of a document. -/
def Fault.message (document : Text) : Fault → Text
  | .malformed problem left =>
    problem.message ++ ": " ++ placeMessage document (document.length - left)
  | .numeral fault => fault.message
  | .tooDeep container => container.tooDeepMessage

/-- Stops with a problem at the start of the text that is left. -/
def failAt {α : Type} (problem : Problem) (left : Text) : Except Fault α :=
  .error (.malformed problem left.length)

/-- Is the character white space between the tokens of a document? -/
def isSpace (c : Char) : Bool := c == ' ' || c == '\t' || c == '\n' || c == '\r'

/-- A text without the white space at its start. -/
def skipSpace (t : Text) : Text := t.dropWhile isSpace

/-! ### Numbers -/

/-- The part of a number after its integer digits that makes it a decimal: the digits after the
point, the exponent, and the text after them.  A point or an `e` without digits is not part of the
number. -/
def readFraction (t : Text) : Text × Text :=
  match t with
  | '.' :: rest =>
    let digits := rest.takeWhile Text.isAsciiDigit
    if digits.isEmpty then ([], t) else (digits, rest.dropWhile Text.isAsciiDigit)
  | _ => ([], t)

/-- The exponent at the start of a text, if there is one, and the text after it. -/
def readExponent (t : Text) : Option Int × Text :=
  match t with
  | e :: rest =>
    if e == 'e' || e == 'E' then
      let (negative, rest) := Text.signed rest
      let digits := rest.takeWhile Text.isAsciiDigit
      if digits.isEmpty then (none, t)
      else
        let n : Int := Text.ofBaseDigits 10 (digits.filterMap Text.baseDigit?)
        (some (if negative then -n else n), rest.dropWhile Text.isAsciiDigit)
    else (none, t)
  | [] => (none, t)

/-- Reads a number that is not negative; `start` is the text from the sign on. -/
def readNumber (negative : Bool) (start t : Text) : Except Fault (Data × Text) :=
  let found : Option (Text × Text) := match t with
    | '0' :: rest => some (['0'], rest)
    | _ =>
      let digits := t.takeWhile Text.isAsciiDigit
      if digits.isEmpty then none else some (digits, t.dropWhile Text.isAsciiDigit)
  match found with
  | none => failAt .value start
  | some (whole, rest) =>
    let (fraction, rest) := readFraction rest
    let (exponent, rest) := readExponent rest
    let significand := Text.ofBaseDigits 10 ((whole ++ fraction).filterMap Text.baseDigit?)
    if fraction.isEmpty && exponent.isNone then
      if Text.digitLimit < whole.length then .error (.numeral (.tooManyDigits whole.length))
      else .ok (.int (if negative then -(significand : Int) else significand), rest)
    else
      let place := exponent.getD 0 - fraction.length
      .ok (.float (Decimal.shortest negative significand place), rest)

/-! ### Strings -/

/-- The character that a letter behind a backslash stands for. -/
def escaped? : Char → Option Char
  | '"' => some '"'
  | '\\' => some '\\'
  | '/' => some '/'
  | 'b' => some '\x08'
  | 'f' => some '\x0c'
  | 'n' => some '\n'
  | 'r' => some '\r'
  | 't' => some '\t'
  | _ => none

/-- The number that four hexadecimal digits give. -/
def hexCode? (digits : Text) : Option Nat :=
  let values := digits.filterMap Text.baseDigit?
  if digits.length = 4 && digits.all isHexDigit then some (Text.ofBaseDigits 16 values) else none
where
  /-- Is the character a hexadecimal digit? -/
  isHexDigit (c : Char) : Bool :=
    Text.isAsciiDigit c || ('a' ≤ c && c ≤ 'f') || ('A' ≤ c && c ≤ 'F')

/-- The second half of a pair of escapes for one character, at the start of a text that goes on
after it: its code, and the text after it. -/
def secondHalf? (t : Text) : Option (Except Unit Nat × Text) :=
  match t with
  | '\\' :: 'u' :: rest =>
    if (rest.drop 4).isEmpty then none
    else match hexCode? (rest.take 4) with
      | none => some (.error (), rest)
      | some code => some (.ok code, rest.drop 4)
  | _ => none

/-- Reads a string after its opening quote; `start` is the text from that quote on, and `fuel` at
least the number of characters. -/
def readString (start : Text) : (fuel : Nat) → Text → Except Fault (Text × Text)
  | 0, _ => failAt .unterminatedString start
  | _, [] => failAt .unterminatedString start
  | _ + 1, '"' :: rest => .ok ([], rest)
  | _ + 1, ['\\'] => failAt .unterminatedString start
  | fuel + 1, '\\' :: 'u' :: rest =>
    if (rest.drop 4).isEmpty then failAt .badUnicodeEscape ('u' :: rest)
    else match hexCode? (rest.take 4) with
      | none => failAt .badUnicodeEscape ('u' :: rest)
      | some code =>
        let after := rest.drop 4
        let continueWith (n : Nat) (after : Text) : Except Fault (Text × Text) := do
          let (t, left) ← readString start fuel after
          return (Char.ofNat n :: t, left)
        if 0xD800 ≤ code && code ≤ 0xDBFF then
          match secondHalf? after with
          | some (.error (), left) => failAt .badUnicodeEscape ('u' :: left)
          | some (.ok low, left) =>
            if 0xDC00 ≤ low && low ≤ 0xDFFF then
              continueWith (0x10000 + (code - 0xD800) * 1024 + (low - 0xDC00)) left
            else continueWith 0xFFFD after
          | none => continueWith 0xFFFD after
        else if 0xDC00 ≤ code && code ≤ 0xDFFF then continueWith 0xFFFD after
        else continueWith code after
  | fuel + 1, '\\' :: c :: rest =>
    match escaped? c with
    | none => failAt .badEscape ('\\' :: c :: rest)
    | some d => do
      let (t, left) ← readString start fuel rest
      return (d :: t, left)
  | fuel + 1, c :: rest =>
    if c.toNat < 0x20 then failAt .controlCharacter (c :: rest)
    else do
      let (t, left) ← readString start fuel rest
      return (c :: t, left)

/-! ### Values -/

/-- The words that are values. -/
def words : List (Text × Data) := [
  ("null", .null), ("true", .bool true), ("false", .bool false), ("NaN", .float "nan"),
  ("Infinity", .float "inf"), ("-Infinity", .float "-inf")]

/-- The word at the start of a text, if there is one, and the text after it. -/
def readWord? (t : Text) : Option (Data × Text) :=
  words.findSome? fun (word, value) =>
    if Text.startsWith t word then some (value, t.drop word.length) else none

/-- The number of containers that may be nested. -/
def nestingLimit : Nat := 985

mutual

/-- Reads a value.  `fuel` is more than twice the number of characters, as it is in the other
readers below: between two calls a character is read, or a list of items turns to its first.
`room` is the number of containers that may still be nested. -/
def readValue : (fuel room : Nat) → Text → Except Fault (Data × Text)
  | 0, _, t => failAt .value t
  | fuel + 1, room, t =>
    match t, room with
    | [], _ => failAt .value t
    | '"' :: rest, _ => do
      let (word, left) ← readString t (rest.length + 1) rest
      return (.text word, left)
    | '\x7b' :: _, 0 => .error (.tooDeep .object)
    | '\x7b' :: rest, room + 1 =>
      match skipSpace rest with
      | '\x7d' :: left => .ok (.table [], left)
      | left => do
        let (entries, left) ← readMembers fuel room [] left
        return (.table entries, left)
    | '[' :: _, 0 => .error (.tooDeep .array)
    | '[' :: rest, room + 1 =>
      match skipSpace rest with
      | ']' :: left => .ok (.list [], left)
      | left => do
        let (items, left) ← readItems fuel room left
        return (.list items, left)
    | c :: rest, _ =>
      match readWord? t with
      | some found => .ok found
      | none => if c == '-' then readNumber true t rest else readNumber false t t

/-- Reads the members of an object and its closing brace.  The members before them come in
`entries`. -/
def readMembers : (fuel room : Nat) → (entries : List (Text × Data)) → Text →
    Except Fault (List (Text × Data) × Text)
  | 0, _, _, t => failAt .propertyName t
  | fuel + 1, room, entries, t =>
    match t with
    | '"' :: rest => do
      let (key, left) ← readString t (rest.length + 1) rest
      match skipSpace left with
      | ':' :: left =>
        let (value, left) ← readValue fuel room (skipSpace left)
        let entries := putEntry key value entries
        match skipSpace left with
        | '\x7d' :: left => return (entries, left)
        | ',' :: left => readMembers fuel room entries (skipSpace left)
        | left => failAt .comma left
      | left => failAt .colon left
    | _ => failAt .propertyName t

/-- Reads the items of an array and its closing bracket. -/
def readItems : (fuel room : Nat) → Text → Except Fault (List Data × Text)
  | 0, _, t => failAt .value t
  | fuel + 1, room, t => do
    let (item, left) ← readValue fuel room t
    match skipSpace left with
    | ']' :: left => return ([item], left)
    | ',' :: left =>
      let (items, left) ← readItems fuel room (skipSpace left)
      return (item :: items, left)
    | left => failAt .comma left

end

/-- Reads a document. -/
def read (document : Text) : Except Fault Data :=
  if document.head? = some '\ufeff' then failAt .byteOrderMark document
  else do
    let (value, left) ← readValue (2 * document.length + 2) nestingLimit (skipSpace document)
    match skipSpace left with
    | [] => return value
    | left => failAt .extraData left

end DockCheck.Json
