import DockCheck.Yaml.Timestamp

/-!
# Tags of YAML nodes

A `Tag` says what a node stands for.  Most scalars have no tag of their own: `Tag.ofContent`
decides by the look of a scalar without quotes whether it is a number, a truth value, a date or
simply a text.
-/

namespace DockCheck.Yaml

/-- What a node stands for. -/
inductive Tag where
  | null
  | bool
  | int
  | float
  | binary
  | timestamp
  | orderedMap
  | pairs
  | set
  | text
  | sequence
  | mapping
  /-- The key under which a mapping takes over the entries of others. -/
  | merge
  /-- The key of the value that a mapping has as a whole. -/
  | value
  | unknown
  deriving DecidableEq, Repr

namespace Tag

/-- The start of the full names of tags. -/
def namespaceText : Text := "tag:yaml.org,2002:"

/-- The short names of tags. -/
def names : List (Text × Tag) := [
  ("null", .null), ("bool", .bool), ("int", .int), ("float", .float), ("binary", .binary),
  ("timestamp", .timestamp), ("omap", .orderedMap), ("pairs", .pairs), ("set", .set),
  ("str", .text), ("seq", .sequence), ("map", .mapping), ("merge", .merge), ("value", .value)]

/-- The tag with a full name. -/
def ofFullName (t : Text) : Tag :=
  if Text.startsWith t namespaceText then
    (names.lookup (t.drop namespaceText.length)).getD .unknown
  else .unknown

/-! ### The look of scalars -/

/-- The names of truth values. -/
def truthNames : List (Text × Bool) := [
  ("yes", true), ("no", false), ("true", true), ("false", false), ("on", true), ("off", false)]

/-- A text with its first letter in upper case. -/
def capitalized (t : Text) : Text :=
  match t with
  | [] => []
  | c :: rest => c.toUpper :: rest

/-- Is the text a lower case word, or that word with a capital or in capitals? -/
def isWordIn (word t : Text) : Bool :=
  t == word || t == capitalized word || t == word.map Char.toUpper

/-- Is the text a truth value? -/
def looksBool (t : Text) : Bool := truthNames.any fun entry => isWordIn entry.1 t

/-- Is the text a null? -/
def looksNull (t : Text) : Bool :=
  let word : Text := "null"
  t.isEmpty || t == ['~'] || isWordIn word t

/-- Is the text not empty, and does each of its characters pass a test? -/
def allAndSome (test : Char → Bool) (t : Text) : Bool := !t.isEmpty && t.all test

/-- Is the character a digit or the low line? -/
def isDigitOrLine (c : Char) : Bool := Text.isAsciiDigit c || c == '_'

/-- Is the text a digit and then digits and low lines? -/
def isNumber (t : Text) : Bool := t.head?.any Text.isAsciiDigit && t.all isDigitOrLine

/-- Is the text a number from 0 to 59 of one or two digits? -/
def isSixtieth : Text → Bool
  | [a] => Text.isAsciiDigit a
  | [a, b] => '0' ≤ a && a ≤ '5' && Text.isAsciiDigit b
  | _ => false

/-- Is the text an integer: binary, octal, decimal, hexadecimal, or to the base of sixty? -/
def looksInt (t : Text) : Bool :=
  match (Text.signed t).2 with
  | '0' :: 'b' :: rest => allAndSome (fun c => c == '0' || c == '1' || c == '_') rest
  | '0' :: 'x' :: rest => allAndSome (fun c => isHex c || c == '_') rest
  | '0' :: rest => rest.all fun c => ('0' ≤ c && c ≤ '7') || c == '_'
  | numeral =>
    match Text.fields ':' numeral with
    | [] => false
    | first :: others => isNumber first && others.all isSixtieth

/-- Is the text empty or an exponent with its sign? -/
def isExponentOrEmpty : Text → Bool
  | [] => true
  | e :: sign :: digits =>
    (e == 'e' || e == 'E') && (sign == '-' || sign == '+') && allAndSome Text.isAsciiDigit digits
  | _ => false

/-- Is the text a decimal number, to the base of ten or of sixty, or infinity or no number? -/
def looksFloat (t : Text) : Bool :=
  let infinities : List Text := [".inf", ".Inf", ".INF"]
  let notNumbers : List Text := [".nan", ".NaN", ".NAN"]
  let numeral := (Text.signed t).2
  let whole := numeral.takeWhile (· != '.')
  let fraction := (numeral.dropWhile (· != '.')).drop 1
  let exponent := fraction.dropWhile isDigitOrLine
  if !numeral.contains '.' then false
  else if infinities.contains numeral || notNumbers.contains t then true
  else if whole.isEmpty then
    !(t.head?.any fun c => c == '-' || c == '+')
      && isNumber (fraction.takeWhile isDigitOrLine) && isExponentOrEmpty exponent
  else
    match Text.fields ':' whole with
    | [_] => isNumber whole && isExponentOrEmpty exponent
    | first :: others => isNumber first && others.all isSixtieth && exponent.isEmpty
    | [] => false

/-- The tag of a scalar without quotes and without a tag of its own.  A line feed at its end does
not count. -/
def ofContent (content : Text) : Tag :=
  let t := if content.length > 1 && content.getLast? == some '\n' then content.dropLast else content
  if looksBool t then .bool
  else if looksFloat t then .float
  else if looksInt t then .int
  else if t == ['<', '<'] then .merge
  else if looksNull t then .null
  else if Timestamp.looksLike t then .timestamp
  else if t == ['='] then .value
  else if t == ['!'] || t == ['&'] || t == ['*'] then .unknown
  else .text

end Tag

end DockCheck.Yaml
