import DockCheck.Text.Blank
import DockCheck.Text.LetterCase
import DockCheck.Text.Letters
import DockCheck.Text.Quoted

/-!
# Numerals

Texts that are read as numbers: integers in a base (`toInt`), and decimals (`isDecimal`).  White
space around a numeral does not matter, and the decimal digits of every script count.  A numeral
in a base that is no power of two has at most `digitLimit` digits.
-/

namespace DockCheck.Text

/-- White space that may surround a numeral: all but the information separators. -/
def isNumeralSpace (c : Char) : Bool := isBlank c && !(28 ≤ c.toNat && c.toNat ≤ 31)

/-- A text without the white space that may surround a numeral. -/
def stripNumeral (t : Text) : Text :=
  ((t.dropWhile isNumeralSpace).reverse.dropWhile isNumeralSpace).reverse

/-- The value of a digit or letter as a digit of a base up to 36. -/
def baseDigit? (c : Char) : Option Nat :=
  if 'a' ≤ c && c ≤ 'z' then some (c.toNat - 87)
  else if 'A' ≤ c && c ≤ 'Z' then some (c.toNat - 55)
  else digitValue? c

/-- The digits of a base at the start of a text, most significant first, and the text after them.
Between two digits, or before the first with `inner`, there may be one low line. -/
def baseDigits (base : Nat) : (inner : Bool) → Text → List Nat × Text
  | _, [] => ([], [])
  | inner, c :: rest =>
    match baseDigit? c with
    | none =>
      if c == '_' && inner then
        match baseDigits base false rest with
        | ([], _) => ([], c :: rest)
        | found => found
      else ([], c :: rest)
    | some digit =>
      if digit < base then
        let (digits, rest) := baseDigits base true rest
        (digit :: digits, rest)
      else ([], c :: rest)

/-- The number with the given digits. -/
def ofBaseDigits (base : Nat) (digits : List Nat) : Nat :=
  digits.foldl (fun n digit => n * base + digit) 0

/-- Does the numeral begin with a minus sign, and what follows its sign? -/
def signed : Text → Bool × Text
  | '-' :: rest => (true, rest)
  | '+' :: rest => (false, rest)
  | t => (false, t)

/-- A numeral without the mark that may announce its base: `0b`, `0o` or `0x`. -/
def withoutBaseMark (base : Nat) : Text → Text
  | '0' :: mark :: rest =>
    let announced :=
      (base = 2 && (mark == 'b' || mark == 'B')) || (base = 8 && (mark == 'o' || mark == 'O'))
        || (base = 16 && (mark == 'x' || mark == 'X'))
    if announced then rest else '0' :: mark :: rest
  | t => t

/-- Why a text is no numeral. -/
inductive NumeralFault where
  /-- The text does not have the form of an integer in the base. -/
  | malformedInteger (base : Nat) (t : Text)
  /-- The text does not have the form of a decimal. -/
  | malformedDecimal (t : Text)
  /-- There are too many digits. -/
  | tooManyDigits (count : Nat)
  deriving DecidableEq, Repr

/-- The largest number of digits of an integer in a base that is no power of two. -/
def digitLimit : Nat := 4300

/-- The wording of a fault.  Of a long text that is no integer, only the start is shown. -/
def NumeralFault.message : NumeralFault → Text
  | .malformedInteger base t =>
    "invalid literal for int() with base " ++ ofNat base ++ ": " ++ (quoted t).take 200
  | .malformedDecimal t => "could not convert string to float: " ++ quoted t
  | .tooManyDigits count =>
    "Exceeds the limit (" ++ ofNat digitLimit
      ++ " digits) for integer string conversion: value has " ++ ofNat count
      ++ " digits; use sys.set_int_max_str_digits() to increase the limit"

/-- The integer that a numeral in a base stands for. -/
def toInt (base : Nat) (t : Text) : Except NumeralFault Int :=
  let (negative, numeral) := signed (stripNumeral t)
  let (digits, rest) := baseDigits base false (withoutBaseMark base numeral)
  if base = 10 && digitLimit < digits.length then .error (.tooManyDigits digits.length)
  else if digits.isEmpty || !rest.isEmpty then .error (.malformedInteger base t)
  else
    let n : Int := ofBaseDigits base digits
    .ok (if negative then -n else n)

/-- Is the text a nonempty run of decimal digits? -/
def isDigits (t : Text) : Bool := !t.isEmpty && t.all isDigit

/-- Is the text the part of a decimal numeral after the `e`? -/
def isExponent (t : Text) : Bool := isDigits (signed t).2

/-- Is the text a decimal numeral: digits with at most one point among them, perhaps with an
exponent, or a name of infinity or of the value that is no number? -/
def isDecimal (t : Text) : Bool :=
  let numeral := (signed (stripNumeral t)).2
  let lower := numeral.map asciiLower
  if lower == "inf" || lower == "infinity" || lower == "nan" then true
  else
    let whole := numeral.takeWhile isDigit
    let (fraction, rest) : Text × Text := match numeral.dropWhile isDigit with
      | '.' :: rest => (rest.takeWhile isDigit, rest.dropWhile isDigit)
      | rest => ([], rest)
    (!whole.isEmpty || !fraction.isEmpty) && match rest with
      | [] => true
      | 'e' :: exponent => isExponent exponent
      | 'E' :: exponent => isExponent exponent
      | _ => false

end DockCheck.Text
