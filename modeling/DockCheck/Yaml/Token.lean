import DockCheck.Text.Numeral
import DockCheck.Text.Utf8

/-!
# Tokens of YAML

The tokens that a YAML document consists of, the ways in which a document can be faulty, and the
classes of characters that decide where a token ends.
-/

namespace DockCheck.Yaml

/-! ### Faults -/

/-- What is wrong with the text of a date. -/
inductive DateProblem where
  | year
  | month
  | day
  | hour
  | minute
  | second
  /-- An offset of a day or more, in seconds. -/
  | offset (seconds : Int)
  deriving DecidableEq, Repr

/-- Why a text gives no value. -/
inductive Fault where
  /-- The text is not well formed, or asks for something that has no meaning. -/
  | malformed
  /-- An escape gives the code of no character. -/
  | characterCode
  /-- An escape gives a code that is too large even for a number. -/
  | characterCodeTooLarge
  /-- A number is faulty. -/
  | numeral (fault : Text.NumeralFault)
  /-- A number is empty. -/
  | emptyNumber
  /-- A truth value has a name that none has. -/
  | truthValue (name : Text)
  /-- A date does not have the form of one. -/
  | noDate
  /-- There is no such date. -/
  | date (problem : DateProblem)
  /-- The bytes of the text cannot be decoded. -/
  | undecodable (fault : Utf8.Fault)
  deriving DecidableEq, Repr

/-- A length of time, in days and seconds. -/
def duration (seconds : Int) : Text :=
  let days := seconds / 86400
  let rest := seconds % 86400
  let parts : List Text :=
    (if days = 0 then [] else [("days=" : String).toList ++ Text.ofInt days])
      ++ (if rest = 0 then [] else [("seconds=" : String).toList ++ Text.ofInt rest])
  "datetime.timedelta(" ++ Text.join ", " parts ++ ")"

/-- The wording of what is wrong with a date. -/
def DateProblem.message : DateProblem → Text
  | .year => "year 0 is out of range"
  | .month => "month must be in 1..12"
  | .day => "day is out of range for month"
  | .hour => "hour must be in 0..23"
  | .minute => "minute must be in 0..59"
  | .second => "second must be in 0..59"
  | .offset seconds =>
    "offset must be a timedelta strictly between -timedelta(hours=24) and timedelta(hours=24), not "
      ++ duration seconds ++ "."

/-- The wording of a fault. -/
def Fault.message : Fault → Text
  | .malformed => "malformed document"
  | .characterCode => "chr() arg not in range(0x110000)"
  | .characterCodeTooLarge => "Python int too large to convert to C int"
  | .numeral fault => fault.message
  | .emptyNumber => "string index out of range"
  | .truthValue name => Text.quoted name
  | .noDate => "'NoneType' object has no attribute 'groupdict'"
  | .date problem => problem.message
  | .undecodable fault => fault.message

/-! ### Tokens -/

/-- What a directive says: the major version, the prefix of a tag handle, or something unknown. -/
inductive Directive where
  | version (major : Nat)
  | tag (handle start : Text)
  | unknown
  deriving DecidableEq, Repr

/-- A token of a document. -/
inductive Token where
  | directive (directive : Directive)
  | documentStart
  | documentEnd
  | streamEnd
  | blockSequenceStart
  | blockMappingStart
  | blockEnd
  | flowSequenceStart
  | flowSequenceEnd
  | flowMappingStart
  | flowMappingEnd
  | blockEntry
  | flowEntry
  | key
  | value
  | alias (name : Text)
  | anchor (name : Text)
  | tag (handle : Option Text) (suffix : Text)
  /-- A scalar; one that is plain stands in the document without quotes. -/
  | scalar (content : Text) (plain : Bool)
  deriving DecidableEq, Repr

/-! ### Characters -/

/-- May the character stand in a document? -/
def isAllowed (c : Char) : Bool :=
  let n := c.toNat
  n == 9 || n == 10 || n == 13 || (0x20 ≤ n && n ≤ 0x7E) || n == 0x85 || (0xA0 ≤ n && n ≤ 0xD7FF)
    || (0xE000 ≤ n && n ≤ 0xFFFD) || 0x10000 ≤ n

/-- Does the character end a line? -/
def isBreak (c : Char) : Bool :=
  c == '\n' || c == '\r' || c == '\x85' || c == '\u2028' || c == '\u2029'

/-- Is the character a blank or a tab? -/
def isSpace (c : Char) : Bool := c == ' ' || c == '\t'

/-- Does a line or the text end here? -/
def endsLine (c : Option Char) : Bool := c.all isBreak

/-- Does a word end here: with a blank, a line or the text? -/
def endsWord (c : Option Char) : Bool := c.all fun c => c == ' ' || isBreak c

/-- Does an indicator stand alone here: before white space, the end of a line or of the text? -/
def endsIndicator (c : Option Char) : Bool := c.all fun c => isSpace c || isBreak c

/-- May the character stand in the name of an anchor or of a directive? -/
def isNamePart (c : Char) : Bool :=
  Text.isAsciiLetter c || Text.isAsciiDigit c || c == '-' || c == '_'

/-- May the character stand in a tag? -/
def isTagPart (c : Char) : Bool :=
  Text.isAsciiLetter c || Text.isAsciiDigit c
    || ("-;/?:@&=+$,_.!~*'()[]%" : String).toList.contains c

/-- Is the character a hexadecimal digit? -/
def isHex (c : Char) : Bool :=
  Text.isAsciiDigit c || ('a' ≤ c && c ≤ 'f') || ('A' ≤ c && c ≤ 'F')

end DockCheck.Yaml
