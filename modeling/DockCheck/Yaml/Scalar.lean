import DockCheck.Data
import DockCheck.Text.FinalSigma
import DockCheck.Yaml.Tag

/-!
# Values of YAML scalars

`scalarData` gives the value of a scalar from its tag and its content, or the fault if the content
does not fit the tag.
-/

namespace DockCheck.Yaml

/-- The content of a number without the low lines in it. -/
def withoutLines (content : Text) : Text := content.filter (· != '_')

/-- The integer that a numeral in a base stands for. -/
def integer (base : Nat) (t : Text) : Except Fault Int := (Text.toInt base t).mapError .numeral

/-- The number to the base of sixty with the given parts. -/
def sexagesimal (parts : List Int) : Int := parts.foldl (fun n part => n * 60 + part) 0

/-- An integer. -/
def intOf (content : Text) : Except Fault Int :=
  let t := withoutLines content
  let (negative, numeral) := Text.signed t
  let signed (n : Int) : Int := if negative then -n else n
  match t, numeral with
  | [], _ => .error .emptyNumber
  | _, ['0'] => .ok 0
  | _, '0' :: 'b' :: digits => (integer 2 digits).map signed
  | _, '0' :: 'x' :: digits => (integer 16 digits).map signed
  | _, [] => .error .emptyNumber
  | _, '0' :: digits => (integer 8 ('0' :: digits)).map signed
  | _, _ =>
    if numeral.contains ':' then do
      return signed (sexagesimal (← (Text.fields ':' numeral).mapM (integer 10)))
    else (integer 10 numeral).map signed

/-- The fault of a text that is to be a decimal number, if it has one. -/
def checkDecimal (t : Text) : Except Fault Unit :=
  if Text.isDecimal t then .ok () else .error (.numeral (.malformedDecimal t))

/-- The fault of a decimal number, if it has one. -/
def checkFloat (content : Text) : Except Fault Unit :=
  let names : List Text := [".inf", ".nan"]
  let t := Text.lower (withoutLines content)
  let numeral := (Text.signed t).2
  if t.isEmpty then .error .emptyNumber
  else if names.contains numeral then .ok ()
  else if numeral.contains ':' then (Text.fields ':' numeral).forM checkDecimal
  else checkDecimal numeral

/-- A truth value. -/
def boolOf (content : Text) : Except Fault Bool :=
  let name := Text.lower content
  match Tag.truthNames.lookup name with
  | some b => .ok b
  | none => .error (.truthValue name)

/-- The fault of a date, if it has one. -/
def checkTimestamp (content : Text) : Except Fault Unit :=
  match Timestamp.ofText? content with
  | none => .error .noDate
  | some stamp =>
    match stamp.problem? with
    | some problem => .error (.date problem)
    | none => .ok ()

/-! ### Binary data -/

/-- The value of a character of the alphabet for binary data. -/
def sextet? (c : Char) : Option Nat :=
  if 'A' ≤ c && c ≤ 'Z' then some (c.toNat - 65)
  else if 'a' ≤ c && c ≤ 'z' then some (c.toNat - 71)
  else if Text.isAsciiDigit c then some (c.toNat + 4)
  else if c == '+' then some 62
  else if c == '/' then some 63
  else none

/-- The sextets of a text up to its padding, and whether the last group of four is whole with that.
`count` sextets and `pads` characters of padding came before in the current group.  Other
characters do not count. -/
def sextets (count pads : Nat) : Text → List Nat × Bool
  | [] => ([], count == 0)
  | c :: rest =>
    if c == '=' then
      if 2 ≤ count && 4 ≤ count + pads + 1 then ([], true) else sextets count (pads + 1) rest
    else
      match sextet? c with
      | none => sextets count pads rest
      | some n =>
        let (others, whole) := sextets ((count + 1) % 4) 0 rest
        (n :: others, whole)

/-- The bytes of sextets. -/
def bytesOfSextets : List Nat → List UInt8
  | a :: b :: c :: d :: rest =>
    UInt8.ofNat (a * 4 + b / 16) :: UInt8.ofNat (b * 16 + c / 4) :: UInt8.ofNat (c * 64 + d)
      :: bytesOfSextets rest
  | [a, b, c] => [UInt8.ofNat (a * 4 + b / 16), UInt8.ofNat (b * 16 + c / 4)]
  | [a, b] => [UInt8.ofNat (a * 4 + b / 16)]
  | _ => []

/-- Binary data. -/
def bytesOf (content : Text) : Except Fault (List UInt8) :=
  let (found, whole) := sextets 0 0 content
  if content.all (·.toNat < 128) && whole then .ok (bytesOfSextets found) else .error .malformed

/-! ### Scalars -/

/-- The value of a scalar. -/
def scalarData (tag : Tag) (content : Text) : Except Fault Data :=
  match tag with
  | .null => .ok .null
  | .bool => (boolOf content).map .bool
  | .int => (intOf content).map .int
  | .float => (checkFloat content).map fun _ => .other content
  | .binary => (bytesOf content).map .bytes
  | .timestamp => (checkTimestamp content).map fun _ => .other content
  | .text => .ok (.text content)
  | _ => .error .malformed

end DockCheck.Yaml
