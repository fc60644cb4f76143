import DockCheck.Text

/-!
# UTF-8

`Utf8.encode` gives the bytes of a text and `Utf8.decode` reads them back.  Decoding accepts the
well-formed sequences alone: no overlong form, no surrogate and nothing above U+10FFFF.  A fault
names the longest run of bytes that began like a character and could not be one.  Bytes that come
in portions are decoded one portion after the other (`Utf8.decodePortion`).
-/

namespace DockCheck.Utf8

/-- The bytes of a text. -/
def encode (t : Text) : List UInt8 := t.flatMap String.utf8EncodeChar

/-- Why a run of bytes is not a character. -/
inductive Problem where
  /-- No character begins with this byte. -/
  | start
  /-- A later byte of the character was expected. -/
  | continuation
  /-- The data end within a character. -/
  | truncated
  deriving DecidableEq, Repr

/-- Bytes that are not a text: the offset of the first faulty byte, that byte, the number of
faulty bytes, and what is wrong with them. -/
structure Fault where
  offset : Nat
  byte : UInt8
  size : Nat
  problem : Problem
  deriving DecidableEq, Repr

/-- The wording of a problem. -/
def Problem.message : Problem → Text
  | .start => "invalid start byte"
  | .continuation => "invalid continuation byte"
  | .truncated => "unexpected end of data"

/-- The wording of a fault.  A single byte is shown, of several only the offsets of the first and
the last are. -/
def Fault.message (fault : Fault) : Text :=
  let place : Text :=
    if fault.size = 1 then
      "byte 0x" ++ Text.hex 2 fault.byte.toNat ++ " in position " ++ Text.ofNat fault.offset
    else
      "bytes in position " ++ Text.ofNat fault.offset ++ "-"
        ++ Text.ofNat (fault.offset + fault.size - 1)
  "'utf-8' codec can't decode " ++ place ++ ": " ++ fault.problem.message

/-- What a first byte announces: the bits that it contributes, and for each byte that has to
follow the values that it may have. -/
def announced (byte : UInt8) : Option (Nat × List (UInt8 × UInt8)) :=
  let n := byte.toNat
  let any : UInt8 × UInt8 := (0x80, 0xBF)
  if n < 0x80 then some (n, [])
  else if n < 0xC2 then none
  else if n < 0xE0 then some (n - 0xC0, [any])
  else if n < 0xF0 then
    some (n - 0xE0,
      [if n = 0xE0 then (0xA0, 0xBF) else if n = 0xED then (0x80, 0x9F) else any, any])
  else if n < 0xF5 then
    some (n - 0xF0,
      [if n = 0xF0 then (0x90, 0xBF) else if n = 0xF4 then (0x80, 0x8F) else any, any, any])
  else none

/-- A character that has begun: the offset of its first byte, that byte, the number of its bytes
so far, their bits, and the values that each further byte may have. -/
structure Partial where
  offset : Nat
  first : UInt8
  size : Nat
  bits : Nat
  awaited : List (UInt8 × UInt8)
  deriving DecidableEq, Repr

/-- The fault of a character that has begun and does not go on. -/
def Partial.fault (part : Partial) (problem : Problem) : Fault :=
  ⟨part.offset, part.first, part.size, problem⟩

/-- Decodes bytes, the first of which has the given offset, after a character that may have begun:
the text, and the character that has begun at the end. -/
def decodeFrom : (offset : Nat) → Option Partial → List UInt8 →
    Except Fault (Text × Option Partial)
  | _, part, [] => .ok ([], part)
  | offset, none, byte :: bytes =>
    match announced byte with
    | none => .error ⟨offset, byte, 1, .start⟩
    | some (bits, []) =>
      (decodeFrom (offset + 1) none bytes).map fun (t, part) => (Char.ofNat bits :: t, part)
    | some (bits, awaited) =>
      decodeFrom (offset + 1) (some ⟨offset, byte, 1, bits, awaited⟩) bytes
  | offset, some part, byte :: bytes =>
    match part.awaited with
    | [] => .error (part.fault .continuation)
    | (low, high) :: awaited =>
      if low ≤ byte && byte ≤ high then
        let bits := part.bits * 64 + (byte.toNat - 0x80)
        if awaited.isEmpty then
          (decodeFrom (offset + 1) none bytes).map fun (t, part) => (Char.ofNat bits :: t, part)
        else
          decodeFrom (offset + 1)
            (some { part with size := part.size + 1, bits := bits, awaited := awaited }) bytes
      else .error (part.fault .continuation)

/-- The text whose bytes these are. -/
def decode (bytes : List UInt8) : Except Fault Text :=
  match decodeFrom 0 none bytes with
  | .ok (t, none) => .ok t
  | .ok (_, some part) => .error (part.fault .truncated)
  | .error fault => .error fault

/-- A character that has begun in an earlier portion of the bytes.  Its offset is that of the
beginning of the next portion, which it is taken to be a part of. -/
def Partial.carried (part : Partial) : Partial := { part with offset := 0 }

/-- Decodes a portion of a longer run of bytes, after a character that may have begun in the
portion before it. -/
def decodePortion (part : Option Partial) (bytes : List UInt8) :
    Except Fault (Text × Option Partial) :=
  decodeFrom ((part.map (·.size)).getD 0) (part.map Partial.carried) bytes

end DockCheck.Utf8
