import DockCheck.Text.Lines
import DockCheck.Text.Utf8

/-!
# Texts that are read as they are needed

Not every reader needs a text as a whole.  A `Text.Stream` is a text in the pieces in which it is
read, the first of two blocks and every other of one.  The bytes are decoded in portions, and a
portion is decoded when a block needs it: what is faulty there spoils the piece with that block and
all after it, but none before.  `Stream.ofBytes` gives the stream of bytes, with line ends made line
feeds.
-/

namespace DockCheck

/-- A text in pieces, and what is wrong with the bytes of the piece after them, if there is one that
cannot be read. -/
structure Text.Stream where
  pieces : List Text
  fault : Option Utf8.Fault
  deriving DecidableEq, Repr

namespace Text.Stream

/-- The number of characters in a block. -/
def blockSize : Nat := 4096

/-- The least number of bytes that are decoded at a time. -/
def portionSize : Nat := 8192

/-- The number of bytes to decode next, after `count` characters of which the latest portion gave
`found` for `size` bytes: enough to fill the block if the characters go on to be as long. -/
def nextSize (size found count : Nat) : Nat :=
  max portionSize (size * (blockSize - count % blockSize) / found)

/-- A text as far as it is known with its line ends made line feeds, and whether a carriage return
at its end is held back, since a line feed may follow.  `held` says this of the text before. -/
def settleLines (held : Bool) (t : Text) : Text × Bool :=
  match t with
  | [] => ([], held)
  | _ =>
    let whole := if held then '\r' :: t else t
    if whole.getLast? == some '\r' then (newlines whole.dropLast, true)
    else (newlines whole, false)

/-- Decodes bytes in portions, the first of the given size, as far as there is no fault.  Before
them came `count` characters, perhaps a carriage return that is held back, and the beginning of a
character. -/
def decode : (fuel : Nat) → (part : Option Utf8.Partial) → (held : Bool) → (count size : Nat) →
    (bytes : List UInt8) → Text × Option Utf8.Fault
  | 0, _, _, _, _, _ => ([], none)
  | fuel + 1, part, held, count, size, bytes =>
    match bytes, part with
    | [], none => (if held then ['\n'] else [], none)
    | [], some part => ([], some (part.carried.fault .truncated))
    | bytes, part =>
      match Utf8.decodePortion part (bytes.take size) with
      | .error fault => ([], some fault)
      | .ok (t, part) =>
        let (ready, held) := settleLines held t
        let count := count + ready.length
        let (rest, fault) :=
          decode fuel part held count (nextSize size ready.length count) (bytes.drop size)
        (ready ++ rest, fault)

/-- The blocks of a text. -/
def blocks : (fuel : Nat) → Text → List Text
  | 0, _ => []
  | _ + 1, [] => []
  | fuel + 1, t => t.take blockSize :: blocks fuel (t.drop blockSize)

/-- The pieces of a text. -/
def piecesOf (t : Text) : List Text :=
  t.take (2 * blockSize) :: blocks t.length (t.drop (2 * blockSize))

/-- The pieces of a text with nothing known after it: those that are complete. -/
def completePieces (t : Text) : List Text :=
  let complete := t.length / blockSize
  if complete < 2 then [] else piecesOf (t.take (complete * blockSize))

/-- The stream of bytes. -/
def ofBytes (bytes : List UInt8) : Stream :=
  match decode (bytes.length + 2) none false 0 portionSize bytes with
  | (t, none) => ⟨piecesOf t, none⟩
  | (t, some fault) => ⟨completePieces t, some fault⟩

/-- The stream of a text that is there as a whole. -/
def ofText (t : Text) : Stream := ⟨[t], none⟩

end Text.Stream

end DockCheck
