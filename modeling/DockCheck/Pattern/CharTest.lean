import DockCheck.Text.Blank
import DockCheck.Text.CaseVariants
import DockCheck.Text.Letters

/-!
# Tests of characters

What a pattern asks of a single character: to be a certain one, or to be in a set, each with a
treatment of letter case.  `CharTest.holds` says whether a character passes.

Where case does not count, the character is folded, that is brought to lower case, before it is
compared.  But a test of which no part has another case leaves the character as it is.
-/

namespace DockCheck.Pattern

/-- How letter case counts: fully, not at all among the ASCII letters, or not at all. -/
inductive Casing where
  | exact
  | ascii
  | unicode
  deriving DecidableEq, Repr

namespace Casing

/-- The lower case of a code point, as far as case does not count. -/
def fold : Casing → Nat → Nat
  | .exact, n => n
  | .ascii, n => Text.asciiLowerCode n
  | .unicode, n => Text.lowerCode n

/-- The code points in lower case that agree with the given one. -/
def variants : Casing → Nat → List Nat
  | .unicode, n => Text.smallVariants n
  | _, n => [n]

/-- The code points whose lower case is the given one. -/
def sources : Casing → Nat → List Nat
  | .exact, n => [n]
  | .ascii, n => [n, n - 32].filter fun m => Text.asciiLowerCode m == n
  | .unicode, n => Text.lowerSources n

/-- Has the code point another case that does not count? -/
def ignores : Casing → Nat → Bool
  | .exact, _ => false
  | .ascii, n => Text.isAsciiLetterCode n
  | .unicode, n => Text.hasCase n

/-- Is there a code point with another case that does not count among those from `low` to
`high`? -/
def ignoresBetween : Casing → (low high : Nat) → Bool
  | .exact, _, _ => false
  | .ascii, low, high => (low ≤ 90 && 65 ≤ high) || (low ≤ 122 && 97 ≤ high)
  | .unicode, low, high => Text.hasCaseBetween low high

/-- Do the characters of two texts have the same lower case one by one? -/
def agree (casing : Casing) : Text → Text → Bool
  | [], [] => true
  | c :: t, d :: u => casing.fold c.toNat == casing.fold d.toNat && agree casing t u
  | _, _ => false

end Casing

/-- The classes of characters that have a name in patterns. -/
inductive CharKind where
  | digit
  | space
  | word
  deriving DecidableEq, Repr

/-- Is the character of this kind?  With `ascii`, only ASCII characters can be. -/
def CharKind.holds (kind : CharKind) (ascii : Bool) (c : Char) : Bool :=
  match kind, ascii with
  | .digit, false => Text.isDigit c
  | .digit, true => Text.isAsciiDigit c
  | .space, false => Text.isBlank c
  | .space, true => (9 ≤ c.toNat && c.toNat ≤ 13) || c == ' '
  | .word, false => Text.isWord c
  | .word, true => Text.isAsciiWord c

/-- A member of a set of characters. -/
inductive SetItem where
  /-- One code point. -/
  | code (n : Nat)
  /-- The code points from `low` to `high`. -/
  | range (low high : Nat)
  /-- The characters of a kind, or those that are not of it. -/
  | kind (kind : CharKind) (ascii negated : Bool)
  deriving DecidableEq, Repr

namespace SetItem

/-- The first code point that sets list in the case in which it is written. -/
def planeSize : Nat := 0x10000

/-- Does the item ask for folded characters?  An item beyond the first plane does so wherever case
does not count. -/
def folds (casing : Casing) : SetItem → Bool
  | .code n => casing.ignores n || (casing != .exact && planeSize ≤ casing.fold n)
  | .range low high => (casing != .exact && planeSize ≤ high) || casing.ignoresBetween low high
  | .kind _ _ _ => false

/-- Does the item hold a code point that has been folded?  A single code point beyond the first
plane is written in the case in which it counts.  A range there holds what lies in it, or what
does in upper case. -/
def holds (casing : Casing) (n : Nat) : SetItem → Bool
  | .code m =>
    let small := casing.fold m
    if small < planeSize then (casing.variants small).contains n else m == n
  | .range low high =>
    ((casing.variants n).flatMap casing.sources).any
        (fun m => low ≤ m && m ≤ high && m < planeSize)
      || (planeSize ≤ high
        && ((low ≤ n && n ≤ high)
          || (casing != .exact && low ≤ Text.upperCode n && Text.upperCode n ≤ high)))
  | .kind sort ascii negated => sort.holds ascii (Char.ofNat n) != negated

end SetItem

/-- What a pattern asks of a single character. -/
inductive CharTest where
  /-- Any character; a line feed only with `newline`. -/
  | any (newline : Bool)
  /-- The character of a code point, or with `negated` any other. -/
  | code (casing : Casing) (negated : Bool) (n : Nat)
  /-- A character that one of the items holds, or with `negated` none. -/
  | set (casing : Casing) (negated : Bool) (items : List SetItem)
  deriving DecidableEq, Repr

namespace CharTest

/-- The character of a code point, or any other.  Where it has no other case, case counts. -/
def ofCode (casing : Casing) (negated : Bool) (n : Nat) : CharTest :=
  .code (if casing.ignores n then casing else .exact) negated n

/-- A character that one of the items holds, or one that none holds.  Where no item asks for
folded characters, none are folded. -/
def ofItems (casing : Casing) (negated : Bool) (items : List SetItem) : CharTest :=
  .set (if items.any (SetItem.folds casing) then casing else .exact) negated items

/-- Does the character pass the test? -/
def holds (test : CharTest) (c : Char) : Bool :=
  match test with
  | .any newline => newline || c != '\n'
  | .code casing negated n =>
    (casing.variants (casing.fold n)).contains (casing.fold c.toNat) != negated
  | .set casing negated items => items.any (SetItem.holds casing (casing.fold c.toNat)) != negated

end CharTest

end DockCheck.Pattern
