import DockCheck.Pattern.CharTest
import DockCheck.Pattern.Ways

/-!
# Search patterns as trees

A `Node` says what a pattern matches.  `Node.ways` gives the ways in which it matches at a `Spot`
of a text, in the order in which they are tried.  That is all there is to say of an orderly node
(`Node.isOrderly`).

Options such as the treatment of letter case are settled when a pattern is read: each leaf of the
tree carries the reading that holds for it.
-/

namespace DockCheck.Pattern

/-- What a pattern asks of a place between two characters. -/
inductive Anchor where
  /-- The start of the text. -/
  | textStart
  /-- The start of the text or of a line. -/
  | lineStart
  /-- The end of the text. -/
  | textEnd
  /-- The end of the text, or before a line feed that ends it. -/
  | lastLineEnd
  /-- The end of the text or of a line. -/
  | lineEnd
  /-- Between a word character and one that is none, or with `negated` anywhere else. -/
  | wordEdge (ascii negated : Bool)
  deriving DecidableEq, Repr

/-- Which of the possible numbers of repetitions are tried, and in what order: from the largest
down, from the smallest up, or the largest alone. -/
inductive Greed where
  | greedy
  | lazy
  | possessive
  deriving DecidableEq, Repr

/-- What a pattern matches. -/
inductive Node where
  /-- The empty text. -/
  | empty
  /-- One character. -/
  | char (test : CharTest)
  /-- A place. -/
  | anchor (anchor : Anchor)
  /-- One node after the other. -/
  | seq (first second : Node)
  /-- One node or, after that, the other. -/
  | alt (first second : Node)
  /-- A node whose text is captured as the group of this number. -/
  | group (number : Nat) (body : Node)
  /-- The text of a group again. -/
  | backref (number : Nat) (casing : Casing)
  /-- Characters that pass a test, at least `low` and, if there is a bound, at most `high`. -/
  | run (greed : Greed) (low : Nat) (high : Option Nat) (test : CharTest)
  /-- A node again and again, at least `low` times and, if there is a bound, at most `high`. -/
  | times (greed : Greed) (low : Nat) (high : Option Nat) (body : Node)
  /-- The first way in which a node matches, and no other. -/
  | atomic (body : Node)
  /-- The place where a node matches, or with `negated` does not: starting here, or the given
  number of characters before. -/
  | look (back : Option Nat) (negated : Bool) (body : Node)
  /-- One node if the group of this number has a text, the other if not. -/
  | cond (number : Nat) (yes no : Node)
  deriving DecidableEq, Repr

/-- What a group has captured: the text from where the group begins, and the text after it. -/
structure Capture where
  start : Text
  stop : Text
  deriving DecidableEq, Repr

/-- The text of the group. -/
def Capture.word (capture : Capture) : Text :=
  capture.start.take (capture.start.length - capture.stop.length)

/-- A place in a text in the course of a match: the number of characters before it, these
characters, the nearest first, those after it, and the texts of the groups so far. -/
structure Spot where
  position : Nat
  behind : Text
  ahead : Text
  groups : List (Nat × Capture)
  deriving DecidableEq, Repr

namespace Spot

/-- The start of a text. -/
def start (t : Text) : Spot := ⟨0, [], t, []⟩

/-- The spot after a character. -/
def after (spot : Spot) (c : Char) (rest : Text) : Spot :=
  { spot with position := spot.position + 1, behind := c :: spot.behind, ahead := rest }

/-- What a group has captured. -/
def group? (spot : Spot) (number : Nat) : Option Capture := spot.groups.lookup number

/-- The spot after the next character, if that passes the test. -/
def step? (spot : Spot) (test : CharTest) : Option Spot :=
  match spot.ahead with
  | [] => none
  | c :: rest => if test.holds c then some (spot.after c rest) else none

/-- The spot after the next `n` characters. -/
def advance (spot : Spot) : Nat → Spot
  | 0 => spot
  | n + 1 =>
    match spot.ahead with
    | [] => spot
    | c :: rest => (spot.after c rest).advance n

/-- The spot the given number of characters before. -/
def back? (spot : Spot) : Nat → Option Spot
  | 0 => some spot
  | n + 1 =>
    match spot.behind with
    | [] => none
    | c :: rest =>
      { spot with position := spot.position - 1, behind := rest, ahead := c :: spot.ahead }.back? n

/-- The spot with the text between `start` and it captured as the group of this number. -/
def capture (start : Spot) (number : Nat) (spot : Spot) : Spot :=
  { spot with
    groups := (number, ⟨start.ahead, spot.ahead⟩) :: spot.groups.filter fun entry =>
      entry.1 != number }

/-- Does a place between two characters have what is asked of it? -/
def holds (spot : Spot) (anchor : Anchor) : Bool :=
  match anchor with
  | .textStart => spot.behind.isEmpty
  | .lineStart => spot.behind.isEmpty || spot.behind.head? == some '\n'
  | .textEnd => spot.ahead.isEmpty
  | .lastLineEnd => spot.ahead.isEmpty || spot.ahead == ['\n']
  | .lineEnd => spot.ahead.isEmpty || spot.ahead.head? == some '\n'
  | .wordEdge ascii negated =>
    let isWord (c : Option Char) : Bool := c.any (CharKind.word.holds ascii)
    if spot.behind.isEmpty && spot.ahead.isEmpty then false
    else (isWord spot.behind.head? != isWord spot.ahead.head?) != negated

/-- The spots that are reached by passing over characters that pass the test, at most `bound` if
there is a bound, the nearest first.  The first of them is the spot itself. -/
def runFrom (test : CharTest) (groups : List (Nat × Capture)) :
    (bound : Option Nat) → (position : Nat) → (behind ahead : Text) → List Spot
  | some 0, position, behind, ahead => [⟨position, behind, ahead, groups⟩]
  | _, position, behind, [] => [⟨position, behind, [], groups⟩]
  | bound, position, behind, c :: rest =>
    ⟨position, behind, c :: rest, groups⟩ ::
      if test.holds c then
        runFrom test groups (bound.map (· - 1)) (position + 1) (c :: behind) rest
      else []

/-- The spots that are reached from a spot by passing over characters that pass the test. -/
def run (spot : Spot) (test : CharTest) (bound : Option Nat) : List Spot :=
  runFrom test spot.groups bound spot.position spot.behind spot.ahead

end Spot

/-- The order in which the ends of a repetition are tried, given the ends of all permitted numbers
of repetitions with the smallest first. -/
def Greed.order (greed : Greed) (spots : List Spot) : List Spot :=
  match greed with
  | .greedy => spots.reverse
  | .lazy => spots
  | .possessive => spots.getLast?.toList

/-- The ways of going on by `body` exactly `n` times. -/
def repeated (body : Spot → Ways Spot) : Nat → Spot → Ways Spot
  | 0, spot => .single spot
  | n + 1, spot => (body spot).bind (repeated body n)

/-- The ways of going on by `body` any number of times up to `bound`.  A repetition that ends
where it began is the last: `last` is the place of the latest attempt.  Each further repetition
takes from `fuel`, of which one more than the number of characters ahead is always enough. -/
def repeatedMore (greed : Greed) (body : Spot → Ways Spot) :
    (fuel : Nat) → (bound last : Option Nat) → Spot → Ways Spot
  | 0, _, _, spot => .single spot
  | fuel + 1, bound, last, spot =>
    if bound == some 0 || last == some spot.position then .single spot
    else
      let further (_ : Unit) : Ways Spot :=
        (body spot).bind (repeatedMore greed body fuel (bound.map (· - 1)) (some spot.position))
      match greed with
      | .lazy => .some spot further
      | _ => (further ()).append fun _ => .single spot

/-- The ways of going on by `body` at least `low` times. -/
def repeatedTimes (greed : Greed) (low : Nat) (high : Option Nat) (body : Spot → Ways Spot)
    (spot : Spot) : Ways Spot :=
  (repeated body low spot).bind fun reached =>
    repeatedMore greed body (reached.ahead.length + 1) (high.map (· - low)) none reached

/-- The ways in which a node matches at a spot, as the spots where the matches end. -/
def Node.ways : Node → Spot → Ways Spot
  | .empty, spot => .single spot
  | .char test, spot =>
    match spot.step? test with
    | some next => .single next
    | none => .none
  | .anchor place, spot => if spot.holds place then .single spot else .none
  | .seq first second, spot => (first.ways spot).bind second.ways
  | .alt first second, spot => (first.ways spot).append fun _ => second.ways spot
  | .group number body, spot =>
    (body.ways spot).bind fun reached => .single (Spot.capture spot number reached)
  | .backref number casing, spot =>
    match spot.group? number with
    | none => .none
    | some capture =>
      let word := capture.word
      if casing.agree word (spot.ahead.take word.length) then .single (spot.advance word.length)
      else .none
  | .run greed low high test, spot =>
    .ofList (greed.order ((spot.run test high).drop low))
  | .times greed low high body, spot =>
    match greed with
    | .possessive =>
      (repeatedTimes .greedy low high (fun s => (body.ways s).commit) spot).commit
    | _ => repeatedTimes greed low high body.ways spot
  | .atomic body, spot => (body.ways spot).commit
  | .look back negated body, spot =>
    match (spot.back? (back.getD 0)).bind fun start => (body.ways start).first?, negated with
    | some reached, false => .single { spot with groups := reached.groups }
    | none, true => .single spot
    | _, _ => .none
  | .cond number yes no, spot =>
    if (spot.group? number).isSome then yes.ways spot else no.ways spot

/-- Do attempts to match the node that fail leave nothing behind?  They do not, unless a node of
more than one character is repeated possessively, or a group asks within itself for its own text.
The groups that are open are those around the node. -/
def Node.isOrderly (opened : List Nat) : Node → Bool
  | .seq first second => first.isOrderly opened && second.isOrderly opened
  | .alt first second => first.isOrderly opened && second.isOrderly opened
  | .group number body => body.isOrderly (number :: opened)
  | .times greed _ _ body => greed != .possessive && body.isOrderly opened
  | .atomic body => body.isOrderly opened
  | .look _ _ body => body.isOrderly opened
  | .cond number yes no =>
    !opened.contains number && yes.isOrderly opened && no.isOrderly opened
  | _ => true

/-- A node again and again, in the form that a repetition of a single character has. -/
def Node.repetition (greed : Greed) (low : Nat) (high : Option Nat) : Node → Node
  | .char test => .run greed low high test
  | body => .times greed low high body

end DockCheck.Pattern
