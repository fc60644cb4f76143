import DockCheck.Pattern.Node

/-!
# Matching with traces

A possessive repetition of more than one character goes on from the place that was noted last,
even if it was noted by an attempt that has failed.  So in a pattern that is not orderly it matters
what failed attempts leave behind: a `Trace`.  It holds the place that was noted last and the
marks at which groups begin and end, some of which outlive the attempt that set them.

`Node.attempt` matches a node at a spot.  It is given what to do where the node matches and what to
do where it fails, and passes the trace on to either.  `Node.searchTraced` finds the leftmost match.
-/

namespace DockCheck.Pattern

/-- What the attempts so far have left behind: the place that was noted last, and the marks.  Group
`n` begins at mark `2 * n - 2` and ends at mark `2 * n - 1`.  The list ends with the last mark that
counts. -/
structure Trace where
  noted : Nat
  marks : List (Option Nat)
  deriving DecidableEq, Repr

namespace Trace

/-- The trace after a place was noted. -/
def note (trace : Trace) (place : Nat) : Trace := { trace with noted := place }

/-- The trace with a mark set. -/
def mark (trace : Trace) (index place : Nat) : Trace :=
  let gap := List.replicate (index - trace.marks.length) none
  let before := (trace.marks ++ gap).take index
  { trace with marks := before ++ some place :: trace.marks.drop (index + 1) }

/-- The trace with the marks as they were.  Outside of repetitions only later marks are dropped, and
those that have been set again stay. -/
def restore (trace : Trace) (repeating : Bool) (saved : List (Option Nat)) : Trace :=
  { trace with marks := if repeating then saved else trace.marks.take saved.length }

/-- The places where a group begins and ends, if it has both. -/
def span? (trace : Trace) (number : Nat) : Option (Nat × Nat) :=
  match trace.marks[2 * number - 2]?.join, trace.marks[2 * number - 1]?.join with
  | some start, some stop => some (start, stop)
  | _, _ => none

/-- The places where a group begins and ends, if these are in order. -/
def properSpan? (trace : Trace) (number : Nat) : Option (Nat × Nat) :=
  (trace.span? number).filter fun span => span.1 ≤ span.2

end Trace

/-- What is left to do after a failure. -/
abbrev Retreat := Trace → Option Trace

/-- What is left to do after a match that ends at a spot. -/
abbrev Onward := Spot → Trace → Retreat → Option Trace

/-- An attempt to match at a spot. -/
abbrev Attempt := Spot → Trace → Onward → Retreat → Option Trace

namespace Spot

/-- The spot of the same text after `n` characters. -/
def moveTo (spot : Spot) (n : Nat) : Spot :=
  let t := spot.behind.reverse ++ spot.ahead
  { spot with position := n, behind := (t.take n).reverse, ahead := t.drop n }

/-- The characters between two places of the text. -/
def slice (spot : Spot) (span : Nat × Nat) : Text :=
  ((spot.behind.reverse ++ spot.ahead).drop span.1).take (span.2 - span.1)

end Spot

/-- Does a count of characters that pass the test note the place behind each of them?  It does
where they are folded and compared with a set. -/
def CharTest.notes : CharTest → Bool
  | .any _ => false
  | .code casing _ n => (casing.variants (casing.fold n)).length != 1
  | .set casing _ _ => casing != .exact

/-- The code point that the test asks for as it is. -/
def CharTest.literal? : CharTest → Option Nat
  | .code .exact false n => some n
  | _ => none

namespace Node

/-- The code point with which every match of the node begins, if the node begins by asking for it;
`next` is the one for what follows. -/
def literal? (next : Option Nat) : Node → Option Nat
  | .empty => next
  | .char test => test.literal?
  | .seq first second => first.literal? (second.literal? next)
  | _ => none

/-- The test with which the node begins. -/
def firstTest? : Node → Option CharTest
  | .char test => some test
  | .seq first _ => first.firstTest?
  | _ => none

/-- Can an alternative be passed over at a spot?  It can if it begins with a test without folding
that the next character does not pass. -/
def isPassedOver (node : Node) (spot : Spot) : Bool :=
  match node.firstTest? with
  | some (.code .exact false n) => (spot.step? (.code .exact false n)).isNone
  | some (.set .exact negated items) => (spot.step? (.set .exact negated items)).isNone
  | _ => false

/-- Does the node consist of alternatives? -/
def isAlternation : Node → Bool
  | .alt _ _ => true
  | _ => false

end Node

/-! ### Repetitions -/

/-- Tries to go on from one spot after the other.  The marks are brought back after each. -/
def tryEach (repeating : Bool) (saved : List (Option Nat)) (onward : Onward) (finish : Retreat) :
    List Spot → Retreat
  | [], trace => finish trace
  | spot :: spots, trace =>
    onward spot (trace.note spot.position) fun left =>
      tryEach repeating saved onward finish spots (left.restore repeating saved)

/-- Repeats a test of a character.  With `next`, a greedy repetition goes on only from where that
code point follows. -/
def attemptRun (greed : Greed) (low : Nat) (high : Option Nat) (test : CharTest)
    (repeating : Bool) (next : Option Nat) : Attempt := fun spot trace onward retreat =>
  if spot.ahead.length < low then retreat trace
  else
    let place := spot.position
    let ends := spot.run test high
    let counted (n : Nat) := trace.note (if test.notes then place + n else place)
    let all := counted (ends.length - 1)
    match ends.drop low with
    | [] => retreat all
    | first :: others =>
      let last := others.getLast?.getD first
      match greed with
      | .possessive => onward last all retreat
      | .greedy =>
        let follows (s : Spot) := next.all fun n => s.ahead.head?.any fun c => c.toNat == n
        tryEach repeating trace.marks onward retreat ((first :: others).reverse.filter follows) all
      | .lazy =>
        let finish (left : Trace) :=
          let more := test.notes && (last.step? test).isSome
          retreat (left.note (if more then last.position + 1 else last.position))
        tryEach repeating trace.marks onward finish (first :: others) (counted low)

/-- Repeats an attempt exactly `n` times before another one. -/
def attemptExactly (body after : Attempt) : Nat → Attempt
  | 0 => after
  | n + 1 => fun spot trace onward retreat =>
    let place := spot.position
    body spot (trace.note place)
      (fun reached left back => attemptExactly body after n reached left onward back)
      (fun left => retreat (left.note place))

/-- Repeats an attempt up to `bound` times.  A repetition that ends where it began is the last:
`last` is the place of the latest one. -/
def attemptMore (greed : Greed) (repeating : Bool) (body : Attempt) :
    (fuel : Nat) → (bound last : Option Nat) → Attempt
  | 0, _, _ => fun spot trace onward retreat => onward spot trace retreat
  | fuel + 1, bound, last => fun spot trace onward retreat =>
    let place := spot.position
    let here := trace.note place
    let closed := bound == some 0 || last == some place
    let again (left : Trace) (retreat : Retreat) :=
      body spot left
        (fun reached left back =>
          attemptMore greed repeating body fuel (bound.map (· - 1)) (some place) reached left
            onward back)
        retreat
    match greed with
    | .lazy =>
      onward spot here fun left =>
        let back := (left.restore repeating here.marks).note place
        if closed then retreat back else again back fun left => retreat (left.note place)
    | _ =>
      let leave (left : Trace) := onward spot left fun left => retreat (left.note place)
      if closed then leave here else again here fun _ => leave here

/-- Repeats an attempt up to `bound` times, each time for good.  Where no more succeeds, the match
goes on from the place that was noted last. -/
def attemptForGood (body : Attempt) : (fuel : Nat) → (bound last : Option Nat) → Attempt
  | 0, _, _ => fun spot trace onward retreat => onward spot trace retreat
  | fuel + 1, bound, last => fun spot trace onward retreat =>
    if bound == some 0 || last == some trace.noted then onward spot trace retreat
    else
      body spot trace
        (fun reached left _ =>
          attemptForGood body fuel (bound.map (· - 1)) (some trace.noted) reached
            (left.note reached.position) onward retreat)
        (fun left => onward (spot.moveTo left.noted) { left with marks := trace.marks } retreat)

/-- Repeats an attempt exactly `n` times, each time for good, before another one.  A failure notes
the place where the repetition began. -/
def attemptExactlyForGood (body after : Attempt) (start : Nat) : Nat → Attempt
  | 0 => after
  | n + 1 => fun spot trace onward retreat =>
    body spot trace
      (fun reached left _ =>
        attemptExactlyForGood body after start n reached (left.note reached.position) onward
          retreat)
      (fun left => retreat (left.note start))

/-- Repeats an attempt at least `low` times. -/
def attemptTimes (greed : Greed) (low : Nat) (high : Option Nat) (body : Attempt)
    (repeating : Bool) : Attempt := fun spot trace onward retreat =>
  let size := spot.behind.length + spot.ahead.length + 2
  let bound := high.map (· - low)
  let fuel := bound.getD (size * size) + 1
  match greed with
  | .possessive =>
    attemptExactlyForGood body (attemptForGood body fuel bound none) spot.position low spot
      (trace.note spot.position) onward retreat
  | _ =>
    attemptExactly body (attemptMore greed repeating body fuel bound none) low spot trace onward
      retreat

/-! ### Nodes -/

/-- Attempts to match a node.  `repeating` says whether it stands within a repetition that can be
given up again, and `next` is the code point that must follow it, if that is known. -/
def Node.attempt : Node → (repeating : Bool) → (next : Option Nat) → Attempt
  | .empty, _, _ => fun spot trace onward retreat => onward spot trace retreat
  | .char test, _, _ => fun spot trace onward retreat =>
    match spot.step? test with
    | some reached => onward reached trace retreat
    | none => retreat trace
  | .anchor place, _, _ => fun spot trace onward retreat =>
    if spot.holds place then onward spot trace retreat else retreat trace
  | .seq first second, repeating, next => fun spot trace onward retreat =>
    first.attempt repeating (second.literal? next) spot trace
      (fun reached left back => second.attempt repeating next reached left onward back) retreat
  | .alt first second, repeating, next => fun spot trace onward retreat =>
    let place := spot.position
    let others (left : Trace) :=
      if second.isAlternation then second.attempt repeating next spot left onward retreat
      else if second.isPassedOver spot then retreat left
      else
        second.attempt repeating none spot (left.note place) onward fun left =>
          retreat (left.restore repeating trace.marks)
    if first.isPassedOver spot then others trace
    else
      first.attempt repeating none spot (trace.note place) onward fun left =>
        others (left.restore repeating trace.marks)
  | .group number body, repeating, _ => fun spot trace onward retreat =>
    body.attempt repeating none spot (trace.mark (2 * number - 2) spot.position)
      (fun reached left back => onward reached (left.mark (2 * number - 1) reached.position) back)
      retreat
  | .backref number casing, _, _ => fun spot trace onward retreat =>
    match trace.properSpan? number with
    | none => retreat trace
    | some span =>
      let word := spot.slice span
      if casing.agree word (spot.ahead.take word.length) then
        onward (spot.advance word.length) trace retreat
      else retreat trace
  | .run greed low high test, repeating, next => attemptRun greed low high test repeating next
  | .times greed low high body, repeating, _ =>
    attemptTimes greed low high (body.attempt (repeating || greed != .possessive) none) repeating
  | .atomic body, repeating, _ => fun spot trace onward retreat =>
    let place := spot.position
    body.attempt repeating none spot (trace.note place)
      (fun reached left _ => onward reached (left.note reached.position) retreat)
      (fun left => retreat (left.note place))
  | .look back negated body, repeating, _ => fun spot trace onward retreat =>
    match spot.back? (back.getD 0), negated with
    | none, false => retreat trace
    | none, true => onward spot trace retreat
    | some start, false =>
      body.attempt repeating none start (trace.note start.position)
        (fun reached left _ => onward spot (left.note reached.position) retreat) retreat
    | some start, true =>
      body.attempt repeating none start (trace.note start.position)
        (fun reached left _ => retreat (left.note reached.position))
        (fun left => onward spot (left.restore repeating trace.marks) retreat)
  | .cond number yes no, repeating, next => fun spot trace onward retreat =>
    if (trace.properSpan? number).isSome then
      yes.attempt repeating (if no = .empty then next else none) spot trace onward retreat
    else no.attempt repeating next spot trace onward retreat

/-! ### The search -/

namespace Node

/-- The least number of characters that a match of the node has, and the least numbers for the
groups that are known after it. -/
def leastIn : Node → (known : List (Nat × Nat)) → Nat × List (Nat × Nat)
  | .empty, known => (0, known)
  | .char _, known => (1, known)
  | .anchor _, known => (0, known)
  | .seq first second, known =>
    let (m, known) := first.leastIn known
    let (n, known) := second.leastIn known
    (m + n, known)
  | .alt first second, known =>
    let (m, known) := first.leastIn known
    let (n, known) := second.leastIn known
    (min m n, known)
  | .group number body, known =>
    let (n, known) := body.leastIn known
    (n, (number, n) :: known)
  | .backref number _, known => ((known.lookup number).getD 0, known)
  | .run _ low _ _, known => (low, known)
  | .times _ low _ body, known =>
    let (n, known) := body.leastIn known
    (low * n, known)
  | .atomic body, known => body.leastIn known
  | .look _ _ body, known => (0, (body.leastIn known).2)
  | .cond _ yes no, known =>
    let (m, known) := yes.leastIn known
    let (n, known) := no.leastIn known
    (min m n, known)

/-- Does every match begin with a certain character?  There is no answer if the node matches the
empty text alone. -/
def startsLiterally? : Node → Option Bool
  | .empty => none
  | .char test => some test.literal?.isSome
  | .seq first second => first.startsLiterally?.or second.startsLiterally?
  | .group _ body => body.startsLiterally?
  | _ => some false

/-- Do all alternatives begin with a certain character? -/
def startLiterally : Node → Bool
  | .char test => test.literal?.isSome
  | .seq (.char test) _ => test.literal?.isSome
  | .alt first second => first.startLiterally && second.startLiterally
  | _ => false

/-- Does every match begin with a character out of a set of which no member has another case? -/
def startsInSet : Node → Bool
  | .char (.set casing _ items) => !items.any fun item =>
    match item with
    | .code n => casing.ignores n
    | _ => item.folds casing
  | .seq first _ => first.startsInSet
  | .group _ body => body.startsInSet
  | .alt first second => (Node.alt first second).startLiterally
  | _ => false

/-- Is it known with which characters a match can begin? -/
def hasKnownStart (node : Node) : Bool := node.startsLiterally? == some true || node.startsInSet

/-- The trace of the first match among those that begin at the spot or at one of the `n` after
it. -/
def searchTracedFrom (node : Node) : (n : Nat) → Spot → Option Trace
  | n, spot =>
    let found := node.attempt false none spot ⟨spot.position, []⟩
      (fun reached left _ => some (left.note reached.position)) (fun _ => none)
    match found, n, spot.ahead with
    | some trace, _, _ => some trace
    | none, n + 1, c :: rest => node.searchTracedFrom n (spot.after c rest)
    | none, _, _ => none

/-- The trace of the leftmost match in a text.  Places after which the least number of characters
is not left are not tried, but for the first of them: that one is, and the others are where it is
known with which characters a match can begin. -/
def searchTraced (node : Node) (t : Text) : Option Trace :=
  let least := (node.leastIn []).1
  if t.length < least then none
  else
    let starts := if least ≤ 1 || node.hasKnownStart then t.length else t.length - least + 1
    node.searchTracedFrom starts (.start t)

end Node

end DockCheck.Pattern
