import DockCheck.Pattern.Reader
import DockCheck.Pattern.Search
import DockCheck.Pattern.Trace

/-!
# Patterns

A `Pattern` is a text that reads as a search pattern and has a group to capture a version with.
`Pattern.ofText` is the only way from a text to one, and `Pattern.capture?` searches with it.
-/

namespace DockCheck

/-- A search pattern: its text, what it matches, and the number of its groups. -/
structure Pattern where
  source : Text
  body : Pattern.Node
  groups : Nat
  /-- The text reads as this pattern. -/
  compiled : Pattern.compile source = .ok (body, groups)
  /-- There is a group to capture a version with. -/
  captures : 1 ≤ groups

namespace Pattern

/-- Why a text is not accepted as a pattern. -/
inductive Refusal where
  | fault (source : Text) (fault : Fault)
  | noGroup (source : Text)
  deriving DecidableEq, Repr

/-- The wording of a refusal. -/
def Refusal.message : Refusal → Text
  | .fault source (.malformed problem place) =>
    "invalid pattern " ++ Text.quoted source ++ ": "
      ++ (Fault.malformed problem place).message source
  | .fault source cause => cause.message source
  | .noGroup source => "pattern " ++ Text.quoted source ++ " has no capture group"

/-- The pattern of a text. -/
def ofText (source : Text) : Except Refusal Pattern :=
  match h : compile source with
  | .error fault => .error (.fault source fault)
  | .ok (body, groups) =>
    if hgroups : 1 ≤ groups then .ok ⟨source, body, groups, h, hgroups⟩
    else .error (.noGroup source)

/-- Why a search has no outcome. -/
inductive SearchFault where
  /-- A group ends before it begins. -/
  | spanReversed
  deriving DecidableEq, Repr

/-- The wording of a fault of a search. -/
def SearchFault.message : SearchFault → Text
  | .spanReversed => "The span of capturing group is wrong, please report a bug for the re module."

/-- What the first group captures in the match of the given trace. -/
def captureIn? (groups : Nat) (t : Text) (trace : Trace) : Except SearchFault (Option Capture) :=
  let reversed (number : Nat) := (trace.span? number).any fun span => span.2 < span.1
  if (List.range groups).any fun n => reversed (n + 1) then .error .spanReversed
  else .ok ((trace.span? 1).map fun span => ⟨t.drop span.1, t.drop span.2⟩)

/-- What the first group captures in the leftmost match of the pattern in a text. -/
def firstGroup? (pattern : Pattern) (t : Text) : Except SearchFault (Option Capture) :=
  if pattern.body.isOrderly [] then
    .ok ((pattern.body.search t).bind fun spot => spot.group? 1)
  else
    match pattern.body.searchTraced t with
    | none => .ok none
    | some trace => captureIn? pattern.groups t trace

/-- The nonempty text that the first group captures in the leftmost match of the pattern in a
text. -/
def capture? (pattern : Pattern) (t : Text) : Except SearchFault (Option Text) := do
  return (← pattern.firstGroup? t).bind fun capture =>
    let word := capture.word
    if word.isEmpty then none else some word

/-- An orderly pattern captures what its ways say. -/
theorem firstGroup?_of_isOrderly {pattern : Pattern} (h : pattern.body.isOrderly []) (t : Text) :
    pattern.firstGroup? t = .ok ((pattern.body.search t).bind fun spot => spot.group? 1) :=
  if_pos h

end Pattern

end DockCheck
