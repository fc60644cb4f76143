import DockCheck.Pattern
import DockCheck.Version

/-!
# Tools

A `ToolSpec` says how a tool is detected in a text: its patterns are tried in order, and the first
that captures anything gives the version.  `checkTool` judges that version by the allowed ones.
-/

namespace DockCheck

/-- How a tool is detected: the key of its allowed versions, its name, and its patterns, the most
specific first. -/
structure ToolSpec where
  key : Text
  name : Text
  patterns : List Pattern

/-- The version that a text mentions: the capture of the first pattern that has one, even where a
later one would fit better. -/
def extractVersion : List Pattern → Text → Except Pattern.SearchFault (Option Text)
  | [], _ => .ok none
  | pattern :: patterns, t =>
    match pattern.capture? t with
    | .ok none => extractVersion patterns t
    | outcome => outcome

/-- The outcome of the check of a tool. -/
inductive ToolResult where
  /-- The tool is not mentioned, which is no fault. -/
  | notFound (name : Text)
  /-- The version is allowed. -/
  | valid (name version : Text)
  /-- The version is not allowed. -/
  | invalid (name version : Text) (allowed : List Text)
  deriving DecidableEq, Repr

namespace ToolResult

/-- The name of the tool. -/
def name : ToolResult → Text
  | notFound name => name
  | valid name _ => name
  | invalid name _ _ => name

/-- Is the tool mentioned? -/
def isFound : ToolResult → Bool
  | notFound _ => false
  | _ => true

/-- Does the tool comply? -/
def isValid : ToolResult → Bool
  | invalid _ _ _ => false
  | _ => true

/-- The version of a tool that is mentioned. -/
def version? : ToolResult → Option Text
  | notFound _ => none
  | valid _ version => some version
  | invalid _ version _ => some version

/-- The word for the outcome. -/
def status : ToolResult → Text
  | notFound _ => "not_found"
  | valid _ _ => "valid"
  | invalid _ _ _ => "invalid"

/-- The outcome in words. -/
def message : ToolResult → Text
  | notFound name => name ++ " not found"
  | valid name version => name ++ " found (version " ++ version ++ ")"
  | invalid name version allowed =>
    name ++ " version " ++ version ++ " is not allowed. Allowed versions: "
      ++ Text.join ", " allowed

end ToolResult

/-- Judges a version that was detected. -/
def judge (precision : Precision) (policy : MatchPolicy) (allowed : List Text) (name raw : Text) :
    ToolResult :=
  let version := Version.normalize precision raw
  if Version.isAllowed policy allowed version then .valid name version
  else .invalid name version allowed

/-- Detects a tool in a text and judges its version. -/
def checkTool (precision : Precision) (policy : MatchPolicy) (allowed : List Text)
    (spec : ToolSpec) (t : Text) : Except Pattern.SearchFault ToolResult := do
  match ← extractVersion spec.patterns t with
  | none => return .notFound spec.name
  | some raw => return judge precision policy allowed spec.name raw

/-- The policies of a check, by name.  A name that no policy has is an error only once the policy
is needed. -/
structure Policies where
  precision : Text
  matching : Text
  deriving DecidableEq, Repr

/-- Why a check of a tool has no outcome. -/
inductive ToolFault where
  | search (fault : Pattern.SearchFault)
  | policy (error : PolicyError)
  deriving DecidableEq, Repr

/-- Detects a tool in a text and judges its version by policies that may be unknown. -/
def checkToolBy (policies : Policies) (allowed : List Text) (spec : ToolSpec) (t : Text) :
    Except ToolFault ToolResult := do
  match ← (extractVersion spec.patterns t).mapError .search with
  | none => return .notFound spec.name
  | some raw =>
    let precision ← (Precision.ofName policies.precision).mapError .policy
    let policy ← (MatchPolicy.ofName policies.matching).mapError .policy
    return judge precision policy allowed spec.name raw

/-- With known policies only the search can fail. -/
theorem checkToolBy_name (precision : Precision) (policy : MatchPolicy) (allowed : List Text)
    (spec : ToolSpec) (t : Text) :
    checkToolBy ⟨precision.name, policy.name⟩ allowed spec t
      = (checkTool precision policy allowed spec t).mapError .search := by
  unfold checkToolBy checkTool
  cases extractVersion spec.patterns t with
  | error fault => rfl
  | ok found =>
    cases found with
    | none => rfl
    | some raw =>
      simp only [Precision.ofName, MatchPolicy.ofName, Precision.ofName?_name,
        MatchPolicy.ofName?_name]
      rfl

end DockCheck
