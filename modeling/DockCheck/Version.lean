import DockCheck.Text.Blank

/-!
# Versions

A detected version is cut down to the components that a `Precision` keeps, and then compared with
the allowed versions under a `MatchPolicy`.  Every comparison goes through `normalize` and
`isAllowed`, so that no pattern brings a reading of its own.
-/

namespace DockCheck

/-- How much of a version counts. -/
inductive Precision where
  /-- The first component of a version of three or more, all of any other. -/
  | truncated
  /-- The first component. -/
  | major
  /-- The first two components. -/
  | majorMinor
  /-- All components. -/
  | exact
  deriving DecidableEq, Repr

namespace Precision

/-- The precisions, in the order in which messages list them. -/
def all : List Precision := [.truncated, .major, .majorMinor, .exact]

/-- The name of a precision in documents and settings. -/
def name : Precision → Text
  | .truncated => "truncated"
  | .major => "major"
  | .majorMinor => "major.minor"
  | .exact => "exact"

/-- The precision of a name. -/
def ofName? (t : Text) : Option Precision := all.find? fun precision => precision.name == t

/-- Reading the name of a precision gives the precision back. -/
theorem ofName?_name (precision : Precision) : ofName? precision.name = some precision := by
  cases precision <;> decide

end Precision

/-- How a version is compared with the allowed ones. -/
inductive MatchPolicy where
  /-- The version is one of the allowed ones. -/
  | exact
  /-- The version is, or refines, one of the allowed ones. -/
  | leading
  deriving DecidableEq, Repr

namespace MatchPolicy

/-- The policies, in the order in which messages list them. -/
def all : List MatchPolicy := [.exact, .leading]

/-- The name of a policy in documents and settings. -/
def name : MatchPolicy → Text
  | .exact => "exact"
  | .leading => "prefix"

/-- The policy of a name. -/
def ofName? (t : Text) : Option MatchPolicy := all.find? fun policy => policy.name == t

/-- Reading the name of a policy gives the policy back. -/
theorem ofName?_name (policy : MatchPolicy) : ofName? policy.name = some policy := by
  cases policy <;> decide

end MatchPolicy

/-- A policy that was asked for by a name that none has. -/
inductive PolicyError where
  | precision (name : Text)
  | matching (name : Text)
  deriving DecidableEq, Repr

/-- The wording of an unknown policy. -/
def PolicyError.message : PolicyError → Text
  | .precision name => "Unknown version precision: " ++ name
  | .matching name => "Unknown version match policy: " ++ name

/-- The precision of a name, or the error that there is none. -/
def Precision.ofName (t : Text) : Except PolicyError Precision :=
  match ofName? t with
  | some precision => .ok precision
  | none => .error (.precision t)

/-- The policy of a name, or the error that there is none. -/
def MatchPolicy.ofName (t : Text) : Except PolicyError MatchPolicy :=
  match ofName? t with
  | some policy => .ok policy
  | none => .error (.matching t)

namespace Version

/-- A text without the dots at its two ends. -/
def trimDots (t : Text) : Text :=
  ((t.dropWhile (· == '.')).reverse.dropWhile (· == '.')).reverse

/-- A raw version without the white space and then the dots around it. -/
def clean (raw : Text) : Text := trimDots (Text.strip raw)

/-- The components of a version. -/
def components (version : Text) : List Text := Text.fields '.' version

/-- The components that a precision keeps. -/
def kept (precision : Precision) (parts : List Text) : List Text :=
  match precision with
  | .exact => parts
  | .major => parts.take 1
  | .majorMinor => parts.take 2
  | .truncated => if 2 < parts.length then parts.take 1 else parts

/-- A raw version, cut down to the components that a precision keeps. -/
def normalize (precision : Precision) (raw : Text) : Text :=
  Text.join ['.'] (kept precision (components (clean raw)))

/-- Is the version allowed?  A version refines an allowed one if it goes on with a dot after it. -/
def isAllowed (policy : MatchPolicy) (allowed : List Text) (version : Text) : Bool :=
  match policy with
  | .exact => allowed.contains version
  | .leading =>
    allowed.any fun entry => version == entry || Text.startsWith version (entry ++ ['.'])

end Version

end DockCheck
