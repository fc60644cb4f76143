import DockCheck.Text

/-!
# Paths

A `Path` is a root and the names below it.  `Path.ofText` reads one: empty names and single dots
are dropped, a name of two dots stays.
-/

namespace DockCheck

/-- A path: its root, which is empty for a relative one, and the names below that. -/
structure Path where
  root : Text
  names : List Text
  deriving DecidableEq, Repr

namespace Path

/-- The root of the path that a text describes: a slash if the text begins with one or with more
than two, and two slashes if it begins with just these. -/
def rootOf (t : Text) : Text :=
  match (t.takeWhile (· == '/')).length with
  | 0 => []
  | 2 => ['/', '/']
  | _ => ['/']

/-- Does the name add nothing to a path? -/
def isVoid (name : Text) : Bool := name.isEmpty || name == ['.']

/-- The path that a text describes. -/
def ofText (t : Text) : Path :=
  ⟨rootOf t, (Text.fields '/' t).filter fun name => !isVoid name⟩

/-- The text of a path. -/
def toText (path : Path) : Text :=
  if path.root.isEmpty && path.names.isEmpty then ['.']
  else path.root ++ Text.join ['/'] path.names

/-- The last name of a path. -/
def name (path : Path) : Text := path.names.getLast?.getD []

/-- The last name of a path from its last dot on, unless that is its first or its last
character. -/
def suffix (path : Path) : Text :=
  let name := path.name
  let afterDot := (name.reverse.takeWhile (· != '.')).reverse
  if afterDot.length + 1 < name.length && !afterDot.isEmpty then '.' :: afterDot else []

end Path

end DockCheck
