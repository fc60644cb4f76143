import DockCheck.Files.Path
import DockCheck.Text.Quoted
import DockCheck.Text.Stream

/-!
# Files

The files around a check, and the working directory in which relative paths begin.  `Files.find`
follows a path and says what is there or why nothing can be found, and `Files.readText` reads a
text.
-/

namespace DockCheck

/-- What stands under a name. -/
inductive Content where
  | file (bytes : List UInt8)
  | directory
  deriving DecidableEq, Repr

/-- Why a path leads to no file. -/
inductive PathProblem where
  | missing
  | notDirectory
  | isDirectory
  | nameTooLong
  deriving DecidableEq, Repr

/-- The number and the wording of a problem with a path. -/
def PathProblem.message : PathProblem → Text
  | .missing => "[Errno 2] No such file or directory"
  | .notDirectory => "[Errno 20] Not a directory"
  | .isDirectory => "[Errno 21] Is a directory"
  | .nameTooLong => "[Errno 36] File name too long"

/-- Why a file could not be read. -/
inductive FileFault where
  | system (problem : PathProblem) (path : Path)
  /-- The path has a character that no path can have. -/
  | nullCharacter
  | undecodable (fault : Utf8.Fault)
  deriving DecidableEq, Repr

/-- The wording of a fault. -/
def FileFault.message : FileFault → Text
  | .system problem path => problem.message ++ ": " ++ Text.quoted path.toText
  | .nullCharacter => "embedded null byte"
  | .undecodable fault => fault.message

/-- The files that there are: what stands under each list of names below the root.  The way to the
working directory is there, and the directories that hold a file are there, too. -/
structure Files where
  /-- The names on the way to the working directory. -/
  here : List Text
  entries : List (List Text × Content)
  deriving DecidableEq, Repr

namespace Files

/-- An empty working directory, and no other files. -/
def fresh (here : List Text) : Files := ⟨here, []⟩

/-- What stands under names. -/
def lookup (files : Files) (names : List Text) : Option Content :=
  if names.isPrefixOf files.here then some .directory else files.entries.lookup names

/-- The names under which a path begins. -/
def start (files : Files) (path : Path) : List Text := if path.root.isEmpty then files.here else []

/-- The files with something under names, and nothing else there. -/
def put (files : Files) (names : List Text) (content : Content) : Files :=
  { files with entries := (names, content) :: files.entries.filter fun entry => entry.1 != names }

/-- The proper beginnings of a list of names, without the empty one. -/
def parents (names : List Text) : List (List Text) :=
  (List.range (names.length - 1)).map fun n => names.take (n + 1)

/-- The files with something at a path and the directories that lead there. -/
def write (files : Files) (path : Path) (content : Content) : Files :=
  let names := files.start path ++ path.names
  let made := (parents names).foldl
    (fun files parent =>
      if (files.lookup parent).isSome then files else files.put parent .directory) files
  match content, files.lookup names with
  | .directory, some .directory => files
  | _, _ => made.put names content

/-- The files without what stands at a path and below it. -/
def remove (files : Files) (path : Path) : Files :=
  let names := files.start path ++ path.names
  { files with entries := files.entries.filter fun entry => !names.isPrefixOf entry.1 }

/-- The largest number of bytes in a name. -/
def nameLimit : Nat := 255

/-- The largest number of bytes in a path. -/
def pathLimit : Nat := 4095

/-- The place to which a name leads from another place.  Places are given by their names, and two
dots lead to the place above. -/
def move (place : List Text) (name : Text) : List Text :=
  if name = ['.', '.'] then place.dropLast else place ++ [name]

/-- Is the name too long for the files? -/
def isTooLong (name : Text) : Bool := nameLimit < (Utf8.encode name).length

/-- Follows names from a place. -/
def follow (files : Files) (place : List Text) : List Text → Except PathProblem Content
  | [] =>
    match files.lookup place with
    | some content => .ok content
    | none => .error .missing
  | name :: rest =>
    match files.lookup place with
    | some (.file _) => .error .notDirectory
    | none => .error .missing
    | some .directory =>
      if isTooLong name then .error .nameTooLong else follow files (move place name) rest

/-- What a path leads to. -/
def find (files : Files) (path : Path) : Except FileFault Content :=
  if path.toText.contains '\x00' then .error .nullCharacter
  else if pathLimit < (Utf8.encode path.toText).length then .error (.system .nameTooLong path)
  else
    match follow files (files.start path) path.names with
    | .ok content => .ok content
    | .error problem => .error (.system problem path)

/-- Is there a file, or a file or directory, at the path?  A path that does not lead anywhere is
no fault, but one that is too long is. -/
def exists? (files : Files) (path : Path) (wanted : Content → Bool) : Except FileFault Bool :=
  match files.find path with
  | .ok content => .ok (wanted content)
  | .error (.system .nameTooLong path) => .error (.system .nameTooLong path)
  | .error _ => .ok false

/-- Is it a file? -/
def isFile : Content → Bool
  | .file _ => true
  | .directory => false

/-- The bytes of the file at a path. -/
def readBytes (files : Files) (path : Path) : Except FileFault (List UInt8) :=
  match files.find path with
  | .ok (.file bytes) => .ok bytes
  | .ok .directory => .error (.system .isDirectory path)
  | .error fault => .error fault

/-- The text of the file at a path, with its line ends made line feeds. -/
def readText (files : Files) (path : Path) : Except FileFault Text := do
  match Utf8.decode (← files.readBytes path) with
  | .ok t => return Text.newlines t
  | .error fault => throw (.undecodable fault)

/-- The text of the file at a path, to be read as it is needed. -/
def readStream (files : Files) (path : Path) : Except FileFault Text.Stream :=
  return Text.Stream.ofBytes (← files.readBytes path)

end Files

end DockCheck
