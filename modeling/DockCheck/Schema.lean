import DockCheck.Data
import DockCheck.Schema.Issue
import DockCheck.Text.Utf8

/-!
# Schemas

The forms that data are read as: texts, lists of texts, choices and tables with fields.  A reader
takes the way to a value and the value, and gives what it stands for or every issue with it; where
two parts are read, the issues of the first come before those of the second (`Checked.and`).
-/

namespace DockCheck.Schema

/-- What a value stands for, or all issues with it. -/
inductive Checked (α : Type) where
  | ok (value : α)
  | faulty (issues : List Issue)
  deriving DecidableEq, Repr

namespace Checked

variable {α β : Type}

/-- One issue. -/
def issue (location : List Step) (problem : Problem) : Checked α := .faulty [⟨location, problem⟩]

/-- Applies a function to what a value stands for. -/
def map (f : α → β) : Checked α → Checked β
  | ok value => ok (f value)
  | faulty issues => faulty issues

/-- Applies what a first part stands for to what a second part stands for. -/
def and (f : Checked (α → β)) (a : Checked α) : Checked β :=
  match f, a with
  | ok f, ok a => ok (f a)
  | ok _, faulty issues => faulty issues
  | faulty issues, ok _ => faulty issues
  | faulty issues, faulty others => faulty (issues ++ others)

/-- What all parts stand for. -/
def all : List (Checked α) → Checked (List α)
  | [] => ok []
  | part :: parts => (part.map List.cons).and (all parts)

/-- A checked value under the title of its form. -/
def titled (title : Text) : Checked α → Except Rejection α
  | ok value => .ok value
  | faulty issues => .error ⟨title, issues⟩

end Checked

/-- How a value is read, given the way to it. -/
abbrev Reader (α : Type) := List Step → Data → Checked α

/-- A text.  Bytes stand for the text that they encode. -/
def text : Reader Text := fun location value =>
  match value with
  | .text t => .ok t
  | .bytes bytes =>
    match Utf8.decode bytes with
    | .ok t => .ok t
    | .error _ => .issue location .undecodableText
  | _ => .issue location .notText

/-- The items of a list, each read in the same way; `n` is the index of the first. -/
def itemsFrom {α : Type} (item : Reader α) (location : List Step) : Nat → List Data →
    List (Checked α)
  | _, [] => []
  | n, value :: values =>
    item (location ++ [.index n]) value :: itemsFrom item location (n + 1) values

/-- A list of items that are each read in the same way. -/
def list {α : Type} (item : Reader α) : Reader (List α) := fun location value =>
  match value with
  | .list items => .all (itemsFrom item location 0 items)
  | .bag items => .all (itemsFrom item location 0 items)
  | _ => .issue location .notList

/-- A list of texts. -/
def texts : Reader (List Text) := list text

/-- One of several values that have names. -/
def choice {α : Type} (all : List α) (name : α → Text) : Reader α := fun location value =>
  let unknown : Checked α := .issue location (.unknownChoice (all.map name))
  match value with
  | .text t =>
    match all.find? fun a => name a == t with
    | some a => .ok a
    | none => unknown
  | _ => unknown

/-- Null, or a value that is read. -/
def optional {α : Type} (item : Reader α) : Reader (Option α) := fun location value =>
  match value with
  | .null => .ok none
  | _ => (item location value).map some

/-- The first of the given keys that a table has, and the value under it. -/
def firstField (keys : List Text) (entries : List (Text × Data)) : Option (Text × Data) :=
  keys.findSome? fun key => (entries.lookup key).map fun value => (key, value)

/-- The value of a field under the first of its keys that is there.  A field that is missing is
asked for by its first key. -/
def field {α : Type} (keys : List Text) (item : Reader α) (location : List Step)
    (entries : List (Text × Data)) : Checked α :=
  match firstField keys entries with
  | some (key, value) => item (location ++ [.field key]) value
  | none => .issue (location ++ (keys.take 1).map .field) .missing

/-- The value of a field that may be missing. -/
def fieldOr {α : Type} (missing : α) (keys : List Text) (item : Reader α) (location : List Step)
    (entries : List (Text × Data)) : Checked α :=
  match firstField keys entries with
  | some (key, value) => item (location ++ [.field key]) value
  | none => .ok missing

/-- The entries of a table of the named form. -/
def entriesOf (model : Text) : Reader (List (Text × Data)) := fun location value =>
  match value with
  | .table entries => .ok entries
  | _ => .issue location (.notModel model)

/-- A table of the named form, read from its entries. -/
def model {α : Type} (name : Text) (read : List Step → List (Text × Data) → Checked α) :
    Reader α := fun location value =>
  match value with
  | .table entries => read location entries
  | _ => .issue location (.notModel name)

end DockCheck.Schema
