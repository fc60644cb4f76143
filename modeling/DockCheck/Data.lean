import DockCheck.Text.Quoted

/-!
# Data

A `Data` is what a document says before anything is known of its meaning: the values of JSON, and
those that other notations add.  `Data.shown` gives the text of a value for messages.
-/

namespace DockCheck

/-- A value of a document.  The keys of a table are texts, each of which occurs once, and a value
under any other key is not kept. -/
inductive Data where
  | null
  | bool (b : Bool)
  | int (n : Int)
  /-- A number that is no integer, given by its shortest decimal text. -/
  | float (decimal : Text)
  | text (t : Text)
  | bytes (bytes : List UInt8)
  | list (items : List Data)
  /-- Values in no order of their own, each of them once. -/
  | bag (items : List Data)
  | table (entries : List (Text × Data))
  /-- A value of another kind, such as a date, given by its text. -/
  | other (shown : Text)
  deriving Repr

namespace Data

mutual

/-- The text of a value within another one: texts are quoted. -/
def quoted : Data → Text
  | null => "None"
  | bool b => if b then "True" else "False"
  | int n => Text.ofInt n
  | float decimal => decimal
  | text t => Text.quoted t
  | bytes _ => "b''"
  | list items => "[" ++ quotedItems items ++ "]"
  | bag items => "\x7b" ++ quotedItems items ++ "\x7d"
  | table entries => "\x7b" ++ quotedEntries entries ++ "\x7d"
  | other shown => shown

/-- The texts of values, with commas between them. -/
def quotedItems : List Data → Text
  | [] => []
  | [item] => quoted item
  | item :: items => quoted item ++ ", " ++ quotedItems items

/-- The texts of keys and values, with commas between them. -/
def quotedEntries : List (Text × Data) → Text
  | [] => []
  | [(key, value)] => Text.quoted key ++ ": " ++ quoted value
  | (key, value) :: entries =>
    Text.quoted key ++ ": " ++ quoted value ++ ", " ++ quotedEntries entries

end

/-- The text of a value. -/
def shown : Data → Text
  | text t => t
  | value => quoted value

/-- The value under a key of a table. -/
def field? (key : Text) : Data → Option Data
  | table entries => entries.lookup key
  | _ => none

end Data

/-- Entries with a value under a key: in the place of an earlier value under that key, or else at
the end. -/
def putEntry {α : Type} (key : Text) (value : α) : List (Text × α) → List (Text × α)
  | [] => [(key, value)]
  | (other, old) :: entries =>
    if other = key then (key, value) :: entries else (other, old) :: putEntry key value entries

/-- Under its own key, an entry that was put in is found. -/
theorem lookup_putEntry_self {α : Type} (key : Text) (value : α) (entries : List (Text × α)) :
    (putEntry key value entries).lookup key = some value := by
  induction entries with
  | nil => simp [putEntry]
  | cons entry entries ih =>
    obtain ⟨other, old⟩ := entry
    unfold putEntry
    split
    · simp
    · next h =>
      have : (key == other) = false := by simpa using fun e : key = other => h e.symm
      simp [List.lookup_cons, this, ih]

/-- An entry that was put in does not show under another key. -/
theorem lookup_putEntry_of_ne {α : Type} {key other : Text} (h : other ≠ key) (value : α)
    (entries : List (Text × α)) :
    (putEntry key value entries).lookup other = entries.lookup other := by
  induction entries with
  | nil =>
    have : (other == key) = false := by simpa using h
    simp [putEntry, List.lookup_cons, this]
  | cons entry entries ih =>
    obtain ⟨first, old⟩ := entry
    unfold putEntry
    split
    · next hfirst =>
      subst hfirst
      have : (other == first) = false := by simpa using h
      simp [List.lookup_cons, this]
    · simp [List.lookup_cons, ih]

end DockCheck
