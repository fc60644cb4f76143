import DockCheck.Proofs.Traversal
import DockCheck.Schema

/-!
# Reading data of a form

What a reader gives is put together from what its parts give: it stands for a value if each part does
(`Checked.and_eq_ok_iff`), and else its issues are those of all parts, one after the other
(`Checked.Reports.and`).  Lists are read item by item (`all_itemsFrom`), and one of several values by
its name (`choice_text_eq_ok_iff`).
-/

namespace DockCheck.Schema

variable {α β : Type} {location : List Step}

/-! ### Values -/

/-- Parts together stand for a value exactly if each of them does. -/
lemma Checked.and_eq_ok_iff {f : Checked (α → β)} {a : Checked α} {b : β} :
    f.and a = .ok b ↔ ∃ g, f = .ok g ∧ ∃ x, a = .ok x ∧ g x = b := by
  cases f <;> cases a <;> simp [Checked.and]

/-- A text is read as the value of which it is the name. -/
lemma choice_text_eq_ok_iff {all : List α} {name : α → Text}
    (hall : ∀ a, (all.find? fun b => name b == name a) = some a) {t : Text} {a : α} :
    choice all name location (.text t) = .ok a ↔ name a = t := by
  rw [← find?_name_eq_some_iff hall]
  unfold choice
  dsimp only
  cases all.find? fun b => name b == t <;> simp [Checked.issue]

lemma optional_text_eq_ok_iff {item : Reader α} {t : Text} {a : Option α} :
    optional item location (.text t) = .ok a
      ↔ ∃ value, item location (.text t) = .ok value ∧ a = some value := by
  change (item location (.text t)).map some = .ok a ↔ _
  cases item location (.text t) <;> simp [Checked.map, eq_comm]

lemma fieldOr_of_lookup {entries : List (Text × Data)} {key : Text} {missing : α} {item : Reader α}
    {t : Option Text} (h : entries.lookup key = t.map .text) :
    fieldOr missing [key] item location entries
      = match t with
        | none => .ok missing
        | some t => item (location ++ [.field key]) (.text t) := by
  cases t <;> simp [fieldOr, firstField, h]

section Congr

variable {entries others : List (Text × Data)} {keys : List Text} {item : Reader α}

lemma firstField_congr (h : ∀ key ∈ keys, others.lookup key = entries.lookup key) :
    firstField keys others = firstField keys entries := by
  unfold firstField
  induction keys with
  | nil => rfl
  | cons key keys ih =>
    rw [List.forall_mem_cons] at h
    rw [List.findSome?_cons, List.findSome?_cons, h.1, ih h.2]

/-- A field is read from the entries under its keys. -/
lemma field_congr (h : ∀ key ∈ keys, others.lookup key = entries.lookup key) :
    field keys item location others = field keys item location entries := by
  unfold field
  rw [firstField_congr h]

lemma fieldOr_congr {missing : α} (h : ∀ key ∈ keys, others.lookup key = entries.lookup key) :
    fieldOr missing keys item location others = fieldOr missing keys item location entries := by
  unfold fieldOr
  rw [firstField_congr h]

/-- Items that are read in the same way make up a list that is read in the same way. -/
lemma list_congr {values others : List Data}
    (h : List.Forall₂ (fun value other => ∀ location, item location other = item location value)
      values others) :
    list item location (.list others) = list item location (.list values) := by
  have hitems : ∀ n, itemsFrom item location n others = itemsFrom item location n values := by
    induction h with
    | nil => exact fun _ => rfl
    | cons hitem _ ih =>
      intro n
      rw [itemsFrom, itemsFrom, hitem, ih]
  unfold list
  dsimp only
  rw [hitems]

end Congr

section List

variable {item : Reader α} {write : α → Data}

/-- Items that are each read back make up a list that is read back. -/
lemma all_itemsFrom (h : ∀ location a, item location (write a) = .ok a) (location : List Step)
    (n : Nat) (l : List α) : Checked.all (itemsFrom item location n (l.map write)) = .ok l := by
  induction l generalizing n with
  | nil => rfl
  | cons a l ih =>
    rw [List.map_cons, itemsFrom, Checked.all, h, ih]
    rfl

lemma list_map (h : ∀ location a, item location (write a) = .ok a) (location : List Step)
    (l : List α) : list item location (.list (l.map write)) = .ok l :=
  all_itemsFrom h location 0 l

lemma texts_map (location : List Step) (l : List Text) :
    texts location (.list (l.map Data.text)) = .ok l :=
  @list_map Text text Data.text (fun _ _ => rfl) location l

end List

/-! ### Issues -/

/-- The part stands for a value and there are no issues, or these are its issues. -/
def Checked.Reports (part : Checked α) (issues : List Issue) : Prop :=
  ((∃ a, part = .ok a) ∧ issues = []) ∨ (part = .faulty issues ∧ issues ≠ [])

namespace Checked.Reports

variable {part : Checked α} {issues others : List Issue}

lemma ok (a : α) : (Checked.ok a).Reports [] := Or.inl ⟨⟨a, rfl⟩, rfl⟩

lemma issue (location : List Step) (problem : Problem) :
    (Checked.issue location problem : Checked α).Reports [⟨location, problem⟩] :=
  Or.inr ⟨rfl, List.cons_ne_nil _ _⟩

/-- The issues of two parts come one after the other. -/
lemma and {f : Checked (α → β)} (hf : f.Reports issues) (ha : part.Reports others) :
    (f.and part).Reports (issues ++ others) := by
  rcases hf with ⟨⟨g, rfl⟩, rfl⟩ | ⟨rfl, hf⟩
  · rcases ha with ⟨⟨a, rfl⟩, rfl⟩ | ⟨rfl, ha⟩
    · exact ok (g a)
    · exact Or.inr ⟨rfl, ha⟩
  · rcases ha with ⟨⟨a, rfl⟩, rfl⟩ | ⟨rfl, ha⟩
    · rw [List.append_nil]
      exact Or.inr ⟨rfl, hf⟩
    · exact Or.inr ⟨rfl, List.append_ne_nil_of_left_ne_nil hf _⟩

lemma map (h : part.Reports issues) (f : α → β) : (part.map f).Reports issues := by
  rcases h with ⟨⟨a, rfl⟩, rfl⟩ | ⟨rfl, h⟩
  · exact ok (f a)
  · exact Or.inr ⟨rfl, h⟩

lemma eq_ok_iff (h : part.Reports issues) : (∃ a, part = .ok a) ↔ issues = [] := by
  rcases h with ⟨hok, hnil⟩ | ⟨rfl, hne⟩
  · exact iff_of_true hok hnil
  · exact iff_of_false (fun ⟨_, heq⟩ => by cases heq) hne

lemma eq_faulty (h : part.Reports issues) (hne : issues ≠ []) : part = .faulty issues := by
  rcases h with ⟨-, hnil⟩ | ⟨heq, -⟩
  · exact absurd hnil hne
  · exact heq

end Checked.Reports

end DockCheck.Schema
