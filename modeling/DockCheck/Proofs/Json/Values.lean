import DockCheck.Json.Reader
import Mathlib.Tactic.Common

/-!
# The values of JSON

Data come from several notations, and JSON has only some of the values that data can have: it has no
bytes, no values in no order and no dates, and an object has each of its keys once, as the last of
several members under one key counts.  `Data.IsJson` says so of a value and of all values in it, and
`isJson_of_read` that reading a JSON document gives nothing else.
-/

namespace DockCheck

/-- The value is one that JSON has, and so are the values in it. -/
inductive Data.IsJson : Data → Prop where
  | null : IsJson .null
  | bool (b : Bool) : IsJson (.bool b)
  | int (n : Int) : IsJson (.int n)
  | float (decimal : Text) : IsJson (.float decimal)
  | text (t : Text) : IsJson (.text t)
  | list {items : List Data} (h : ∀ item ∈ items, IsJson item) : IsJson (.list items)
  | table {entries : List (Text × Data)} (hkeys : (entries.map Prod.fst).Nodup)
    (h : ∀ entry ∈ entries, IsJson entry.2) : IsJson (.table entries)

section PutEntry

variable {α : Type} {key : Text} {value : α} {entries : List (Text × α)}

lemma mem_putEntry {entry : Text × α} (h : entry ∈ putEntry key value entries) :
    entry = (key, value) ∨ entry ∈ entries := by
  induction entries with
  | nil => exact Or.inl (List.mem_singleton.mp h)
  | cons first entries ih =>
    obtain ⟨other, old⟩ := first
    unfold putEntry at h
    split at h
    · rcases List.mem_cons.mp h with heq | hmem
      · exact Or.inl heq
      · exact Or.inr (List.mem_cons_of_mem _ hmem)
    · rcases List.mem_cons.mp h with rfl | hmem
      · exact Or.inr List.mem_cons_self
      · rcases ih hmem with heq | hmem
        · exact Or.inl heq
        · exact Or.inr (List.mem_cons_of_mem _ hmem)

/-- Putting an entry in keeps the keys apart. -/
lemma nodup_putEntry (h : (entries.map Prod.fst).Nodup) :
    ((putEntry key value entries).map Prod.fst).Nodup := by
  induction entries with
  | nil => exact List.nodup_cons.mpr ⟨List.not_mem_nil, List.nodup_nil⟩
  | cons first entries ih =>
    obtain ⟨other, old⟩ := first
    obtain ⟨hother, hentries⟩ := List.nodup_cons.mp h
    unfold putEntry
    split
    · next heq =>
      subst heq
      exact List.nodup_cons.mpr ⟨hother, hentries⟩
    · next hne =>
      refine List.nodup_cons.mpr ⟨?_, ih hentries⟩
      intro hmem
      obtain ⟨entry, hentry, hfirst⟩ := List.mem_map.mp hmem
      rcases mem_putEntry hentry with rfl | hentry
      · exact hne hfirst.symm
      · exact hother (List.mem_map.mpr ⟨entry, hentry, hfirst⟩)

end PutEntry

section Lookup

variable {entries others extra : List (Text × Data)} {key : Text}

/-- Where the keys are distinct, the value under a key is that of its one entry. -/
lemma lookup_eq_some_iff_mem (hkeys : (entries.map Prod.fst).Nodup) {value : Data} :
    entries.lookup key = some value ↔ (key, value) ∈ entries := by
  induction entries with
  | nil => simp
  | cons entry entries ih =>
    obtain ⟨other, old⟩ := entry
    obtain ⟨hother, hentries⟩ := List.nodup_cons.mp hkeys
    by_cases heq : key = other
    · subst heq
      have hmem : (key, value) ∉ entries := fun h => hother (List.mem_map.mpr ⟨_, h, rfl⟩)
      simp [hmem, eq_comm]
    · have hne : (key == other) = false := by simpa using heq
      simp [List.lookup_cons, hne, heq, ih hentries]

lemma lookup_eq_of_perm (h : others.Perm entries) (hkeys : (others.map Prod.fst).Nodup) :
    others.lookup key = entries.lookup key := by
  have hkeys' : (entries.map Prod.fst).Nodup := (h.map Prod.fst).nodup hkeys
  apply Option.ext
  intro value
  rw [lookup_eq_some_iff_mem hkeys, lookup_eq_some_iff_mem hkeys', h.mem_iff]

/-- Entries under other keys do not show. -/
lemma lookup_append_of_ne (h : ∀ entry ∈ extra, entry.1 ≠ key) :
    (entries ++ extra).lookup key = entries.lookup key := by
  have hnone : extra.lookup key = none := by
    rw [List.lookup_eq_none_iff]
    intro entry hmem
    simpa using (h entry hmem).symm
  rw [List.lookup_append, hnone, Option.or_none]

end Lookup

namespace Json

/-- The entries can be those of an object. -/
structure AreMembers (entries : List (Text × Data)) : Prop where
  nodup : (entries.map Prod.fst).Nodup
  isJson : ∀ entry ∈ entries, entry.2.IsJson

namespace AreMembers

lemma nil : AreMembers [] := ⟨List.nodup_nil, nofun⟩

lemma putEntry {entries : List (Text × Data)} (h : AreMembers entries) (key : Text) {value : Data}
    (hvalue : value.IsJson) : AreMembers (putEntry key value entries) where
  nodup := nodup_putEntry h.nodup
  isJson := by
    intro entry hmem
    rcases mem_putEntry hmem with rfl | hmem
    · exact hvalue
    · exact h.isJson entry hmem

lemma table {entries : List (Text × Data)} (h : AreMembers entries) :
    (Data.table entries).IsJson := .table h.nodup h.isJson

end AreMembers

/-! ### What the readers give -/

/-- What the reader gives in front of the text that is left, if it gives anything, has the
property. -/
def GivesOnly {α : Type} (P : α → Prop) (outcome : Except Fault (α × Text)) : Prop :=
  ∀ a left, outcome = .ok (a, left) → P a

namespace GivesOnly

variable {α β : Type} {P : α → Prop} {Q : β → Prop}

lemma ok {a : α} {left : Text} (h : P a) : GivesOnly P (.ok (a, left)) := by
  rintro _ _ heq
  cases heq
  exact h

lemma error (fault : Fault) : GivesOnly P (.error fault) := nofun

lemma failAt (problem : Problem) (left : Text) : GivesOnly P (failAt problem left) := nofun

lemma bind {outcome : Except Fault (α × Text)} {next : α × Text → Except Fault (β × Text)}
    (h : GivesOnly P outcome) (hnext : ∀ a left, P a → GivesOnly Q (next (a, left))) :
    GivesOnly Q (outcome >>= next) := by
  cases outcome with
  | error fault => exact error fault
  | ok found =>
    obtain ⟨a, left⟩ := found
    exact hnext a left (h a left rfl)

/-- Nothing need be known of what the first reader gives. -/
lemma bind_any {outcome : Except Fault (α × Text)} {next : α × Text → Except Fault (β × Text)}
    (hnext : ∀ a left, GivesOnly Q (next (a, left))) : GivesOnly Q (outcome >>= next) :=
  bind (P := fun _ => True) (fun _ _ _ => trivial) fun a left _ => hnext a left

end GivesOnly

lemma givesOnly_readNumber (negative : Bool) (start t : Text) :
    GivesOnly Data.IsJson (readNumber negative start t) := by
  unfold readNumber
  dsimp only
  split
  · exact .failAt _ _
  · split
    · split
      · exact .error _
      · exact .ok (.int _)
    · exact .ok (.float _)

lemma isJson_of_readWord? {t : Text} {found : Data × Text} (h : readWord? t = some found) :
    found.1.IsJson := by
  have hwords : ∀ entry ∈ words, entry.2.IsJson := by
    intro entry hmem
    simp only [words, List.mem_cons, List.not_mem_nil, or_false] at hmem
    rcases hmem with rfl | rfl | rfl | rfl | rfl | rfl
    exacts [.null, .bool _, .bool _, .float _, .float _, .float _]
  obtain ⟨⟨word, value⟩, hmem, hword⟩ := List.exists_of_findSome?_eq_some h
  have hvalue := hwords _ hmem
  dsimp only at hword
  split at hword
  · cases hword
    exact hvalue
  · cases hword

/-- The readers of values, of members and of items, which call each other with less fuel, give
values of JSON. -/
lemma givesOnly_readers (fuel : Nat) :
    (∀ room t, GivesOnly Data.IsJson (readValue fuel room t))
      ∧ (∀ room entries t, AreMembers entries →
        GivesOnly AreMembers (readMembers fuel room entries t))
      ∧ ∀ room t, GivesOnly (fun items => ∀ item ∈ items, item.IsJson) (readItems fuel room t) := by
  induction fuel with
  | zero =>
    refine ⟨fun room t => ?_, fun room entries t _ => ?_, fun room t => ?_⟩
    · unfold readValue
      exact .failAt _ _
    · unfold readMembers
      exact .failAt _ _
    · unfold readItems
      exact .failAt _ _
  | succ fuel ih =>
    obtain ⟨hvalue, hmembers, hitems⟩ := ih
    refine ⟨fun room t => ?_, fun room entries t hentries => ?_, fun room t => ?_⟩
    · unfold readValue
      split
      · exact .failAt _ _
      · exact .bind_any fun word _ => .ok (.text word)
      · exact .error _
      · split
        · exact .ok AreMembers.nil.table
        · exact (hmembers _ _ _ .nil).bind fun _ _ h => .ok h.table
      · exact .error _
      · split
        · exact .ok (.list nofun)
        · exact (hitems _ _).bind fun _ _ h => .ok (.list h)
      · split
        · next found hfound => exact .ok (isJson_of_readWord? hfound)
        · split
          · exact givesOnly_readNumber _ _ _
          · exact givesOnly_readNumber _ _ _
    · unfold readMembers
      dsimp only
      split
      · refine .bind_any fun key _ => ?_
        split
        · refine (hvalue _ _).bind fun value _ hjson => ?_
          have hentries' := hentries.putEntry key hjson
          split
          · exact .ok hentries'
          · exact hmembers _ _ _ hentries'
          · exact .failAt _ _
        · exact .failAt _ _
      · exact .failAt _ _
    · unfold readItems
      refine (hvalue _ _).bind fun item _ hjson => ?_
      dsimp only
      split
      · exact .ok fun other hmem => List.mem_singleton.mp hmem ▸ hjson
      · refine (hitems _ _).bind fun items _ hrest => ?_
        exact .ok (List.forall_mem_cons.mpr ⟨hjson, hrest⟩)
      · exact .failAt _ _

/-- Reading a document gives a value of JSON. -/
theorem isJson_of_read {document : Text} {value : Data} (h : read document = .ok value) :
    value.IsJson := by
  unfold read at h
  split at h
  · cases h
  · have hgives := (givesOnly_readers (2 * document.length + 2)).1 nestingLimit
      (skipSpace document)
    cases hread : readValue (2 * document.length + 2) nestingLimit (skipSpace document) with
    | error fault =>
      rw [hread] at h
      cases h
    | ok found =>
      obtain ⟨first, left⟩ := found
      have hjson := hgives first left hread
      rw [hread] at h
      dsimp only [bind, Except.bind] at h
      split at h
      · cases h
        exact hjson
      · cases h

end Json

end DockCheck
