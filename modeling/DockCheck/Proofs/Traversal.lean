import Mathlib.Data.List.Forall2
import Mathlib.Tactic.Common

/-!
# Walks along lists

A walk along a list stops at the first member that is of interest.  `Reaches pass stop l` says that
it comes to a member with `stop` over members with `pass` only, and `reaches_cons` says so step by
step.  A traversal that can fail is such a walk: `mapM_eq_error_iff` says which failure it ends in,
and `mapM_eq_ok_iff` what it gives if it does not fail.  The search of a value by its name is a
walk, too (`find?_name_eq_some_iff`).
-/

namespace DockCheck

variable {α β ε : Type}

/-- Over members with `pass` only, a walk along the list comes to one with `stop`. -/
def Reaches (pass stop : α → Prop) (l : List α) : Prop :=
  ∃ before a after, l = before ++ a :: after ∧ (∀ b ∈ before, pass b) ∧ stop a

lemma not_reaches_nil (pass stop : α → Prop) : ¬ Reaches pass stop [] := by
  rintro ⟨before, a, after, h, -⟩
  simp at h

/-- A walk stops at the first member, or passes it and goes on. -/
lemma reaches_cons {pass stop : α → Prop} {a : α} {l : List α} :
    Reaches pass stop (a :: l) ↔ stop a ∨ (pass a ∧ Reaches pass stop l) := by
  constructor
  · rintro ⟨before, b, after, h, hbefore, hstop⟩
    cases before with
    | nil =>
      obtain ⟨rfl, -⟩ := List.cons.inj h
      exact Or.inl hstop
    | cons c before =>
      obtain ⟨rfl, rfl⟩ := List.cons.inj h
      exact Or.inr ⟨hbefore a List.mem_cons_self, before, b, after, rfl,
        fun d hd => hbefore d (List.mem_cons_of_mem a hd), hstop⟩
  · rintro (hstop | ⟨hpass, before, b, after, rfl, hbefore, hstop⟩)
    · exact ⟨[], a, l, rfl, nofun, hstop⟩
    · refine ⟨a :: before, b, after, rfl, ?_, hstop⟩
      intro d hd
      rcases List.mem_cons.mp hd with rfl | hd
      · exact hpass
      · exact hbefore d hd

/-- A walk stops at a member of the list. -/
lemma Reaches.exists_mem {pass stop : α → Prop} {l : List α} (h : Reaches pass stop l) :
    ∃ a ∈ l, stop a := by
  obtain ⟨before, a, after, rfl, -, ha⟩ := h
  exact ⟨a, by simp, ha⟩

/-- If members with `pass` or `stop` are all that there are, a walk comes to one with `stop` as soon
as the list has one. -/
lemma reaches_of_exists_mem {pass stop : α → Prop} {l : List α} (h : ∃ a ∈ l, stop a)
    (hall : ∀ a ∈ l, pass a ∨ stop a) : Reaches pass stop l := by
  induction l with
  | nil => simp at h
  | cons a l ih =>
    rw [reaches_cons]
    rcases hall a List.mem_cons_self with hpass | hstop
    · by_cases ha : stop a
      · exact Or.inl ha
      · obtain ⟨b, hb, hstop⟩ := h
        have hmem : b ∈ l := by
          rcases List.mem_cons.mp hb with rfl | hmem
          · exact absurd hstop ha
          · exact hmem
        exact Or.inr ⟨hpass, ih ⟨b, hmem, hstop⟩ fun c hc => hall c (List.mem_cons_of_mem a hc)⟩
    · exact Or.inl hstop

/-- If every member has a counterpart, the list has one. -/
lemma exists_forall₂ {R : α → β → Prop} {l : List α} (h : ∀ a ∈ l, ∃ b, R a b) :
    ∃ others, List.Forall₂ R l others := by
  induction l with
  | nil => exact ⟨[], .nil⟩
  | cons a l ih =>
    obtain ⟨b, hb⟩ := h a List.mem_cons_self
    obtain ⟨others, hothers⟩ := ih fun c hc => h c (List.mem_cons_of_mem a hc)
    exact ⟨b :: others, .cons hb hothers⟩

/-- If whatever corresponds to a member brings a better counterpart of the member with it, a list
that corresponds brings a list of them. -/
lemma exists_forall₂_of_forall₂ {γ : Type} {R : α → β → Prop} {S : α → γ → Prop}
    {better : γ → β → Prop} {l : List α} {values : List β} (h : List.Forall₂ R l values)
    (hbetter : ∀ a b, R a b → ∃ c, S a c ∧ better c b) :
    ∃ others, List.Forall₂ S l others ∧ List.Forall₂ better others values := by
  induction h with
  | nil => exact ⟨[], .nil, .nil⟩
  | cons hab _ ih =>
    obtain ⟨c, hc, hcb⟩ := hbetter _ _ hab
    obtain ⟨others, hothers, hvalues⟩ := ih
    exact ⟨c :: others, .cons hc hothers, .cons hcb hvalues⟩

/-- A traversal gives values exactly if it gives one for each member in turn. -/
lemma mapM_eq_ok_iff {f : α → Except ε β} {l : List α} {values : List β} :
    l.mapM f = .ok values ↔ List.Forall₂ (fun a b => f a = .ok b) l values := by
  induction l generalizing values with
  | nil => cases values <;> simp [Pure.pure, Except.pure]
  | cons a l ih =>
    rw [List.mapM_cons]
    cases ha : f a with
    | error e => cases values <;> simp [Bind.bind, Except.bind, ha]
    | ok b =>
      cases hl : l.mapM f with
      | error e => cases values <;> simp [Bind.bind, Except.bind, ← ih, hl, ha]
      | ok others =>
        cases values <;> simp [Bind.bind, Except.bind, Pure.pure, Except.pure, ← ih, hl, ha]

/-- A traversal fails exactly with the failure of a member before which none fails. -/
lemma mapM_eq_error_iff {f : α → Except ε β} {l : List α} {e : ε} :
    l.mapM f = .error e ↔ Reaches (fun a => ∃ b, f a = .ok b) (fun a => f a = .error e) l := by
  induction l with
  | nil => simp [not_reaches_nil, Pure.pure, Except.pure]
  | cons a l ih =>
    rw [List.mapM_cons, reaches_cons, ← ih]
    cases ha : f a with
    | error e' => simp [Bind.bind, Except.bind]
    | ok b => cases hl : l.mapM f <;> simp [Bind.bind, Except.bind, Pure.pure, Except.pure]

/-- Traversals that agree on the members agree on the list. -/
lemma mapM_congr {f g : α → Except ε β} {l : List α} (h : ∀ a ∈ l, f a = g a) :
    l.mapM f = l.mapM g := by
  induction l with
  | nil => rfl
  | cons a l ih =>
    rw [List.forall_mem_cons] at h
    rw [List.mapM_cons, List.mapM_cons, h.1, ih h.2]

section Names

variable {all : List α} {name : α → β} [BEq β]
  (hall : ∀ a, (all.find? fun b => name b == name a) = some a)

include hall

/-- If every value is found by its name, a name leads to the value that has it. -/
lemma find?_name_eq_some_iff [LawfulBEq β] {t : β} {a : α} :
    (all.find? fun b => name b == t) = some a ↔ name a = t := by
  constructor
  · intro h
    simpa using List.find?_some h
  · rintro rfl
    exact hall a

/-- Values that are found by their names have different ones. -/
lemma name_injective : Function.Injective name := by
  intro a b h
  have hfound := hall a
  rw [h, hall] at hfound
  exact (Option.some.inj hfound).symm

end Names

/-- If the members of two lists correspond, all of the one have a property exactly if all of the
other have the corresponding one. -/
lemma forall_mem_iff_of_forall₂ {R : α → β → Prop} {P : α → Prop} {Q : β → Prop} {l : List α}
    {others : List β} (h : List.Forall₂ R l others) (hPQ : ∀ a b, R a b → (P a ↔ Q b)) :
    (∀ a ∈ l, P a) ↔ ∀ b ∈ others, Q b := by
  induction h with
  | nil => simp
  | cons hab _ ih => rw [List.forall_mem_cons, List.forall_mem_cons, hPQ _ _ hab, ih]

end DockCheck
