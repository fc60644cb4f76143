import DockCheck.Text
import Mathlib.Data.List.Basic
import Mathlib.Tactic.Common

/-!
# Cutting and joining

A text can be cut into its parts at every separator, and parts can be joined with a separator
between each two of them.  A stretch of a joined text that lies in none of the parts takes in a
separator (`join_cases`).  The separator itself stands in no part of a text that is cut
(`not_mem_of_mem_fields`), so that `fields_join` says that cutting undoes joining.  Where one text
begins with another one, its parts begin with those of the other only if a separator comes next
(`fields_prefix_fields_iff`).
-/

namespace DockCheck.Text

variable {separator : Char} {part t u : Text} {parts others : List Text}

/-! ### Joining -/

/-- Joining texts is to put the separator between each two of them. -/
lemma join_eq_intercalate (separator : Text) (parts : List Text) :
    join separator parts = separator.intercalate parts := by
  induction parts with
  | nil => rfl
  | cons part parts ih =>
    cases parts with
    | nil => simp [join, List.intercalate]
    | cons next others =>
      rw [join, ih]
      · simp [List.intercalate, List.intersperse]
      · simp

lemma join_cons (separator part : Text) (h : parts ≠ []) :
    join separator (part :: parts) = part ++ separator ++ join separator parts := by
  cases parts with
  | nil => exact absurd rfl h
  | cons next others => rfl

/-- A joined text begins with the first part. -/
lemma exists_join_cons (separator part : Text) (parts : List Text) :
    ∃ rest, join separator (part :: parts) = part ++ rest := by
  by_cases hnil : parts = []
  · exact ⟨[], by simp [hnil, join]⟩
  · exact ⟨_, by rw [join_cons separator part hnil, List.append_assoc]⟩

lemma join_append (separator : Text) (hparts : parts ≠ []) (hothers : others ≠ []) :
    join separator (parts ++ others)
      = join separator parts ++ separator ++ join separator others := by
  induction parts with
  | nil => exact absurd rfl hparts
  | cons part parts ih =>
    by_cases hnil : parts = []
    · subst hnil
      exact join_cons separator part hothers
    · have happend : parts ++ others ≠ [] := fun h => hnil (List.append_eq_nil_iff.mp h).1
      rw [List.cons_append, join_cons separator part happend, join_cons separator part hnil,
        ih hnil]
      simp only [List.append_assoc]

/-- A joined text ends with the last part. -/
lemma exists_join_concat (separator : Text) (parts : List Text) (part : Text) :
    ∃ before, join separator (parts ++ [part]) = before ++ part := by
  by_cases hnil : parts = []
  · exact ⟨[], by simp [hnil, join]⟩
  · exact ⟨_, join_append separator hnil (List.cons_ne_nil part [])⟩

/-- A joined text goes on if parts are added. -/
lemma join_prefix_join_append (separator : Text) (parts others : List Text) :
    join separator parts <+: join separator (parts ++ others) := by
  by_cases hparts : parts = []
  · rw [hparts]
    exact List.nil_prefix
  by_cases hothers : others = []
  · simp [hothers]
  · rw [join_append separator hparts hothers, List.append_assoc]
    exact List.prefix_append _ _

/-- A list of parts is joined within every longer list, from the start or behind a separator. -/
lemma exists_join_append (separator : Char) (first last : List Text) (hne : parts ≠ []) :
    ∃ before after, join [separator] (first ++ parts ++ last)
        = before ++ join [separator] parts ++ after
      ∧ ∀ c ∈ before.getLast?, c = separator := by
  obtain ⟨after, hafter⟩ := join_prefix_join_append [separator] parts last
  by_cases hfirst : first = []
  · subst hfirst
    exact ⟨[], after, hafter.symm, nofun⟩
  · have hrest : parts ++ last ≠ [] := fun h => hne (List.append_eq_nil_iff.mp h).1
    refine ⟨join [separator] first ++ [separator], after, ?_, by simp⟩
    rw [List.append_assoc, join_append [separator] hfirst hrest, ← hafter]
    simp only [List.append_assoc]

lemma length_join_cons (separator : Char) (part : Text) (hne : parts ≠ []) :
    (join [separator] (part :: parts)).length
      = part.length + 1 + (join [separator] parts).length := by
  rw [join_cons [separator] part hne]
  simp only [List.length_append, List.length_singleton]

/-- A stretch of a joined text lies in one of the parts, or it takes in the separator between two of
them. -/
lemma join_cases {n m : Nat} (hne : parts ≠ []) (hle : n ≤ m)
    (hm : m ≤ (join [separator] parts).length) :
    (∃ before part after, part ∈ parts ∧ join [separator] parts = before ++ part ++ after
        ∧ (∀ c ∈ before.getLast?, c = separator)
        ∧ before.length ≤ n ∧ m ≤ before.length + part.length)
      ∨ ∃ earlier later, parts = earlier ++ later ∧ earlier ≠ [] ∧ later ≠ []
        ∧ n ≤ (join [separator] earlier).length ∧ (join [separator] earlier).length < m := by
  induction parts generalizing n m with
  | nil => exact absurd rfl hne
  | cons part parts ih =>
    by_cases hnil : parts = []
    · subst hnil
      have hm : m ≤ part.length := hm
      exact Or.inl ⟨[], part, [], by simp, by simp [join], nofun, Nat.zero_le n, by simpa using hm⟩
    rcases Nat.lt_or_ge part.length m with hend | hend
    · rcases Nat.lt_or_ge part.length n with hstart | hstart
      · -- The stretch lies behind the first part and its separator.
        rw [length_join_cons separator part hnil] at hm
        rcases ih hnil (n := n - (part.length + 1)) (m := m - (part.length + 1)) (by omega)
          (by omega) with
          ⟨before, other, after, hmem, heq, hlast, hbefore, hother⟩
            | ⟨earlier, later, rfl, hearlier, hlater, hn, hm'⟩
        · refine Or.inl ⟨part ++ separator :: before, other, after, List.mem_cons_of_mem part hmem,
            ?_, ?_, ?_, ?_⟩
          · rw [join_cons [separator] part hnil, heq]
            simp
          · cases before with
            | nil => simp
            | cons b before => simpa using hlast
          · rw [List.length_append, List.length_cons]
            omega
          · rw [List.length_append, List.length_cons]
            omega
        · refine Or.inr ⟨part :: earlier, later, rfl, by simp, hlater, ?_, ?_⟩
          · rw [length_join_cons separator part hearlier]
            omega
          · rw [length_join_cons separator part hearlier]
            omega
      · exact Or.inr ⟨[part], parts, rfl, by simp, hnil, hstart, hend⟩
    · refine Or.inl ⟨[], part, [separator] ++ join [separator] parts, List.mem_cons_self, ?_, nofun,
        Nat.zero_le n, by simpa using hend⟩
      rw [join_cons [separator] part hnil, List.nil_append, List.append_assoc]

/-! ### Cutting -/

/-- No part of a text has the separator in it. -/
lemma not_mem_of_mem_fields (h : part ∈ fields separator t) : separator ∉ part := by
  induction t generalizing part with
  | nil =>
    rw [fields, List.mem_singleton] at h
    simp [h]
  | cons c rest ih =>
    rw [fields] at h
    split at h
    · rcases List.mem_cons.mp h with rfl | h
      · exact List.not_mem_nil
      · exact ih h
    · next hc =>
      cases hfields : fields separator rest with
      | nil => exact absurd hfields (fields_ne_nil separator rest)
      | cons first others =>
        rw [hfields] at h ih
        rcases List.mem_cons.mp h with rfl | h
        · have hfirst : separator ∉ first := ih List.mem_cons_self
          simpa using ⟨Ne.symm hc, hfirst⟩
        · exact ih (List.mem_cons_of_mem first h)

/-- The parts of a text have no other characters than the text. -/
lemma mem_of_mem_fields {c : Char} (h : part ∈ fields separator t) (hc : c ∈ part) : c ∈ t := by
  induction t generalizing part with
  | nil =>
    rw [fields, List.mem_singleton] at h
    rw [h] at hc
    exact hc
  | cons d rest ih =>
    rw [fields] at h
    split at h
    · rcases List.mem_cons.mp h with rfl | h
      · cases hc
      · exact List.mem_cons_of_mem d (ih h hc)
    · cases hfields : fields separator rest with
      | nil => exact absurd hfields (fields_ne_nil separator rest)
      | cons first others =>
        rw [hfields] at h ih
        rcases List.mem_cons.mp h with rfl | h
        · rcases List.mem_cons.mp hc with rfl | hc
          · exact List.mem_cons_self
          · exact List.mem_cons_of_mem d (ih List.mem_cons_self hc)
        · exact List.mem_cons_of_mem d (ih (List.mem_cons_of_mem first h) hc)

/-- A separator ends the parts of the text before it and begins those of the text behind it. -/
lemma fields_append (separator : Char) (t u : Text) :
    fields separator (t ++ separator :: u) = fields separator t ++ fields separator u := by
  induction t with
  | nil => simp [fields]
  | cons c t ih =>
    rw [List.cons_append, fields, fields, ih]
    cases hfields : fields separator t with
    | nil => exact absurd hfields (fields_ne_nil separator t)
    | cons part parts => split <;> rfl

lemma fields_of_not_mem (h : separator ∉ part) : fields separator part = [part] := by
  induction part with
  | nil => rfl
  | cons c part ih =>
    obtain ⟨hc, hpart⟩ := not_or.mp (List.mem_cons.not.mp h)
    rw [fields, if_neg (Ne.symm hc), ih hpart]

lemma fields_append_cons (h : separator ∉ part) (t : Text) :
    fields separator (part ++ separator :: t) = part :: fields separator t := by
  rw [fields_append, fields_of_not_mem h, List.singleton_append]

/-- Cutting what was joined gives the parts back, if none of them has the separator. -/
lemma fields_join (hne : parts ≠ []) (h : ∀ part ∈ parts, separator ∉ part) :
    fields separator (join [separator] parts) = parts := by
  induction parts with
  | nil => exact absurd rfl hne
  | cons part parts ih =>
    have hpart : separator ∉ part := h part List.mem_cons_self
    by_cases hnil : parts = []
    · subst hnil
      exact fields_of_not_mem hpart
    · rw [join_cons [separator] part hnil, List.append_assoc, List.singleton_append,
        fields_append_cons hpart, ih hnil fun other hother => h other
          (List.mem_cons_of_mem _ hother)]

/-- The parts of a text begin with those of another one exactly if the text is the other one, or
goes on with the separator behind it. -/
lemma fields_prefix_fields_iff :
    fields separator t <+: fields separator u ↔ u = t ∨ ∃ rest, u = t ++ separator :: rest := by
  constructor
  · rintro ⟨more, hmore⟩
    have hjoin : join [separator] (fields separator t ++ more) = u := by
      rw [hmore, join_fields]
    by_cases hnil : more = []
    · rw [hnil, List.append_nil, join_fields] at hjoin
      exact Or.inl hjoin.symm
    · rw [join_append [separator] (fields_ne_nil separator t) hnil, join_fields, List.append_assoc,
        List.singleton_append] at hjoin
      exact Or.inr ⟨join [separator] more, hjoin.symm⟩
  · rintro (rfl | ⟨rest, rfl⟩)
    · exact List.prefix_rfl
    · rw [fields_append]
      exact List.prefix_append _ _

end DockCheck.Text
