import DockCheck.Text.CaseVariants
import DockCheck.Text.Letters
import DockCheck.Proofs.Text.Fields
import DockCheck.Proofs.Text.Trim
import DockCheck.Version
import Mathlib.Data.List.Basic

/-!
# Dotted versions

A version is dotted if it consists of groups of digits with single dots between them.  It stands
whole in a text if neither a digit nor a dot comes before it and it does not go on after it
(`IsWhole`).  Where all digits of a text belong to one dotted version, no other one stands whole
(`IsWhole.eq_of_only`).

The main statement on normal forms, `normalize_dotted`, says that the normal form of a dotted
version consists of the groups that the precision keeps.
-/

namespace DockCheck

namespace Text

/-! ### Digits -/

/-- What holds for every number in the ranges holds for one that the look-up finds. -/
lemma of_inRanges {p : Nat → Bool} {n : Nat} {ranges : List (Nat × Nat)}
    (hp : ranges.all fun range => (List.range' range.1 (range.2 + 1 - range.1)).all p)
    (h : inRanges n ranges) : p n := by
  obtain ⟨range, hmem, hlow, hhigh⟩ := exists_of_inRanges h
  have hrange := List.all_eq_true.mp hp range hmem
  refine List.all_eq_true.mp hrange n (List.mem_range'_1.mpr ⟨hlow, ?_⟩)
  omega

/-- Digits are not blank. -/
lemma not_isBlank_of_isDigit {c : Char} (h : isDigit c) : ¬ isBlank c := by
  have hall : digitRanges.all fun range =>
      (List.range' range.1 (range.2 + 1 - range.1)).all fun n => !isBlank (Char.ofNat n) := by
    decide +kernel
  simpa [Char.ofNat_toNat] using of_inRanges hall h

lemma ne_dot_of_isDigit {c : Char} (h : isDigit c) : c ≠ '.' := by
  rintro rfl
  exact absurd h (by decide)

/-- A code point that no run holds stays. -/
lemma apply_eq_self {runs : List CaseRun} {n : Nat}
    (h : ∀ run ∈ runs, n < run.first ∨ run.last < n) : CaseRun.apply runs n = n := by
  induction runs with
  | nil => rfl
  | cons run runs ih =>
    rw [CaseRun.apply]
    split
    · rfl
    · split
      · next hnot hholds =>
        simp only [CaseRun.holds, Bool.and_eq_true, decide_eq_true_eq] at hholds
        rcases h run List.mem_cons_self with hlt | hlt <;> omega
      · exact ih fun other hother => h other (List.mem_cons_of_mem run hother)

/-- Digits have no case. -/
lemma lowerCode_of_isDigit {c : Char} (h : isDigit c) : lowerCode c.toNat = c.toNat := by
  have hapart : digitRanges.all fun range => lowerRuns.all fun run =>
      range.2 < run.first || run.last < range.1 := by
    decide +kernel
  obtain ⟨range, hmem, hlow, hhigh⟩ := exists_of_inRanges h
  have hruns := List.all_eq_true.mp hapart range hmem
  refine apply_eq_self fun run hrun => ?_
  have hrange := List.all_eq_true.mp hruns run hrun
  rw [Bool.or_eq_true, decide_eq_true_eq, decide_eq_true_eq] at hrange
  rcases hrange with h | h
  · exact Or.inl (by omega)
  · exact Or.inr (by omega)

end Text

namespace Version

open Text (isDigit)

/-- A group of a version: at least one digit, and nothing else. -/
def IsGroup (group : Text) : Prop := group ≠ [] ∧ ∀ c ∈ group, isDigit c

/-- Groups of digits with single dots between them. -/
def IsDotted (version : Text) : Prop :=
  ∃ groups, groups ≠ [] ∧ (∀ group ∈ groups, IsGroup group) ∧ version = Text.join ['.'] groups

/-- A dotted version before this text would go on in it: with a digit, or with a dot and a digit. -/
def GoesOn (after : Text) : Prop :=
  (∃ d rest, after = d :: rest ∧ isDigit d) ∨ ∃ d rest, after = '.' :: d :: rest ∧ isDigit d

/-- Between the two texts the version stands whole: what comes before it ends in neither a digit nor
a dot, and it does not go on in what comes after it. -/
structure IsWhole (before version after : Text) : Prop where
  dotted : IsDotted version
  starts : ∃ c, before.getLast? = some c ∧ ¬ isDigit c ∧ c ≠ '.'
  ends : ¬ GoesOn after

variable {version other before after before' after' group : Text} {groups : List Text}
  {precision : Precision}

/-! ### Groups -/

lemma IsGroup.isDotted (h : IsGroup group) : IsDotted group :=
  ⟨[group], by simp, by simpa using h, rfl⟩

lemma IsGroup.not_mem_dot (h : IsGroup group) : '.' ∉ group :=
  fun hmem => Text.ne_dot_of_isDigit (h.2 _ hmem) rfl

lemma IsGroup.exists_cons (h : IsGroup group) : ∃ d rest, group = d :: rest ∧ isDigit d := by
  obtain ⟨d, rest, rfl⟩ := List.exists_cons_of_ne_nil h.1
  exact ⟨d, rest, rfl, h.2 d List.mem_cons_self⟩

/-- A dotted version can go on with a dot and another group. -/
lemma IsDotted.append (h : IsDotted version) (hgroup : IsGroup group) :
    IsDotted (version ++ '.' :: group) := by
  obtain ⟨groups, hne, hgroups, rfl⟩ := h
  refine ⟨groups ++ [group], by simp, ?_, ?_⟩
  · intro other hother
    rcases List.mem_append.mp hother with hother | hother
    · exact hgroups other hother
    · rwa [List.mem_singleton.mp hother]
  · rw [Text.join_append ['.'] hne (by simp)]
    simp [Text.join]

/-- A dotted version begins with a digit. -/
lemma IsDotted.exists_cons (h : IsDotted version) : ∃ d rest, version = d :: rest ∧ isDigit d := by
  obtain ⟨groups, hne, hgroups, rfl⟩ := h
  obtain ⟨group, others, rfl⟩ := List.exists_cons_of_ne_nil hne
  obtain ⟨d, rest, rfl, hd⟩ := (hgroups group List.mem_cons_self).exists_cons
  obtain ⟨more, hjoin⟩ := Text.exists_join_cons ['.'] (d :: rest) others
  exact ⟨d, rest ++ more, hjoin, hd⟩

lemma IsDotted.ne_nil (h : IsDotted version) : version ≠ [] := by
  obtain ⟨d, rest, rfl, -⟩ := h.exists_cons
  exact List.cons_ne_nil d rest

/-- The characters of a dotted version are digits and dots. -/
lemma IsDotted.isDigit_or_eq_dot (h : IsDotted version) {c : Char} (hc : c ∈ version) :
    isDigit c ∨ c = '.' := by
  obtain ⟨groups, -, hgroups, rfl⟩ := h
  induction groups with
  | nil => cases hc
  | cons group groups ih =>
    have hgroup := (hgroups group List.mem_cons_self).2
    by_cases hnil : groups = []
    · subst hnil
      exact Or.inl (hgroup c hc)
    · rw [Text.join_cons ['.'] group hnil, List.append_assoc, List.singleton_append,
        List.mem_append, List.mem_cons] at hc
      rcases hc with hc | hc | hc
      · exact Or.inl (hgroup c hc)
      · exact Or.inr hc
      · exact ih (fun other hother => hgroups other (List.mem_cons_of_mem _ hother)) hc

/-! ### Whole versions -/

lemma GoesOn.append (h : GoesOn after) (more : Text) : GoesOn (after ++ more) := by
  rcases h with ⟨d, rest, rfl, hd⟩ | ⟨d, rest, rfl, hd⟩
  · exact Or.inl ⟨d, rest ++ more, rfl, hd⟩
  · exact Or.inr ⟨d, rest ++ more, rfl, hd⟩

/-- Wherever a dotted version is cut in two, the first part goes on in the second. -/
lemma goesOn_of_isDotted_append (h : IsDotted (before ++ after)) (hbefore : before ≠ [])
    (hafter : after ≠ []) : GoesOn after := by
  obtain ⟨groups, hne, hgroups, heq⟩ := h
  induction groups generalizing before with
  | nil => exact absurd rfl hne
  | cons group groups ih =>
    have hgroup := hgroups group List.mem_cons_self
    have hothers : ∀ other ∈ groups, IsGroup other :=
      fun other hother => hgroups other (List.mem_cons_of_mem _ hother)
    -- A part that begins within the group begins with one of its digits.
    have hwithin : ∀ {part rest : Text}, group = before ++ part → part ≠ [] →
        after = part ++ rest → GoesOn after := by
      rintro part rest rfl hpart rfl
      obtain ⟨d, part, rfl⟩ := List.exists_cons_of_ne_nil hpart
      exact Or.inl ⟨d, part ++ rest, rfl, hgroup.2 d (by simp)⟩
    by_cases hnil : groups = []
    · subst hnil
      exact hwithin heq.symm hafter (List.append_nil after).symm
    · rw [Text.join_cons ['.'] group hnil, List.append_assoc, List.singleton_append] at heq
      have hdotted : IsDotted (Text.join ['.'] groups) := ⟨groups, hnil, hothers, rfl⟩
      obtain ⟨d, rest, hrest, hd⟩ := hdotted.exists_cons
      have hdot : after = '.' :: Text.join ['.'] groups → GoesOn after :=
        fun h => Or.inr ⟨d, rest, by rw [h, hrest], hd⟩
      rcases List.append_eq_append_iff.mp heq with ⟨part, hpart, hafter'⟩ | ⟨part, hpart, hrest'⟩
      · by_cases hempty : part = []
        · subst hempty
          exact hdot hafter'
        · exact hwithin hpart hempty hafter'
      · cases part with
        | nil => exact hdot hrest'.symm
        | cons c part =>
          obtain ⟨-, htail⟩ := List.cons.inj hrest'
          by_cases hempty : part = []
          · subst hempty
            exact Or.inl ⟨d, rest, by rw [← hrest, htail]; rfl, hd⟩
          · exact ih hempty hnil hothers htail.symm

/-- At one place of a text there is at most one dotted version that does not go on. -/
lemma IsDotted.eq_of_append_eq (h : IsDotted version) (hother : IsDotted other)
    (hends : ¬ GoesOn after) (hends' : ¬ GoesOn after') (heq : version ++ after = other ++ after') :
    version = other := by
  rcases List.append_eq_append_iff.mp heq with ⟨part, rfl, rfl⟩ | ⟨part, rfl, rfl⟩
  · by_cases hempty : part = []
    · simp [hempty]
    · exact absurd ((goesOn_of_isDotted_append hother h.ne_nil hempty).append _) hends
  · by_cases hempty : part = []
    · simp [hempty]
    · exact absurd ((goesOn_of_isDotted_append h hother.ne_nil hempty).append _) hends'

/-- If all digits of a text belong to one dotted version, then no other one stands whole in it. -/
lemma IsWhole.eq_of_only (h : IsWhole before version after) (hother : IsDotted other)
    (hbefore : ∀ c ∈ before', ¬ isDigit c) (hafter : ∀ c ∈ after', ¬ isDigit c)
    (heq : before ++ version ++ after = before' ++ other ++ after') : version = other := by
  obtain ⟨hdotted, ⟨c, hlast, hdigit, hdot⟩, hends⟩ := h
  obtain ⟨d, rest, hversion, hd⟩ := hdotted.exists_cons
  have hends' : ¬ GoesOn after' := by
    rintro (⟨e, others, rfl, he⟩ | ⟨e, others, rfl, he⟩)
    · exact hafter e (by simp) he
    · exact hafter e (by simp) he
  rw [List.append_assoc, List.append_assoc] at heq
  rcases List.append_eq_append_iff.mp heq with ⟨part, rfl, hrest⟩ | ⟨part, rfl, hrest⟩
  · -- The version begins in the text before the other one, which has no digits.
    cases part with
    | nil => exact hdotted.eq_of_append_eq hother hends hends' hrest
    | cons e part =>
      rw [hversion] at hrest
      obtain ⟨rfl, -⟩ := List.cons.inj hrest
      exact absurd hd (hbefore d (by simp))
  · by_cases hempty : part = []
    · subst hempty
      exact hdotted.eq_of_append_eq hother hends hends' hrest.symm
    · -- The character before the version is one of the other version, or the version begins later.
      have hc : c ∈ part := by
        rw [List.getLast?_append_of_ne_nil before' hempty] at hlast
        exact List.mem_of_getLast? hlast
      rcases List.append_eq_append_iff.mp hrest with ⟨more, hpart, hmore⟩ | ⟨more, hpart, -⟩
      · exact absurd hd (hafter d (by rw [hmore, hversion]; simp))
      · rcases hother.isDigit_or_eq_dot (hpart ▸ List.mem_append_left more hc) with h | h
        · exact absurd h hdigit
        · exact absurd h hdot

/-! ### Normal forms -/

lemma components_join (hne : groups ≠ []) (hgroups : ∀ group ∈ groups, IsGroup group) :
    components (Text.join ['.'] groups) = groups :=
  Text.fields_join hne fun group hgroup => (hgroups group hgroup).not_mem_dot

/-- A dotted version ends in a digit. -/
lemma IsDotted.exists_append (h : IsDotted version) :
    ∃ rest d, version = rest ++ [d] ∧ isDigit d := by
  obtain ⟨rest, d, rfl⟩ := (List.eq_nil_or_concat' version).resolve_left h.ne_nil
  refine ⟨rest, d, rfl, ?_⟩
  by_cases hempty : rest = []
  · subst hempty
    obtain ⟨e, others, heq, he⟩ := h.exists_cons
    obtain ⟨rfl, -⟩ := List.cons.inj heq
    exact he
  · rcases goesOn_of_isDotted_append h hempty (by simp) with
      ⟨e, others, heq, he⟩ | ⟨e, others, heq, -⟩
    · obtain ⟨rfl, -⟩ := List.cons.inj heq
      exact he
    · simp at heq

/-- Nothing is trimmed from a dotted version. -/
lemma clean_of_isDotted (h : IsDotted version) : clean version = version := by
  obtain ⟨d, rest, hfirst, hd⟩ := h.exists_cons
  obtain ⟨others, e, hlast, he⟩ := h.exists_append
  have hstarts : ∀ c, version.head? = some c → isDigit c := by
    rw [hfirst]
    rintro c ⟨⟩
    exact hd
  have hends : ∀ c, version.getLast? = some c → isDigit c := by
    rw [hlast, List.getLast?_concat]
    rintro c ⟨⟩
    exact he
  have hstrip : Text.strip version = version :=
    Text.trim_eq_self (fun c hc => Text.not_isBlank_of_isDigit (hstarts c hc))
      fun c hc => Text.not_isBlank_of_isDigit (hends c hc)
  have hdot : ∀ c, isDigit c → ¬ (c == '.') := by
    intro c hc heq
    exact Text.ne_dot_of_isDigit hc (eq_of_beq heq)
  rw [clean, hstrip, trimDots_eq_trim]
  exact Text.trim_eq_self (fun c hc => hdot c (hstarts c hc)) fun c hc => hdot c (hends c hc)

/-- The normal form of a dotted version consists of the groups that are kept. -/
lemma normalize_join (hne : groups ≠ []) (hgroups : ∀ group ∈ groups, IsGroup group) :
    normalize precision (Text.join ['.'] groups) = Text.join ['.'] (kept precision groups) := by
  rw [normalize, clean_of_isDotted ⟨groups, hne, hgroups, rfl⟩, components_join hne hgroups]

/-- At least one group is kept. -/
lemma kept_ne_nil (hne : groups ≠ []) : kept precision groups ≠ [] := by
  obtain ⟨group, others, rfl⟩ := List.exists_cons_of_ne_nil hne
  cases precision <;> simp [kept]
  split <;> simp

/-- Nothing new is kept. -/
lemma kept_sublist (precision : Precision) (groups : List Text) :
    (kept precision groups).Sublist groups := by
  cases precision with
  | exact => exact List.Sublist.refl groups
  | major => exact List.take_sublist 1 groups
  | majorMinor => exact List.take_sublist 2 groups
  | truncated =>
    dsimp only [kept]
    split
    · exact List.take_sublist 1 groups
    · exact List.Sublist.refl groups

/-- Unless all are kept, no more than two are. -/
lemma length_kept_le (h : precision ≠ .exact) (groups : List Text) :
    (kept precision groups).length ≤ 2 := by
  cases precision with
  | exact => exact absurd rfl h
  | major => exact Nat.le_trans (List.length_take_le 1 groups) (by decide)
  | majorMinor => exact List.length_take_le 2 groups
  | truncated =>
    dsimp only [kept]
    split
    · exact Nat.le_trans (List.length_take_le 1 groups) (by decide)
    · omega

/-- What is kept is all kept the next time. -/
lemma kept_kept (precision : Precision) (groups : List Text) :
    kept precision (kept precision groups) = kept precision groups := by
  cases precision with
  | exact => rfl
  | major => simp [kept, List.take_take]
  | majorMinor => simp [kept, List.take_take]
  | truncated =>
    by_cases h : 2 < groups.length
    · have hkept : kept .truncated groups = groups.take 1 := if_pos h
      have hfew : ¬ 2 < (groups.take 1).length := by
        rw [List.length_take]
        omega
      rw [hkept]
      exact if_neg hfew
    · have hkept : kept .truncated groups = groups := if_neg h
      rw [hkept, hkept]

/-- The normal form of a dotted version is dotted, has the groups that the precision keeps, and is
its own normal form. -/
theorem normalize_dotted (precision : Precision) (h : IsDotted version) :
    IsDotted (normalize precision version)
      ∧ components (normalize precision version) = kept precision (components version)
      ∧ normalize precision (normalize precision version) = normalize precision version := by
  obtain ⟨groups, hne, hgroups, rfl⟩ := h
  have hkept : ∀ group ∈ kept precision groups, IsGroup group :=
    fun group hgroup => hgroups group ((kept_sublist precision groups).subset hgroup)
  have hkeptne : kept precision groups ≠ [] := kept_ne_nil hne
  rw [normalize_join hne hgroups, components_join hne hgroups, components_join hkeptne hkept,
    normalize_join hkeptne hkept, kept_kept]
  exact ⟨⟨_, hkeptne, hkept, rfl⟩, rfl, rfl⟩

end Version

end DockCheck
