import DockCheck.Text.Blank
import DockCheck.Version
import Mathlib.Data.List.DropRight
import Mathlib.Tactic.Common

/-!
# Trimming

Both the white space around a text and the dots around a version are taken away at the two ends
only.  `IsTrim p t core` says what is left of a text without the characters of one kind at its ends,
and `trim_eq_iff` that this is `trim p t` and nothing else.
-/

namespace DockCheck

namespace Text

/-- A text without the characters of a kind at its two ends. -/
def trim (p : Char → Bool) (t : Text) : Text := (t.dropWhile p).rdropWhile p

lemma strip_eq_trim (t : Text) : strip t = trim isBlank t := rfl

/-- The text is `core` between characters of the kind, and `core` neither begins nor ends with one
of them. -/
structure IsTrim (p : Char → Bool) (t core : Text) : Prop where
  cut : ∃ before after, t = before ++ core ++ after ∧ (∀ c ∈ before, p c) ∧ ∀ c ∈ after, p c
  starts : ∀ c, core.head? = some c → ¬ p c
  ends : ∀ c, core.getLast? = some c → ¬ p c

variable {p : Char → Bool} {t w rest core : Text}

/-- The characters of a kind at the start of a text end where another character comes. -/
lemma takeWhile_append_of_head? (hw : ∀ c ∈ w, p c) (hrest : ∀ c, rest.head? = some c → ¬ p c) :
    (w ++ rest).takeWhile p = w := by
  have hnil : rest.takeWhile p = [] := by
    cases rest with
    | nil => rfl
    | cons c rest => exact List.takeWhile_cons_of_neg (hrest c rfl)
  rw [List.takeWhile_append_of_pos hw, hnil, List.append_nil]

lemma dropWhile_append_of_head? (hw : ∀ c ∈ w, p c) (hrest : ∀ c, rest.head? = some c → ¬ p c) :
    (w ++ rest).dropWhile p = rest := by
  rw [List.dropWhile_append_of_pos hw]
  cases rest with
  | nil => rfl
  | cons c rest => exact List.dropWhile_cons_of_neg (hrest c rfl)

/-- A text without the characters of a kind at its start does not begin with one. -/
lemma not_of_head?_dropWhile {c : Char} (h : (t.dropWhile p).head? = some c) : ¬ p c := by
  have hfirst := List.head?_dropWhile_not p t
  rw [h] at hfirst
  exact Bool.eq_false_iff.mp hfirst

/-- What is left begins with no text of characters of the kind but the empty one. -/
lemma IsTrim.eq_nil_of_starts {gap : Text} (h : IsTrim p t (gap ++ rest))
    (hgap : ∀ c ∈ gap, p c) : gap = [] := by
  cases gap with
  | nil => rfl
  | cons c gap => exact absurd (hgap c List.mem_cons_self) (h.starts c rfl)

/-- What is left ends with no text of characters of the kind but the empty one. -/
lemma IsTrim.eq_nil_of_ends {body gap : Text} (h : IsTrim p t (body ++ gap))
    (hgap : ∀ c ∈ gap, p c) : gap = [] := by
  by_contra hne
  have hlast : (body ++ gap).getLast? = some (gap.getLast hne) := by
    rw [List.getLast?_append_of_ne_nil body hne, List.getLast?_eq_some_getLast hne]
  exact h.ends _ hlast (hgap _ (List.getLast_mem hne))

lemma isTrim_trim (p : Char → Bool) (t : Text) : IsTrim p t (trim p t) := by
  have hright : trim p t ++ (t.dropWhile p).rtakeWhile p = t.dropWhile p :=
    List.rdropWhile_append_rtakeWhile
  have hcut : t = t.takeWhile p ++ trim p t ++ (t.dropWhile p).rtakeWhile p := by
    rw [List.append_assoc, hright, List.takeWhile_append_dropWhile]
  refine ⟨⟨_, _, hcut, fun c => List.mem_takeWhile_imp, fun c => List.mem_rtakeWhile_imp⟩,
    fun c hc => ?_, fun c hc => ?_⟩
  · -- The first character that is left is the first behind those that are dropped at the start.
    obtain ⟨rest, hrest⟩ := List.head?_eq_some_iff.mp hc
    have hfirst : (t.dropWhile p).head? = some c := by
      rw [← hright, hrest]
      rfl
    exact not_of_head?_dropWhile hfirst
  · have hne : trim p t ≠ [] := by
      rintro hnil
      rw [hnil] at hc
      cases hc
    rw [List.getLast?_eq_some_getLast hne] at hc
    obtain rfl := Option.some.inj hc
    exact List.rdropWhile_last_not p (t.dropWhile p) hne

/-- What is left of a text is settled by what it is left of. -/
lemma IsTrim.trim_eq (h : IsTrim p t core) : trim p t = core := by
  obtain ⟨⟨before, after, rfl, hbefore, hafter⟩, hstarts, hends⟩ := h
  cases core with
  | nil =>
    have hall : ∀ c ∈ before ++ [] ++ after, p c := by
      intro c hc
      rw [List.append_nil, List.mem_append] at hc
      exact hc.elim (hbefore c) (hafter c)
    rw [trim, List.dropWhile_eq_nil_iff.mpr hall, List.rdropWhile_nil]
  | cons d more =>
    have hleft : (before ++ (d :: more ++ after)).dropWhile p = d :: more ++ after :=
      dropWhile_append_of_head? hbefore hstarts
    have hlast : ∀ c, (d :: more).reverse.head? = some c → ¬ p c := by
      intro c hc
      rw [List.head?_reverse] at hc
      exact hends c hc
    have hright : (after.reverse ++ (d :: more).reverse).dropWhile p = (d :: more).reverse :=
      dropWhile_append_of_head? (by simpa using hafter) hlast
    rw [trim, List.append_assoc, hleft, List.rdropWhile, List.reverse_append, hright,
      List.reverse_reverse]

lemma trim_eq_iff : trim p t = core ↔ IsTrim p t core := by
  constructor
  · rintro rfl
    exact isTrim_trim p t
  · exact IsTrim.trim_eq

/-- Nothing is left exactly if all characters are of the kind. -/
lemma trim_eq_nil_iff : trim p t = [] ↔ ∀ c ∈ t, p c := by
  rw [trim_eq_iff]
  constructor
  · rintro ⟨⟨before, after, rfl, hbefore, hafter⟩, -, -⟩ c hc
    rw [List.append_nil, List.mem_append] at hc
    exact hc.elim (hbefore c) (hafter c)
  · intro hall
    exact ⟨⟨t, [], by simp, hall, nofun⟩, nofun, nofun⟩

/-- A text that neither begins nor ends with a character of the kind is left as it is. -/
lemma trim_eq_self (hstarts : ∀ c, t.head? = some c → ¬ p c)
    (hends : ∀ c, t.getLast? = some c → ¬ p c) : trim p t = t :=
  IsTrim.trim_eq ⟨⟨[], [], by simp, nofun, nofun⟩, hstarts, hends⟩

lemma trim_of_forall_not (h : ∀ c ∈ t, ¬ p c) : trim p t = t :=
  trim_eq_self (fun c hc => h c (List.mem_of_head? hc)) fun c hc => h c (List.mem_of_getLast? hc)

/-- What is left of a text is left of itself. -/
lemma trim_trim (p : Char → Bool) (t : Text) : trim p (trim p t) = trim p t :=
  trim_eq_self (isTrim_trim p t).starts (isTrim_trim p t).ends

lemma strip_strip (t : Text) : strip (strip t) = strip t := trim_trim isBlank t

lemma length_trim_le (p : Char → Bool) (t : Text) : (trim p t).length ≤ t.length := by
  obtain ⟨before, after, hcut, -, -⟩ := (isTrim_trim p t).cut
  have hlength := congrArg List.length hcut
  simp only [List.length_append] at hlength
  omega

/-- The characters that are left are among those that were there. -/
lemma mem_of_mem_trim {c : Char} (h : c ∈ trim p t) : c ∈ t := by
  obtain ⟨before, after, hcut, -, -⟩ := (isTrim_trim p t).cut
  rw [hcut]
  simp [h]

end Text

lemma Version.trimDots_eq_trim (t : Text) : trimDots t = Text.trim (· == '.') t := rfl

end DockCheck
