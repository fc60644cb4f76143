import DockCheck.Text.Blank
import Mathlib.Data.List.DropRight
import Mathlib.Tactic.Common

/-!
# White space at the ends of a text

The words of a text are those of the text without the white space at its ends (`words_strip`), and
a text that begins with another character has a first word that begins with it.
-/

namespace DockCheck.Text

/-- The printable ASCII characters other than the space are not white space. -/
lemma not_isBlank_of_toNat {c : Char} (hlow : 33 ≤ c.toNat) (hhigh : c.toNat ≤ 126) :
    ¬ isBlank c := by
  simp only [isBlank, Bool.or_eq_true, Bool.and_eq_true, decide_eq_true_eq, beq_iff_eq]
  omega

/-- What is missing from a text without the white space at its start is white space. -/
lemma exists_gap (t : Text) : ∃ gap, gap ++ trimLeft t = t ∧ ∀ c ∈ gap, isBlank c :=
  ⟨t.takeWhile isBlank, List.takeWhile_append_dropWhile, fun _ => List.mem_takeWhile_imp⟩

lemma words_cons_of_isBlank {c : Char} (h : isBlank c) (t : Text) : words (c :: t) = words t :=
  (words.eq_def (c :: t)).trans (if_pos h)

/-- A character that is not blank begins a word. -/
lemma exists_words_cons {c : Char} (h : ¬ isBlank c) (t : Text) :
    ∃ word others, words (c :: t) = (c :: word) :: others := by
  unfold words
  rw [if_neg h]
  cases t with
  | nil => exact ⟨[], [], rfl⟩
  | cons d rest =>
    by_cases hd : isBlank d
    · exact ⟨[], words (d :: rest), by simp [hd, words_cons_of_isBlank]⟩
    · cases hwords : words (d :: rest) with
      | nil => exact ⟨[], [], by simp [hd]⟩
      | cons word others => exact ⟨word, others, by simp [hd]⟩

lemma words_trimLeft (t : Text) : words (trimLeft t) = words t := by
  induction t with
  | nil => rfl
  | cons c t ih =>
    by_cases hc : isBlank c
    · rw [words_cons_of_isBlank hc, ← ih, trimLeft, trimLeft, List.dropWhile_cons_of_pos hc]
    · rw [trimLeft, List.dropWhile_cons_of_neg hc]

/-- White space at the end of a text adds no word. -/
lemma words_append_of_isBlank {c : Char} (h : isBlank c) (t : Text) :
    words (t ++ [c]) = words t := by
  induction t with
  | nil => exact words_cons_of_isBlank h []
  | cons d t ih =>
    by_cases hd : isBlank d
    · rw [List.cons_append, words_cons_of_isBlank hd, words_cons_of_isBlank hd, ih]
    · cases t with
      | nil => simp [words, hd, h]
      | cons e rest =>
        rw [List.cons_append] at ih
        rw [List.cons_append, List.cons_append, words.eq_def, words.eq_def (d :: e :: rest)]
        simp only [ih]

lemma words_trimRight (t : Text) : words (trimRight t) = words t := by
  change words (t.rdropWhile isBlank) = words t
  induction t using List.reverseRecOn with
  | nil => rfl
  | append_singleton t c ih =>
    by_cases hc : isBlank c
    · rw [List.rdropWhile_concat_pos isBlank t c hc, ih, words_append_of_isBlank hc]
    · rw [List.rdropWhile_concat_neg isBlank t c hc]

/-- The white space at the ends of a text does not matter for its words. -/
lemma words_strip (t : Text) : words (strip t) = words t := by
  rw [strip, words_trimRight, words_trimLeft]

end DockCheck.Text
