import DockCheck.Proofs.Text.Blank
import DockCheck.Proofs.Text.Trim

/-!
# The first word of a text

`FirstWord t word rest` says how a text begins: after white space there is a word, and what is left
of the text begins with white space again, if anything is left.  By `words_eq_cons_iff` this is how
`words` takes the first word, so that the words of a text are told one after the other.
-/

namespace DockCheck.Text

/-- After white space the text has the word, which ends where `rest` begins. -/
structure FirstWord (t word rest : Text) : Prop where
  cut : ∃ gap, t = gap ++ (word ++ rest) ∧ ∀ c ∈ gap, isBlank c
  ne_nil : word ≠ []
  not_blank : ∀ c ∈ word, ¬ isBlank c
  ends : ∀ c, rest.head? = some c → isBlank c

variable {t gap word rest : Text} {others : List Text}

/-- White space at the start of a text adds no word. -/
lemma words_append_of_forall_isBlank (h : ∀ c ∈ gap, isBlank c) (t : Text) :
    words (gap ++ t) = words t := by
  induction gap with
  | nil => rfl
  | cons c gap ih =>
    obtain ⟨hc, hgap⟩ := List.forall_mem_cons.mp h
    rw [List.cons_append, words_cons_of_isBlank hc, ih hgap]

/-- There is no word exactly if there is only white space. -/
lemma words_eq_nil_iff : words t = [] ↔ ∀ c ∈ t, isBlank c := by
  induction t with
  | nil => simp [words]
  | cons c t ih =>
    by_cases hc : isBlank c
    · rw [words_cons_of_isBlank hc, ih]
      simp [hc]
    · obtain ⟨word, others, hwords⟩ := exists_words_cons hc t
      simp [hwords, hc]

/-- A character that is not blank goes to the word behind it. -/
lemma words_cons_of_not_isBlank {c d : Char} (hc : ¬ isBlank c) (hd : ¬ isBlank d)
    (h : words (d :: t) = word :: others) : words (c :: d :: t) = (c :: word) :: others := by
  rw [words.eq_def]
  simp [hc, hd, h]

/-- The first word is the first of the words, and the others are those of the rest. -/
lemma FirstWord.words_eq (h : FirstWord t word rest) : words t = word :: words rest := by
  obtain ⟨⟨gap, rfl, hgap⟩, hne, hblank, hends⟩ := h
  rw [words_append_of_forall_isBlank hgap]
  clear hgap
  induction word with
  | nil => exact absurd rfl hne
  | cons c word ih =>
    obtain ⟨hc, hword⟩ := List.forall_mem_cons.mp hblank
    cases word with
    | nil =>
      cases rest with
      | nil => simp [words, hc]
      | cons d rest =>
        have hd : isBlank d := hends d rfl
        rw [List.singleton_append, words.eq_def]
        simp [hc, hd]
    | cons d word =>
      have hd : ¬ isBlank d := hword d List.mem_cons_self
      exact words_cons_of_not_isBlank hc hd (ih (List.cons_ne_nil d word) hword)

/-- A text that is not all white space has a first word. -/
lemma exists_firstWord (h : words t ≠ []) : ∃ word rest, FirstWord t word rest := by
  obtain ⟨gap, hcut, hgap⟩ := exists_gap t
  let start := trimLeft t
  have hstart : start.takeWhile (!isBlank ·) ++ start.dropWhile (!isBlank ·) = start :=
    List.takeWhile_append_dropWhile
  refine ⟨start.takeWhile (!isBlank ·), start.dropWhile (!isBlank ·),
    ⟨gap, by rw [hstart, hcut], hgap⟩, ?_, fun c hc => ?_, fun c hc => ?_⟩
  · -- The first character behind the white space is one that is not blank.
    intro hnil
    apply h
    rw [words_eq_nil_iff, ← hcut]
    cases hrest : trimLeft t with
    | nil => simpa using hgap
    | cons c rest =>
      have hc : ¬ isBlank c := by
        refine not_of_head?_dropWhile (p := isBlank) (t := t) ?_
        rw [← trimLeft, hrest]
        rfl
      simp [start, hrest, hc] at hnil
  · simpa using List.mem_takeWhile_imp hc
  · simpa using not_of_head?_dropWhile hc

/-- The words of a text are its first word and the words of what is left of the text. -/
lemma words_eq_cons_iff :
    words t = word :: others ↔ ∃ rest, FirstWord t word rest ∧ words rest = others := by
  constructor
  · intro h
    obtain ⟨first, rest, hfirst⟩ := exists_firstWord (t := t) (by simp [h])
    obtain ⟨rfl, rfl⟩ := List.cons.inj (h.symm.trans hfirst.words_eq)
    exact ⟨rest, hfirst, rfl⟩
  · rintro ⟨rest, hfirst, rfl⟩
    exact hfirst.words_eq

end DockCheck.Text
