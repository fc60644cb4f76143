import DockCheck.Text

/-!
# White space

`isBlank` is the Unicode notion of white space together with the four information separators
U+001C to U+001F, 29 characters in all.  `strip` removes it at both ends of a text and `words`
cuts a text at every run of it.
-/

namespace DockCheck.Text

/-- White space: the Unicode white space characters and the information separators. -/
def isBlank (c : Char) : Bool :=
  let n := c.toNat
  (9 ≤ n && n ≤ 13) || (28 ≤ n && n ≤ 32) || n == 0x85 || n == 0xA0 || n == 0x1680
    || (0x2000 ≤ n && n ≤ 0x200A) || n == 0x2028 || n == 0x2029 || n == 0x202F || n == 0x205F
    || n == 0x3000

/-- A text without the white space at its start. -/
def trimLeft (t : Text) : Text := t.dropWhile isBlank

/-- A text without the white space at its end. -/
def trimRight (t : Text) : Text := (t.reverse.dropWhile isBlank).reverse

/-- A text without the white space at its two ends. -/
def strip (t : Text) : Text := trimRight (trimLeft t)

/-- The longest runs of characters that are not white space, from left to right. -/
def words : Text → List Text
  | [] => []
  | c :: rest =>
    if isBlank c then words rest
    else match rest with
      | [] => [[c]]
      | d :: _ =>
        if isBlank d then [c] :: words rest
        else match words rest with
          | [] => [[c]]
          | word :: others => (c :: word) :: others

/-- Every character that the core library calls white space is blank. -/
theorem isBlank_of_isWhitespace {c : Char} (h : c.isWhitespace) : isBlank c := by
  simp only [Char.isWhitespace, Bool.or_eq_true, decide_eq_true_eq] at h
  rcases h with ((h | h) | h) | h <;> subst h <;> decide

/-- No word is empty. -/
theorem ne_nil_of_mem_words {t w : Text} (h : w ∈ words t) : w ≠ [] := by
  induction t generalizing w with
  | nil => simp [words] at h
  | cons c rest ih =>
    unfold words at h
    split at h
    · exact ih h
    · split at h
      · simp at h; simp [h]
      · split at h
        · rcases List.mem_cons.1 h with h | h
          · simp [h]
          · exact ih h
        · split at h
          · simp at h; simp [h]
          · next heq =>
            rcases List.mem_cons.1 h with h | h
            · simp [h]
            · exact ih (by rw [heq]; exact List.mem_cons_of_mem _ h)

end DockCheck.Text
