import DockCheck.Pattern
import DockCheck.Proofs.Dockerfile.Roles
import DockCheck.Proofs.Pattern.Lines
import DockCheck.Proofs.Pattern.Preferred
import DockCheck.Proofs.Text.Words

/-!
# What the check of a base image reads

`OpensFrom line rest` says that the first word of a line is the keyword, and what stands behind it.
The first line that opens so decides about the base image: `IsImageCheck` says which outcome a check
has for it, and `checkBaseImage_isImageCheck` that this is the outcome of `checkBaseImage`, whatever
comes after the line.

The keyword can also be recognized by a pattern, `fromPattern`, that is tried at the start of the
line without the white space at its ends.  By `exists_opensFrom_iff_prefers` it finds the same
lines.
-/

namespace DockCheck

open Pattern (Node Spot)

namespace Dockerfile

/-- The first word of the line is the keyword in any letter case, and `rest` is behind it. -/
def OpensFrom (line rest : Text) : Prop :=
  ∃ keyword, Text.FirstWord line keyword rest ∧ keyword.map Text.asciiLower = "from"

/-- The first line that opens with the keyword has `rest` behind it. -/
def FirstFrom (lines : List Text) (rest : Text) : Prop :=
  Reaches (fun line => ∀ other, ¬ OpensFrom line other) (fun line => OpensFrom line rest) lines

/-- The outcome of a check of the base image against an expected one. -/
structure IsImageCheck (lines : List Text) (expected : Text) (check : ImageCheck) : Prop where
  /-- There is no base image if no line opens with the keyword, or if there is nothing behind the
  keyword of the first one that does. -/
  missing : check.status = .missing
    ↔ (∀ line ∈ lines, ∀ rest, ¬ OpensFrom line rest)
      ∨ ∃ rest, FirstFrom lines rest ∧ ∀ c ∈ rest, Text.isBlank c
  /-- Then, and only then, there is no image to show. -/
  no_image : check.image = none ↔ check.status = .missing
  /-- The image is the word after the keyword. -/
  image : ∀ image, check.image = some image
    ↔ ∃ rest more, FirstFrom lines rest ∧ Text.FirstWord rest image more
  /-- It passes if it is the expected text, character by character. -/
  valid : check.status = .valid ↔ check.image = some expected
  /-- An image is a word. -/
  word : ∀ image, check.image = some image → image ≠ [] ∧ ∀ c ∈ image, ¬ Text.isBlank c
  /-- So an expected text that is empty or has white space in it never passes. -/
  expected_word : check.status = .valid → expected ≠ [] ∧ ∀ c ∈ expected, ¬ Text.isBlank c
  expected : check.expected = expected

variable {line rest image : Text} {lines : List Text} {expected : Text}

/-! ### Lines that open with the keyword -/

lemma isFrom_iff {word : Text} : isFrom word ↔ word.map Text.asciiLower = "from" := beq_iff_eq

/-- The words of a line that opens with the keyword are the keyword and those behind it. -/
lemma OpensFrom.exists_words_eq (h : OpensFrom line rest) :
    ∃ keyword, Text.words line = keyword :: Text.words rest ∧ isFrom keyword := by
  obtain ⟨keyword, hfirst, hkeyword⟩ := h
  exact ⟨keyword, hfirst.words_eq, isFrom_iff.mpr hkeyword⟩

lemma isFromLine_iff_exists_opensFrom : IsFromLine line ↔ ∃ rest, OpensFrom line rest := by
  constructor
  · rintro ⟨keyword, others, hwords, hfrom⟩
    obtain ⟨rest, hfirst, -⟩ := Text.words_eq_cons_iff.mp hwords
    exact ⟨rest, keyword, hfirst, isFrom_iff.mp hfrom⟩
  · rintro ⟨rest, h⟩
    obtain ⟨keyword, hwords, hfrom⟩ := h.exists_words_eq
    exact ⟨keyword, Text.words rest, hwords, hfrom⟩

lemma not_isFromLine_iff : ¬ IsFromLine line ↔ ∀ rest, ¬ OpensFrom line rest := by
  rw [isFromLine_iff_exists_opensFrom, not_exists]

/-! ### The first of them -/

/-- The base image is the first word behind the keyword of the first line that opens with it. -/
lemma FirstFrom.baseImage?_eq (h : FirstFrom lines rest) :
    baseImage? lines = (Text.words rest).head? := by
  induction lines with
  | nil => exact absurd h (not_reaches_nil _ _)
  | cons line lines ih =>
    rcases reaches_cons.mp h with hopens | ⟨hnot, hlater⟩
    · have hline : IsFromLine line := isFromLine_iff_exists_opensFrom.mpr ⟨rest, hopens⟩
      obtain ⟨keyword, hwords, -⟩ := hopens.exists_words_eq
      rw [baseImage?_cons_of_isFromLine hline, hwords, List.tail_cons]
    · rw [baseImage?_cons_of_not_isFromLine (not_isFromLine_iff.mpr hnot), ih hlater]

/-- A line opens with the keyword and is the first to do so, or none does. -/
lemma exists_firstFrom_or (lines : List Text) :
    (∃ rest, FirstFrom lines rest) ∨ ∀ line ∈ lines, ∀ rest, ¬ OpensFrom line rest := by
  induction lines with
  | nil => exact Or.inr nofun
  | cons line lines ih =>
    by_cases hline : ∃ rest, OpensFrom line rest
    · obtain ⟨rest, hopens⟩ := hline
      exact Or.inl ⟨rest, reaches_cons.mpr (Or.inl hopens)⟩
    · have hnot : ∀ rest, ¬ OpensFrom line rest := not_exists.mp hline
      rcases ih with ⟨rest, hrest⟩ | hnone
      · exact Or.inl ⟨rest, reaches_cons.mpr (Or.inr ⟨hnot, hrest⟩)⟩
      · exact Or.inr (List.forall_mem_cons.mpr ⟨hnot, hnone⟩)

lemma baseImage?_eq_none_of_forall (h : ∀ line ∈ lines, ∀ rest, ¬ OpensFrom line rest) :
    baseImage? lines = none :=
  baseImage?_of_forall_not fun line hmem => not_isFromLine_iff.mpr (h line hmem)

/-- There is a base image exactly if the first line that opens with the keyword has a word behind
it. -/
lemma baseImage?_eq_some_iff_firstFrom :
    baseImage? lines = some image
      ↔ ∃ rest more, FirstFrom lines rest ∧ Text.FirstWord rest image more := by
  constructor
  · intro h
    rcases exists_firstFrom_or lines with ⟨rest, hrest⟩ | hnone
    · rw [hrest.baseImage?_eq] at h
      obtain ⟨others, hwords⟩ := List.head?_eq_some_iff.mp h
      obtain ⟨more, hfirst, -⟩ := Text.words_eq_cons_iff.mp hwords
      exact ⟨rest, more, hrest, hfirst⟩
    · rw [baseImage?_eq_none_of_forall hnone] at h
      cases h
  · rintro ⟨rest, more, hrest, hfirst⟩
    rw [hrest.baseImage?_eq, hfirst.words_eq, List.head?_cons]

/-- There is none exactly if no line opens with the keyword, or the first that does has only white
space behind it. -/
lemma baseImage?_eq_none_iff :
    baseImage? lines = none
      ↔ (∀ line ∈ lines, ∀ rest, ¬ OpensFrom line rest)
        ∨ ∃ rest, FirstFrom lines rest ∧ ∀ c ∈ rest, Text.isBlank c := by
  have hblank : ∀ rest, FirstFrom lines rest →
      (baseImage? lines = none ↔ ∀ c ∈ rest, Text.isBlank c) := by
    intro rest hrest
    rw [hrest.baseImage?_eq, List.head?_eq_none_iff, Text.words_eq_nil_iff]
  constructor
  · intro h
    rcases exists_firstFrom_or lines with ⟨rest, hrest⟩ | hnone
    · exact Or.inr ⟨rest, hrest, (hblank rest hrest).mp h⟩
    · exact Or.inl hnone
  · rintro (hnone | ⟨rest, hrest, hall⟩)
    · exact baseImage?_eq_none_of_forall hnone
    · exact (hblank rest hrest).mpr hall

/-- What comes after a line that opens with the keyword does not matter. -/
lemma baseImage?_append_of_opensFrom (before : List Text) (h : OpensFrom line rest)
    (after others : List Text) :
    baseImage? (before ++ line :: others) = baseImage? (before ++ line :: after) := by
  have hline : IsFromLine line := isFromLine_iff_exists_opensFrom.mpr ⟨rest, h⟩
  refine baseImage?_append_congr ?_ before
  rw [baseImage?_cons_of_isFromLine hline, baseImage?_cons_of_isFromLine hline]

/-! ### The pattern of the keyword -/

/-- The keyword in any letter case, and white space or the end behind it. -/
def fromPattern : Node :=
  .seq (.anchor .textStart)
    (.keyword "from" (.alt (.run .greedy 1 none .blank) (.anchor .lastLineEnd)))

lemma compile_fromPattern : Pattern.compile "^FROM(?:\\s+|$)" = .ok (fromPattern, 0) := by
  decide +kernel

/-- The pattern asks for the keyword at the start of the text, and that no other character than
white space comes next. -/
lemma exists_matches_fromPattern_iff {t : Text} :
    (∃ reached, fromPattern.Matches (Spot.start t) reached)
      ↔ ∃ keyword after, t = keyword ++ after ∧ keyword.map Text.asciiLower = "from"
        ∧ ∀ c, after.head? = some c → Text.isBlank c := by
  have hletters : ("from" : Text) ⊆ ("from" : Text) := List.Subset.refl _
  constructor
  · rintro ⟨reached, hmatches⟩
    obtain ⟨middle, hstart, hrest⟩ := Node.matches_seq_iff.mp hmatches
    obtain ⟨-, rfl⟩ := Node.matches_anchor_iff.mp hstart
    obtain ⟨keyword, after, ht, hkeyword, hend⟩ := (Node.matches_keyword_iff hletters).mp hrest
    refine ⟨keyword, after, ht, hkeyword, fun c hc => ?_⟩
    rcases Node.matches_alt_iff.mp hend with hrun | hanchor
    · obtain ⟨w, more, hahead, hlow, hw, -⟩ := Node.matches_greedy_iff.mp hrun
      obtain ⟨d, w, rfl⟩ := List.exists_cons_of_length_pos hlow
      obtain rfl : after = d :: w ++ more := hahead
      obtain rfl : d = c := Option.some.inj hc
      exact Pattern.CharTest.holds_blank_iff.mp (hw d List.mem_cons_self)
    · obtain ⟨hplace, -⟩ := Node.matches_anchor_iff.mp hanchor
      have hlast : after = [] ∨ after = ['\n'] := by
        simpa [Spot.holds, Spot.past] using hplace
      rcases hlast with rfl | rfl
      · cases hc
      · obtain rfl : '\n' = c := Option.some.inj hc
        decide
  · rintro ⟨keyword, after, rfl, hkeyword, hafter⟩
    have hend : ∃ reached, (Node.alt (.run .greedy 1 none .blank) (.anchor .lastLineEnd)).Matches
        ((Spot.start (keyword ++ after)).past keyword after) reached := by
      cases after with
      | nil => exact ⟨_, Node.matches_alt_iff.mpr (Or.inr (Node.matches_anchor_iff.mpr ⟨rfl, rfl⟩))⟩
      | cons c after =>
        have hc : ∀ d ∈ [c], Pattern.CharTest.blank.holds d := by
          simpa [Pattern.CharTest.holds_blank_iff] using hafter c rfl
        have hrun : (Node.run .greedy 1 none .blank).Matches
            ((Spot.start (keyword ++ c :: after)).past keyword (c :: after)) _ :=
          Node.matches_greedy_iff.mpr ⟨[c], after, rfl, Nat.le_refl 1, hc, rfl⟩
        exact ⟨_, Node.matches_alt_iff.mpr (Or.inl hrun)⟩
    obtain ⟨reached, hreached⟩ := hend
    have hstart : (Node.anchor .textStart).Matches (Spot.start (keyword ++ after)) _ :=
      Node.matches_anchor_iff.mpr ⟨rfl, rfl⟩
    exact ⟨reached, Node.matches_seq_iff.mpr ⟨_, hstart,
      (Node.matches_keyword_iff hletters).mpr ⟨keyword, after, rfl, hkeyword, hreached⟩⟩⟩

/-- There is no white space in the keyword. -/
lemma not_isBlank_of_map_asciiLower {keyword : Text} (h : keyword.map Text.asciiLower = "from") :
    ∀ c ∈ keyword, ¬ Text.isBlank c := by
  have hletters : ∀ d ∈ ("from" : Text), 97 ≤ d.toNat ∧ d.toNat ≤ 122 := by
    rw [Text.forall_mem_from_iff]
    decide
  intro c hc
  have hmem : Text.asciiLower c ∈ ("from" : Text) := h ▸ List.mem_map_of_mem hc
  obtain ⟨hlow, hhigh⟩ := hletters _ hmem
  have hcode := (Text.asciiLower_eq_iff hlow hhigh).mp rfl
  exact Text.not_isBlank_of_toNat (by omega) (by omega)

/-- A line opens with the keyword exactly if, without the white space at its ends, it begins with
the keyword and no other character than white space comes next. -/
lemma exists_opensFrom_iff :
    (∃ rest, OpensFrom line rest)
      ↔ ∃ keyword after, Text.strip line = keyword ++ after
        ∧ keyword.map Text.asciiLower = "from"
        ∧ ∀ c, after.head? = some c → Text.isBlank c := by
  constructor
  · rintro ⟨rest, keyword, hfirst, hkeyword⟩
    have hwords : Text.words (Text.strip line) = keyword :: Text.words rest := by
      rw [Text.words_strip, hfirst.words_eq]
    obtain ⟨after, hafter, -⟩ := Text.words_eq_cons_iff.mp hwords
    obtain ⟨gap, hcut, hgap⟩ := hafter.cut
    have htrim : Text.IsTrim Text.isBlank line (gap ++ (keyword ++ after)) := by
      rw [← hcut, Text.strip_eq_trim]
      exact Text.isTrim_trim _ line
    have hnil : gap = [] := htrim.eq_nil_of_starts hgap
    subst hnil
    exact ⟨keyword, after, hcut, hkeyword, hafter.ends⟩
  · rintro ⟨keyword, after, hcut, hkeyword, hafter⟩
    have hne : keyword ≠ [] := by
      rintro rfl
      cases hkeyword
    have hfirst : Text.FirstWord (Text.strip line) keyword after :=
      ⟨⟨[], hcut, nofun⟩, hne, not_isBlank_of_map_asciiLower hkeyword, hafter⟩
    have hwords : Text.words line = keyword :: Text.words after := by
      rw [← Text.words_strip, hfirst.words_eq]
    obtain ⟨rest, hrest, -⟩ := Text.words_eq_cons_iff.mp hwords
    exact ⟨rest, keyword, hrest, hkeyword⟩

/-- The pattern finds the lines that open with the keyword. -/
lemma exists_opensFrom_iff_prefers :
    (∃ rest, OpensFrom line rest)
      ↔ ∃ reached, fromPattern.Prefers (Spot.start (Text.strip line)) reached := by
  rw [exists_opensFrom_iff, ← exists_matches_fromPattern_iff]
  constructor
  · rintro ⟨reached, hmatches⟩
    exact hmatches.exists_prefers
  · rintro ⟨reached, hprefers⟩
    exact ⟨reached, hprefers.toMatches⟩

end Dockerfile

/-! ### The check -/

open Dockerfile

lemma checkBaseImage_image (lines : List Text) (expected : Text) :
    (checkBaseImage lines expected).image = baseImage? lines := by
  unfold checkBaseImage
  cases baseImage? lines <;> rfl

lemma checkBaseImage_status_eq_missing_iff {lines : List Text} {expected : Text} :
    (checkBaseImage lines expected).status = .missing ↔ baseImage? lines = none := by
  unfold checkBaseImage
  cases baseImage? lines with
  | none => simp
  | some image => by_cases h : image = expected <;> simp [h]

lemma checkBaseImage_status_eq_valid_iff {lines : List Text} {expected : Text} :
    (checkBaseImage lines expected).status = .valid ↔ baseImage? lines = some expected := by
  unfold checkBaseImage
  cases baseImage? lines with
  | none => simp
  | some image => by_cases h : image = expected <;> simp [h]

/-- The check of the base image reads the first line that opens with the keyword and nothing behind
it: there is no base image if there is no such line or no other word in it, and otherwise the image
is the second word, which has to be the expected text.  The lines that open with the keyword are
those that the pattern matches from their start. -/
theorem checkBaseImage_isImageCheck (lines : List Text) (expected : Text) :
    IsImageCheck lines expected (checkBaseImage lines expected)
      ∧ (∀ before line after rest, lines = before ++ line :: after → OpensFrom line rest →
        ∀ others, checkBaseImage (before ++ line :: others) expected
          = checkBaseImage lines expected)
      ∧ ∃ body, Pattern.compile "^FROM(?:\\s+|$)" = .ok (body, 0)
        ∧ ∀ line, (∃ rest, OpensFrom line rest)
          ↔ ∃ reached, (body.ways (Spot.start (Text.strip line))).first? = some reached := by
  have himage := checkBaseImage_image lines expected
  have hword : ∀ image, baseImage? lines = some image →
      image ≠ [] ∧ ∀ c ∈ image, ¬ Text.isBlank c := by
    intro image h
    obtain ⟨rest, more, -, hfirst⟩ := baseImage?_eq_some_iff_firstFrom.mp h
    exact ⟨hfirst.ne_nil, hfirst.not_blank⟩
  refine ⟨?_, ?_, fromPattern, compile_fromPattern, fun line => exists_opensFrom_iff_prefers⟩
  · exact {
      missing := checkBaseImage_status_eq_missing_iff.trans baseImage?_eq_none_iff
      no_image := by rw [himage, checkBaseImage_status_eq_missing_iff]
      image := fun image => by rw [himage, baseImage?_eq_some_iff_firstFrom]
      valid := by rw [himage, checkBaseImage_status_eq_valid_iff]
      word := fun image h => hword image (himage ▸ h)
      expected_word := fun h => hword expected (checkBaseImage_status_eq_valid_iff.mp h)
      expected := by
        unfold checkBaseImage
        cases baseImage? lines <;> rfl }
  · rintro before line after rest rfl hopens others
    have hsame := baseImage?_append_of_opensFrom before hopens after others
    unfold checkBaseImage
    rw [hsame]

/-- A keyword in small letters opens a line as well, and a later one does not count. -/
theorem checkBaseImage_isImageCheck_second :
    let lines : List Text := ["# base", "  from a:1 AS b", "FROM x"]
    IsImageCheck lines "a:1" (checkBaseImage lines "a:1")
      ∧ (∃ rest, OpensFrom "  from a:1 AS b" rest)
      ∧ checkBaseImage ["# base", "  from a:1 AS b"] "a:1" = checkBaseImage lines "a:1"
      ∧ checkBaseImage lines "a:1" = ⟨.valid, "a:1", some "a:1"⟩ := by
  intro lines
  obtain ⟨hcheck, hafter, -⟩ := checkBaseImage_isImageCheck lines "a:1"
  obtain ⟨rest, hopens⟩ : ∃ rest, OpensFrom "  from a:1 AS b" rest :=
    isFromLine_iff_exists_opensFrom.mp (by decide +kernel)
  exact ⟨hcheck, ⟨rest, hopens⟩, hafter ["# base"] _ ["FROM x"] rest rfl hopens [],
    by decide +kernel⟩

end DockCheck
