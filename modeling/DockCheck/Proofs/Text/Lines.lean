import DockCheck.Text.Lines
import Mathlib.Data.List.Basic
import Mathlib.Tactic.Common

/-!
# Where a text is cut into lines

`CutAt ends t lines` says that a text is cut into lines at the characters `ends`, where the pair of
a carriage return and a line feed is one end, and an end behind which nothing stands opens no line.
`lines` is the one way to cut a text at line boundaries (`cutAt_iff_lines_eq`).

By the universal newlines only line feeds and carriage returns end a line.  Most of the line
boundaries are others, and `cutAt_newline_lines_iff` says that the two readings agree for a text
exactly if it has none of these.
-/

namespace DockCheck.Text

/-- The text consists of the lines with one end behind each of them, which may be missing behind the
last one if that is not empty. -/
inductive CutAt (ends : Char → Bool) : Text → List Text → Prop where
  | nil : CutAt ends [] []
  | last {line : Text} (hline : ∀ c ∈ line, ¬ ends c) (hne : line ≠ []) : CutAt ends line [line]
  | pair {line rest : Text} {lines : List Text} (hline : ∀ c ∈ line, ¬ ends c)
    (h : CutAt ends rest lines) : CutAt ends (line ++ '\r' :: '\n' :: rest) (line :: lines)
  | single {line rest : Text} {lines : List Text} {c : Char} (hline : ∀ c ∈ line, ¬ ends c)
    (hc : ends c) (hpair : c = '\r' → rest.head? ≠ some '\n') (h : CutAt ends rest lines) :
    CutAt ends (line ++ c :: rest) (line :: lines)

/-- Does the character end a line by the universal newlines? -/
def isNewline (c : Char) : Bool := c == '\n' || c == '\r'

lemma isLineBoundary_of_isNewline {c : Char} (h : isNewline c) : isLineBoundary c := by
  rw [isNewline, Bool.or_eq_true, beq_iff_eq, beq_iff_eq] at h
  rcases h with rfl | rfl <;> rfl

namespace CutAt

variable {ends others : Char → Bool} {t : Text} {lines : List Text}

/-- A character that ends no line goes to the first line. -/
lemma cons {c : Char} {line : Text} (hc : ¬ ends c) (h : CutAt ends t (line :: lines)) :
    CutAt ends (c :: t) ((c :: line) :: lines) := by
  have hcons : ∀ {rest : Text}, (∀ d ∈ rest, ¬ ends d) → ∀ d ∈ c :: rest, ¬ ends d :=
    fun hline => List.forall_mem_cons.mpr ⟨hc, hline⟩
  cases h with
  | last hline hne => exact .last (hcons hline) (List.cons_ne_nil c _)
  | pair hline h => exact .pair (hcons hline) h
  | single hline hd hpair h => exact .single (hcons hline) hd hpair h

/-- A line holds no end. -/
lemma not_ends_of_mem (h : CutAt ends t lines) :
    ∀ line ∈ lines, ∀ c ∈ line, ¬ ends c := by
  induction h with
  | nil => nofun
  | last hline _ => exact List.forall_mem_singleton.mpr hline
  | pair hline _ ih => exact List.forall_mem_cons.mpr ⟨hline, ih⟩
  | single hline _ _ _ ih => exact List.forall_mem_cons.mpr ⟨hline, ih⟩

/-- A character stands in the first line, or in one of those that the text behind it is cut into. -/
lemma exists_mem_cons {c : Char} {line after : Text} (hmem : c ∈ line ++ after)
    (hafter : c ∈ after → ∃ other ∈ lines, c ∈ other) : ∃ other ∈ line :: lines, c ∈ other := by
  rcases List.mem_append.mp hmem with hmem | hmem
  · exact ⟨line, List.mem_cons_self, hmem⟩
  · obtain ⟨other, hother, hmem⟩ := hafter hmem
    exact ⟨other, List.mem_cons_of_mem line hother, hmem⟩

/-- Whatever is no end belongs to a line. -/
lemma exists_mem_of_not_ends (h : CutAt ends t lines) (hreturn : ends '\r') (hfeed : ends '\n')
    {c : Char} (hmem : c ∈ t) (hc : ¬ ends c) : ∃ line ∈ lines, c ∈ line := by
  induction h with
  | nil => cases hmem
  | @last line _ _ => exact ⟨line, List.mem_singleton_self line, hmem⟩
  | pair _ _ ih =>
    refine exists_mem_cons hmem fun hafter => ih ?_
    rcases List.mem_cons.mp hafter with rfl | hafter
    · exact absurd hreturn hc
    rcases List.mem_cons.mp hafter with rfl | hrest
    · exact absurd hfeed hc
    · exact hrest
  | single _ hd _ _ ih =>
    refine exists_mem_cons hmem fun hafter => ih ?_
    rcases List.mem_cons.mp hafter with rfl | hrest
    · exact absurd hd hc
    · exact hrest

/-- A text is cut at fewer ends in the same way if it has no others. -/
lemma of_forall_mem (h : CutAt ends t lines) (hsub : ∀ c, others c → ends c)
    (hall : ∀ c ∈ t, ends c → others c) : CutAt others t lines := by
  have hnot : ∀ {line : Text}, (∀ c ∈ line, ¬ ends c) → ∀ c ∈ line, ¬ others c :=
    fun hline c hc hother => hline c hc (hsub c hother)
  induction h with
  | nil => exact .nil
  | last hline hne => exact .last (hnot hline) hne
  | pair hline _ ih => exact .pair (hnot hline) (ih fun c hc => hall c (by simp [hc]))
  | single hline hc hpair _ ih =>
    exact .single (hnot hline) (hall _ (by simp) hc) hpair (ih fun c hc => hall c (by simp [hc]))

end CutAt

/-! ### Cutting at line boundaries -/

lemma lines_pair (rest : Text) : lines ('\r' :: '\n' :: rest) = [] :: lines rest := by
  rw [lines]

section Cons

variable {c : Char} {line rest : Text}

lemma lines_cons_of_isLineBoundary (hc : isLineBoundary c)
    (hpair : c = '\r' → rest.head? ≠ some '\n') : lines (c :: rest) = [] :: lines rest := by
  rw [lines, if_pos hc]
  rintro after rfl rfl
  exact hpair rfl rfl

lemma lines_singleton (hc : ¬ isLineBoundary c) : lines [c] = [[c]] := by
  rw [lines, if_neg hc]
  · rfl
  · nofun

lemma lines_cons_of_lines_eq {others : List Text} (hc : ¬ isLineBoundary c)
    (h : lines rest = line :: others) : lines (c :: rest) = (c :: line) :: others := by
  rw [lines, if_neg hc, h]
  rintro after rfl
  exact absurd rfl hc

end Cons

/-- A text that is cut at line boundaries is cut into its lines. -/
lemma CutAt.lines_eq {t : Text} {found : List Text} (h : CutAt isLineBoundary t found) :
    lines t = found := by
  induction h with
  | nil => rw [lines]
  | @last line hline hne =>
    induction line with
    | nil => exact absurd rfl hne
    | cons c line ih =>
      obtain ⟨hc, hline⟩ := List.forall_mem_cons.mp hline
      cases line with
      | nil => exact lines_singleton hc
      | cons d line => exact lines_cons_of_lines_eq hc (ih hline (List.cons_ne_nil d line))
  | @pair line rest found hline _ ih =>
    induction line with
    | nil => rw [List.nil_append, lines_pair, ih]
    | cons c line ihline =>
      obtain ⟨hc, hline⟩ := List.forall_mem_cons.mp hline
      exact lines_cons_of_lines_eq hc (ihline hline)
  | @single line rest found c hline hc hpair _ ih =>
    induction line with
    | nil => rw [List.nil_append, lines_cons_of_isLineBoundary hc hpair, ih]
    | cons d line ihline =>
      obtain ⟨hd, hline⟩ := List.forall_mem_cons.mp hline
      exact lines_cons_of_lines_eq hd (ihline hline)

lemma CutAt.exists_cons {ends : Char → Bool} {c : Char} {t : Text} {found : List Text}
    (hc : ¬ ends c) (h : CutAt ends t found) : ∃ others, CutAt ends (c :: t) others := by
  cases found with
  | nil =>
    cases h
    exact ⟨[[c]], .last (List.forall_mem_singleton.mpr hc) (List.cons_ne_nil c [])⟩
  | cons line found => exact ⟨_, h.cons hc⟩

/-- Every text can be cut at line boundaries.  The induction follows `lines`, so that the two
characters of a pair are taken together. -/
lemma exists_cutAt (t : Text) : ∃ found, CutAt isLineBoundary t found := by
  induction t using lines.induct with
  | case1 => exact ⟨[], .nil⟩
  | case2 rest ih =>
    obtain ⟨found, h⟩ := ih
    exact ⟨[] :: found, .pair (List.forall_mem_nil _) h⟩
  | case3 c rest hpair hc ih =>
    obtain ⟨found, h⟩ := ih
    refine ⟨[] :: found, .single (List.forall_mem_nil _) hc ?_ h⟩
    rintro rfl hfeed
    obtain ⟨after, rfl⟩ := List.head?_eq_some_iff.mp hfeed
    exact hpair after rfl rfl
  | case4 c rest hpair hc _ ih =>
    obtain ⟨found, h⟩ := ih
    exact h.exists_cons hc
  | case5 c rest hpair hc _ _ _ ih =>
    obtain ⟨found, h⟩ := ih
    exact h.exists_cons hc

/-- The lines of a text are what it is cut into at line boundaries. -/
lemma cutAt_iff_lines_eq {t : Text} {found : List Text} :
    CutAt isLineBoundary t found ↔ lines t = found := by
  constructor
  · exact CutAt.lines_eq
  · rintro rfl
    obtain ⟨found, h⟩ := exists_cutAt t
    rwa [h.lines_eq]

/-- The lines of a text are what it is cut into at line boundaries, and at nothing else.  They are
what it is cut into by the universal newlines exactly if each of its line boundaries is a line feed
or a carriage return. -/
theorem cutAt_newline_lines_iff (t : Text) :
    (∀ found, CutAt isLineBoundary t found ↔ lines t = found)
      ∧ (CutAt isNewline t (lines t) ↔ ∀ c ∈ t, isLineBoundary c → isNewline c) := by
  have hlines : CutAt isLineBoundary t (lines t) := cutAt_iff_lines_eq.mpr rfl
  refine ⟨fun found => cutAt_iff_lines_eq, fun hnewline c hmem hboundary => ?_,
    hlines.of_forall_mem fun c => isLineBoundary_of_isNewline⟩
  -- Otherwise the character stands in a line, as no newline, and in none, as a boundary.
  by_contra hc
  obtain ⟨line, hline, hmem⟩ := hnewline.exists_mem_of_not_ends rfl rfl hmem hc
  exact hlines.not_ends_of_mem line hline c hmem hboundary

/-- A form feed ends a line, though it is no newline. -/
theorem not_cutAt_newline_lines_formFeed :
    let t : Text := "RUN a\x0cb"
    lines t = ["RUN a", "b"] ∧ ¬ CutAt isNewline t (lines t) := by
  intro t
  have hlines : lines t = ["RUN a", "b"] := by decide +kernel
  refine ⟨hlines, fun h => ?_⟩
  obtain ⟨line, hline, hmem⟩ :=
    h.exists_mem_of_not_ends rfl rfl (c := '\x0c') (by decide) (by decide)
  rw [hlines] at hline
  revert hmem
  revert line
  decide

end DockCheck.Text
