import DockCheck.Dockerfile.Directive
import DockCheck.Proofs.Dockerfile.BaseImage
import DockCheck.Proofs.Dockerfile.Segments
import Mathlib.Data.Nat.Find

/-!
# The roles of a line

A line of a Dockerfile can continue a run instruction that is open before it (`IsContinuation`), and
it can be the line that names the base image (`IsImageLine`).  The base image is looked for without
regard to instructions, so that a line can have both roles.

`isContinuation_iff` says which lines continue an instruction: those behind a line that opens one,
as far as every line between keeps it open.  The main statement, `roles_of_image_line`, says when
the line that names the base image is one of them, and that otherwise the lines that continue
instructions do not matter for the base image.
-/

namespace DockCheck

namespace Dockerfile

/-- The line opens an instruction that goes on behind it. -/
def OpensBlock (escape line : Text) : Prop :=
  ∃ body, opened? escape line = some body ∧ escape <:+ body

/-- The line at the index continues an instruction that is open after the lines before it. -/
def IsContinuation (escape : Text) (lines : List Text) (i : Nat) : Prop :=
  i < lines.length ∧ (Assembly.run escape (lines.take i)).pending.isSome

/-- The line at the index is the first whose first word is the keyword of a base image. -/
def IsImageLine (lines : List Text) (i : Nat) : Prop :=
  (∃ line, lines[i]? = some line ∧ IsFromLine line)
    ∧ ∀ j < i, ∀ line, lines[j]? = some line → ¬ IsFromLine line

/-- A line before the one at the index continues no instruction and opens one, and all lines between
the two keep it open. -/
def StandsInBlock (escape : Text) (lines : List Text) (i : Nat) : Prop :=
  ∃ j < i, ¬ IsContinuation escape lines j
    ∧ (∃ line, lines[j]? = some line ∧ OpensBlock escape line)
    ∧ ∀ k, j < k → k < i → ∀ line, lines[k]? = some line → KeepsOpen escape line

/-- The lines, of which those that continue an instruction are blank. -/
def blanked (escape : Text) (lines : List Text) : List Text :=
  lines.mapIdx fun i line =>
    if (Assembly.run escape (lines.take i)).pending.isSome then [] else line

/-! ### Lines that continue an instruction -/

namespace Assembly

variable {escape : Text}

/-- After a line an instruction is open if one was open and the line keeps it open, or if none was
open and the line opens one. -/
lemma isSome_pending_step_iff (state : Assembly) (line : Text) :
    (step escape state line).pending.isSome
      ↔ (state.pending.isSome ∧ KeepsOpen escape line)
        ∨ (state.pending = none ∧ OpensBlock escape line) := by
  obtain ⟨complete, pending⟩ := state
  cases pending with
  | none =>
    cases h : opened? escape line with
    | none => simp [step_other h, OpensBlock, h]
    | some body =>
      by_cases hbody : escape <:+ body
      · simp [step, runBody?_strip, h, endsWith_iff, hbody, OpensBlock]
      · simp [step_single h hbody, OpensBlock, h, hbody]
  | some parts =>
    by_cases hidle : IsIdle line
    · simp [step_idle hidle, KeepsOpen, hidle]
    · by_cases hescape : escape <:+ Text.strip line
      · simp [step, isSkipped_strip_iff, hidle, endsWith_iff, hescape, KeepsOpen]
      · have hkeep : ¬ KeepsOpen escape line := not_or.mpr ⟨hidle, hescape⟩
        simp [step_last hkeep, hkeep]

lemma run_append_singleton (lines : List Text) (line : Text) :
    run escape (lines ++ [line]) = step escape (run escape lines) line := by
  rw [run, run, List.foldl_append, List.foldl_cons, List.foldl_nil]

end Assembly

variable {escape : Text} {lines : List Text} {i : Nat}

lemma isContinuation_succ_iff {line : Text} (hline : lines[i]? = some line)
    (hlength : i + 1 < lines.length) :
    IsContinuation escape lines (i + 1)
      ↔ (IsContinuation escape lines i ∧ KeepsOpen escape line)
        ∨ (¬ IsContinuation escape lines i ∧ OpensBlock escape line) := by
  have htake : lines.take (i + 1) = lines.take i ++ [line] := by
    rw [List.take_add_one, hline]
    rfl
  have hi : i < lines.length := by omega
  rw [IsContinuation, IsContinuation, htake, Assembly.run_append_singleton,
    Assembly.isSome_pending_step_iff]
  simp [hlength, hi]

/-- The lines that continue an instruction are those that stand in a block. -/
lemma isContinuation_iff (hi : i < lines.length) :
    IsContinuation escape lines i ↔ StandsInBlock escape lines i := by
  -- The block of a line is that of the line before it, or the line before it opens one.
  induction i with
  | zero => simp [IsContinuation, StandsInBlock, Assembly.run, Assembly.empty]
  | succ i ih =>
    have hline : lines[i]? = some lines[i] := List.getElem?_eq_getElem _
    rw [isContinuation_succ_iff hline hi]
    constructor
    · rintro (⟨hcontinuation, hkeeps⟩ | ⟨hclosed, hopens⟩)
      · obtain ⟨j, hj, hclosed, hopens, hbetween⟩ := (ih (by omega)).mp hcontinuation
        refine ⟨j, by omega, hclosed, hopens, fun k hjk hk line hget => ?_⟩
        rcases Nat.lt_succ_iff_lt_or_eq.mp hk with hk | rfl
        · exact hbetween k hjk hk line hget
        · rw [hline] at hget
          cases hget
          exact hkeeps
      · exact ⟨i, by omega, hclosed, ⟨_, hline, hopens⟩, fun k hik hk => by omega⟩
    · rintro ⟨j, hj, hclosed, hopens, hbetween⟩
      rcases Nat.lt_succ_iff_lt_or_eq.mp hj with hj | rfl
      · refine Or.inl ⟨(ih (by omega)).mpr ⟨j, hj, hclosed, hopens, ?_⟩, ?_⟩
        · exact fun k hjk hk => hbetween k hjk (by omega)
        · exact hbetween i hj (by omega) _ hline
      · obtain ⟨line, hget, hopens⟩ := hopens
        rw [hline] at hget
        cases hget
        exact Or.inr ⟨hclosed, hopens⟩

/-! ### The line that names the base image -/

lemma isFromLine_iff {line : Text} : IsFromLine line ↔ (Text.words line).head?.any isFrom := by
  unfold IsFromLine
  cases Text.words line <;> simp

instance (line : Text) : Decidable (IsFromLine line) := decidable_of_iff _ isFromLine_iff.symm

lemma not_isFromLine_nil : ¬ IsFromLine [] := by decide

lemma baseImage?_cons_of_isFromLine {line : Text} (h : IsFromLine line) (lines : List Text) :
    baseImage? (line :: lines) = (Text.words line).tail.head? := by
  obtain ⟨keyword, others, hwords, hfrom⟩ := h
  rw [baseImage?, hwords]
  simp [hfrom]

lemma baseImage?_cons_of_not_isFromLine {line : Text} (h : ¬ IsFromLine line)
    (lines : List Text) : baseImage? (line :: lines) = baseImage? lines := by
  rw [baseImage?]
  cases hwords : Text.words line with
  | nil => rfl
  | cons keyword others =>
    have hfrom : ¬ isFrom keyword := fun hfrom => h ⟨keyword, others, hwords, hfrom⟩
    simp [hfrom]

/-- Lines with the same base image have the same one behind any other lines. -/
lemma baseImage?_append_congr {lines others : List Text} (h : baseImage? lines = baseImage? others)
    (before : List Text) : baseImage? (before ++ lines) = baseImage? (before ++ others) := by
  induction before with
  | nil => exact h
  | cons line before ih =>
    rw [List.cons_append, List.cons_append]
    by_cases hline : IsFromLine line
    · rw [baseImage?_cons_of_isFromLine hline, baseImage?_cons_of_isFromLine hline]
    · rw [baseImage?_cons_of_not_isFromLine hline, baseImage?_cons_of_not_isFromLine hline, ih]

/-- The base image is the second word of the line that names it. -/
lemma baseImage?_of_isImageLine {line : Text} (h : IsImageLine lines i)
    (hline : lines[i]? = some line) : baseImage? lines = (Text.words line).tail.head? := by
  induction lines generalizing i with
  | nil => simp at hline
  | cons first lines ih =>
    obtain ⟨⟨other, hother, hfrom⟩, hbefore⟩ := h
    rw [hline] at hother
    cases hother
    cases i with
    | zero =>
      cases hline
      exact baseImage?_cons_of_isFromLine hfrom lines
    | succ i =>
      rw [List.getElem?_cons_succ] at hline
      have hfirst : ¬ IsFromLine first := hbefore 0 (Nat.succ_pos i) first rfl
      rw [baseImage?_cons_of_not_isFromLine hfirst]
      refine ih ⟨⟨line, hline, hfrom⟩, fun j hj other hget => ?_⟩ hline
      exact hbefore (j + 1) (Nat.succ_lt_succ hj) other hget

/-- Without a line that names it there is no base image. -/
lemma baseImage?_of_forall_not (h : ∀ line ∈ lines, ¬ IsFromLine line) :
    baseImage? lines = none := by
  induction lines with
  | nil => rfl
  | cons line lines ih =>
    obtain ⟨hline, hlines⟩ := List.forall_mem_cons.mp h
    rw [baseImage?_cons_of_not_isFromLine hline, ih hlines]

/-- A line names the base image, or none begins with the keyword. -/
lemma exists_isImageLine_or (lines : List Text) :
    (∃ i, IsImageLine lines i) ∨ ∀ line ∈ lines, ¬ IsFromLine line := by
  classical
  by_cases h : ∃ (i : Nat) (line : Text), lines[i]? = some line ∧ IsFromLine line
  · refine Or.inl ⟨Nat.find h, Nat.find_spec h, fun j hj line hline hfrom => ?_⟩
    exact Nat.find_min h hj ⟨line, hline, hfrom⟩
  · refine Or.inr fun line hmem hfrom => h ?_
    obtain ⟨i, hi⟩ := List.mem_iff_getElem?.mp hmem
    exact ⟨i, line, hi, hfrom⟩

/-! ### Lines that do not matter for the base image -/

lemma getElem?_blanked (escape : Text) (lines : List Text) (i : Nat) :
    (blanked escape lines)[i]? = lines[i]?.map fun line =>
      if (Assembly.run escape (lines.take i)).pending.isSome then [] else line :=
  List.getElem?_mapIdx

/-- Only lines that begin with the keyword do so once others are blank. -/
lemma exists_isFromLine_of_blanked {line : Text} (hget : (blanked escape lines)[i]? = some line)
    (hfrom : IsFromLine line) : lines[i]? = some line := by
  rw [getElem?_blanked] at hget
  obtain ⟨other, hother, hline⟩ := Option.map_eq_some_iff.mp hget
  split at hline
  · rw [← hline] at hfrom
    exact absurd hfrom not_isFromLine_nil
  · rw [hother, hline]

/-- A line that names the base image and continues no instruction names it still. -/
lemma IsImageLine.blanked (h : IsImageLine lines i) (hi : ¬ IsContinuation escape lines i) :
    IsImageLine (blanked escape lines) i := by
  obtain ⟨⟨line, hline, hfrom⟩, hbefore⟩ := h
  have hlength : i < lines.length := (List.getElem?_eq_some_iff.mp hline).1
  have hclosed : ¬ (Assembly.run escape (lines.take i)).pending.isSome :=
    fun hopen => hi ⟨hlength, hopen⟩
  refine ⟨⟨line, ?_, hfrom⟩, fun j hj other hget hother => ?_⟩
  · rw [getElem?_blanked, hline, Option.map_some, if_neg hclosed]
  · exact hbefore j hj other (exists_isFromLine_of_blanked hget hother) hother

/-- If the line that names the base image continues no instruction, the base image stays when all
lines that continue one are blank. -/
lemma baseImage?_blanked (h : ∀ i, IsImageLine lines i → ¬ IsContinuation escape lines i) :
    baseImage? (blanked escape lines) = baseImage? lines := by
  rcases exists_isImageLine_or lines with ⟨i, hi⟩ | hnone
  · obtain ⟨line, hline, -⟩ := hi.1
    have hblanked := hi.blanked (h i hi)
    obtain ⟨other, hother, hfrom⟩ := hblanked.1
    have hsame := exists_isFromLine_of_blanked hother hfrom
    rw [hline] at hsame
    cases hsame
    rw [baseImage?_of_isImageLine hi hline, baseImage?_of_isImageLine hblanked hother]
  · rw [baseImage?_of_forall_not hnone]
    refine baseImage?_of_forall_not fun line hmem hfrom => ?_
    obtain ⟨i, hi⟩ := List.mem_iff_getElem?.mp hmem
    exact hnone line (List.mem_of_getElem? (exists_isFromLine_of_blanked hi hfrom)) hfrom

/-- The base image is the second word of the line that names it, wherever that line stands.  The
line continues an instruction exactly if it stands in a block that a line before it opened; so it
does not if no instruction begins before it.  If it does not, the check of the base image gives the
same when all lines that continue an instruction are blank. -/
theorem roles_of_image_line (escape : Text) (lines : List Text) :
    (∀ i line, IsImageLine lines i → lines[i]? = some line →
        baseImage? lines = (Text.words line).tail.head?)
      ∧ (∀ i, IsImageLine lines i →
        (IsContinuation escape lines i ↔ StandsInBlock escape lines i))
      ∧ (∀ i, IsImageLine lines i →
        (∀ j < i, ∀ line, lines[j]? = some line → opened? escape line = none) →
        ¬ IsContinuation escape lines i)
      ∧ ((∀ i, IsImageLine lines i → ¬ IsContinuation escape lines i) →
        ∀ expected, checkBaseImage (blanked escape lines) expected
          = checkBaseImage lines expected) := by
  have hiff : ∀ i, IsImageLine lines i →
      (IsContinuation escape lines i ↔ StandsInBlock escape lines i) := by
    rintro i ⟨⟨line, hline, -⟩, -⟩
    exact isContinuation_iff (List.getElem?_eq_some_iff.mp hline).1
  refine ⟨fun i line hi hline => baseImage?_of_isImageLine hi hline, hiff,
    fun i hi hbefore hcontinuation => ?_, fun h expected => ?_⟩
  · obtain ⟨j, hj, -, ⟨line, hline, body, hopened, -⟩, -⟩ := (hiff i hi).mp hcontinuation
    rw [hbefore j hj line hline] at hopened
    cases hopened
  · rw [checkBaseImage, checkBaseImage, baseImage?_blanked h]

/-- Behind the line that names the base image a keyword may stand in an instruction. -/
theorem roles_of_image_line_first :
    let lines : List Text := ["FROM a", "RUN x \\", "FROM b"]
    IsImageLine lines 0 ∧ ¬ IsContinuation (escapeOf lines) lines 0
      ∧ IsContinuation (escapeOf lines) lines 2 ∧ baseImage? lines = some "a"
      ∧ checkBaseImage (blanked (escapeOf lines) lines) "a" = checkBaseImage lines "a" := by
  intro lines
  have hfirst : IsFromLine ("FROM a" : Text) := by decide +kernel
  have himage : IsImageLine lines 0 := ⟨⟨_, rfl, hfirst⟩, fun j hj => absurd hj (Nat.not_lt_zero j)⟩
  have hunique : ∀ i, IsImageLine lines i → i = 0 := by
    intro i hi
    by_contra hne
    exact hi.2 0 (Nat.pos_of_ne_zero hne) _ rfl hfirst
  obtain ⟨himageWord, -, hclosed, hcheck⟩ := roles_of_image_line (escapeOf lines) lines
  have hzero : ¬ IsContinuation (escapeOf lines) lines 0 :=
    hclosed 0 himage fun j hj => absurd hj (Nat.not_lt_zero j)
  have hword : baseImage? lines = some "a" := by
    rw [himageWord 0 _ himage rfl]
    decide +kernel
  refine ⟨himage, hzero, ⟨by decide, by decide +kernel⟩, hword, hcheck (fun i hi => ?_) "a"⟩
  rw [hunique i hi]
  exact hzero

/-- If a file begins with an instruction that goes on, the line that names the base image may
continue it, and the check of the base image is about that line. -/
theorem image_line_continues_instruction :
    let lines : List Text := ["RUN a \\", "FROM x"]
    IsImageLine lines 1 ∧ IsContinuation (escapeOf lines) lines 1
      ∧ checkBaseImage (blanked (escapeOf lines) lines) "x" ≠ checkBaseImage lines "x" := by
  intro lines
  refine ⟨⟨⟨_, rfl, by decide +kernel⟩, fun j hj line hline => ?_⟩, ⟨by decide, by decide +kernel⟩,
    by decide +kernel⟩
  obtain rfl : j = 0 := by omega
  cases hline
  decide +kernel

end Dockerfile

end DockCheck
