import DockCheck.Dockerfile.Run
import DockCheck.Proofs.Text.Fields
import Mathlib.Data.List.DropRight
import Mathlib.Tactic.Common

/-!
# The segments of a Dockerfile

`runInstructions` walks over the lines of a file with a state that is open or closed.  This module
reads the same file by a grammar without a state: `segments` cuts the lines into *segments*, of
which each is a line outside of every instruction, an instruction on one line, or an instruction
that goes on over the lines behind its first one.

The main statement, `runInstructions_eq_segments`, says that the instructions are those of the
segments in their order, one for each segment that holds an instruction, and that the segments put
together again are the lines of the file.  So every line belongs to one segment, and a line that
looks like the start of an instruction opens none if it stands within one.
-/

namespace DockCheck

namespace Dockerfile

/-! ### The grammar -/

/-- What an instruction says on the line that opens it: the text behind the keyword, which stands
in any letter case at the start of the stripped line and is followed by the end of the line, by
white space or by the escape text. -/
def opened? (escape line : Text) : Option Text :=
  match Text.strip line with
  | r :: u :: n :: rest =>
    if [r, u, n].map Text.asciiLower = ['r', 'u', 'n']
        ∧ (rest = [] ∨ rest.head?.any Text.isBlank ∨ escape <+: rest) then
      some (Text.strip rest)
    else none
  | _ => none

/-- Does the line, stripped, count for nothing within an instruction?  Blank lines and comments
do. -/
def IsIdle (line : Text) : Prop := Text.strip line = [] ∨ ['#'] <+: Text.strip line

instance (line : Text) : Decidable (IsIdle line) := inferInstanceAs (Decidable (_ ∨ _))

/-- Does an instruction that is open before the line stay open after it? -/
def KeepsOpen (escape line : Text) : Prop := IsIdle line ∨ escape <:+ Text.strip line

instance (escape line : Text) : Decidable (KeepsOpen escape line) :=
  inferInstanceAs (Decidable (_ ∨ _))

/-- The lines that belong to an instruction that is open before them: those that keep it open, and
the first one that does not. -/
def following (escape : Text) (lines : List Text) : List Text :=
  lines.takeWhile (KeepsOpen escape ·) ++ (lines.dropWhile (KeepsOpen escape ·)).take 1

/-- The lines behind an instruction that is open before the given ones. -/
def remaining (escape : Text) (lines : List Text) : List Text :=
  (lines.dropWhile (KeepsOpen escape ·)).drop 1

/-- A stripped line without the escape text at its end, if it has it there. -/
def contribution (escape line : Text) : Text :=
  if escape <:+ line then Text.strip (line.rdrop escape.length) else line

/-- A part of a Dockerfile. -/
inductive Segment where
  /-- A line outside of every instruction. -/
  | other (line : Text)
  /-- An instruction on one line, which says `body`. -/
  | single (line body : Text)
  /-- An instruction whose first line says `body` and ends in the escape text, with the lines that
  follow. -/
  | block (line body : Text) (following : List Text)
  deriving DecidableEq, Repr

namespace Segment

/-- The lines of a segment. -/
def lines : Segment → List Text
  | other line => [line]
  | single line _ => [line]
  | block line _ following => line :: following

/-- The instruction of a segment that holds one.  A block contributes what its lines say before
the escape text, without idle lines and empty parts, joined by single spaces. -/
def instruction? (escape : Text) : Segment → Option Text
  | other _ => none
  | single _ body => some body
  | block _ body following =>
    let parts := (following.filter (¬ IsIdle ·)).map Text.strip
    some ([' '].intercalate (((body :: parts).map (contribution escape)).filter (· ≠ [])))

end Segment

lemma length_remaining_le (escape : Text) (lines : List Text) :
    (remaining escape lines).length ≤ lines.length := by
  have h := (List.dropWhile_suffix (l := lines) (KeepsOpen escape ·)).length_le
  rw [remaining, List.length_drop]
  omega

/-- The segments of the given lines, if no instruction is open before them. -/
def segments (escape : Text) : List Text → List Segment
  | [] => []
  | line :: rest =>
    match opened? escape line with
    | none => .other line :: segments escape rest
    | some body =>
      if escape <:+ body then
        .block line body (following escape rest) :: segments escape (remaining escape rest)
      else .single line body :: segments escape rest
  termination_by lines => lines.length
  decreasing_by
    all_goals simp only [List.length_cons, Nat.lt_succ_iff, le_refl]
    exact length_remaining_le escape rest

/-! ### The grammar and the state -/

/-- The keyword is recognised in the same lines. -/
lemma runBody?_strip (escape line : Text) :
    runBody? escape (Text.strip line) = opened? escape line := by
  unfold runBody? opened?
  rcases Text.strip line with _ | ⟨r, _ | ⟨u, _ | ⟨n, rest⟩⟩⟩
  · rfl
  · simp
  · simp
  · have hword : ("run" : Text) = ['r', 'u', 'n'] := rfl
    cases rest <;> simp [hword, Text.startsWith, and_assoc]

lemma endsWith_iff (line escape : Text) : Text.endsWith line escape ↔ escape <:+ line :=
  List.isSuffixOf_iff_suffix

lemma isSkipped_strip_iff (line : Text) :
    Assembly.isSkipped (Text.strip line) ↔ IsIdle line := by
  simp [Assembly.isSkipped, IsIdle, Text.startsWith, List.isPrefixOf_iff_prefix]

lemma beforeEscape_eq {escape line : Text} (he : escape ≠ []) (h : escape <:+ line) :
    beforeEscape escape line = contribution escape line := by
  simp [beforeEscape, contribution, h, he, List.rdrop, Text.dropRight]

lemma joinParts_eq (parts : List Text) :
    joinParts parts = [' '].intercalate (parts.filter (· ≠ [])) := by
  rw [joinParts, Text.join_eq_intercalate]
  congr 2
  funext part
  cases part <;> simp

/-- A part alone is an instruction as it is. -/
lemma joinParts_singleton (part : Text) : joinParts [part] = part := by
  cases part <;> simp [joinParts, Text.join]

namespace Assembly

variable {escape line body : Text} {complete : List Text} {parts : List Text}

lemma step_other (h : opened? escape line = none) :
    step escape ⟨complete, none⟩ line = ⟨complete, none⟩ := by
  simp [step, runBody?_strip, h]

lemma step_single (h : opened? escape line = some body) (hbody : ¬ escape <:+ body) :
    step escape ⟨complete, none⟩ line = ⟨body :: complete, none⟩ := by
  simp [step, runBody?_strip, h, endsWith_iff, hbody, close, joinParts_singleton]

lemma step_block (he : escape ≠ []) (h : opened? escape line = some body)
    (hbody : escape <:+ body) :
    step escape ⟨complete, none⟩ line = ⟨complete, some [contribution escape body]⟩ := by
  simp [step, runBody?_strip, h, endsWith_iff, hbody, beforeEscape_eq he hbody]

lemma step_idle (h : IsIdle line) :
    step escape ⟨complete, some parts⟩ line = ⟨complete, some parts⟩ := by
  simp [step, isSkipped_strip_iff, h]

lemma step_continued (he : escape ≠ []) (hidle : ¬ IsIdle line)
    (h : escape <:+ Text.strip line) :
    step escape ⟨complete, some parts⟩ line
      = ⟨complete, some (contribution escape (Text.strip line) :: parts)⟩ := by
  simp [step, isSkipped_strip_iff, hidle, endsWith_iff, h, beforeEscape_eq he h]

lemma step_last (h : ¬ KeepsOpen escape line) :
    step escape ⟨complete, some parts⟩ line
      = ⟨joinParts (parts.reverse ++ [contribution escape (Text.strip line)]) :: complete,
          none⟩ := by
  have hidle : ¬ IsIdle line := fun hidle => h (Or.inl hidle)
  have hescape : ¬ escape <:+ Text.strip line := fun hescape => h (Or.inr hescape)
  simp [step, isSkipped_strip_iff, hidle, endsWith_iff, hescape, close, contribution]

end Assembly

/-- What the lines behind the first one contribute to an instruction. -/
def contributions (escape : Text) (lines : List Text) : List Text :=
  ((lines.filter (¬ IsIdle ·)).map Text.strip).map (contribution escape)

section Open

variable {escape line : Text} {lines : List Text}

lemma following_cons_of_keepsOpen (h : KeepsOpen escape line) :
    following escape (line :: lines) = line :: following escape lines := by
  simp [following, h]

lemma remaining_cons_of_keepsOpen (h : KeepsOpen escape line) :
    remaining escape (line :: lines) = remaining escape lines := by
  simp [remaining, h]

lemma following_cons_of_not_keepsOpen (h : ¬ KeepsOpen escape line) :
    following escape (line :: lines) = [line] := by
  simp [following, h]

lemma remaining_cons_of_not_keepsOpen (h : ¬ KeepsOpen escape line) :
    remaining escape (line :: lines) = lines := by
  simp [remaining, h]

lemma following_append_remaining (escape : Text) (lines : List Text) :
    following escape lines ++ remaining escape lines = lines := by
  rw [following, remaining, List.append_assoc, List.take_append_drop,
    List.takeWhile_append_dropWhile]

end Open

open Assembly in
/-- From an open state, the lines that follow complete the instruction, and the rest of the file is
read from a closed state.  A file that ends too early completes the instruction, too. -/
lemma close_foldl_step_open {escape : Text} (he : escape ≠ []) (complete : List Text)
    (lines parts : List Text) :
    (lines.foldl (step escape) ⟨complete, some parts⟩).close
      = ((remaining escape lines).foldl (step escape)
          ⟨joinParts (parts.reverse ++ contributions escape (following escape lines)) :: complete,
            none⟩).close := by
  induction lines generalizing parts with
  | nil => simp [remaining, following, contributions, close]
  | cons line lines ih =>
    rw [List.foldl_cons]
    by_cases hkeep : KeepsOpen escape line
    · rw [following_cons_of_keepsOpen hkeep, remaining_cons_of_keepsOpen hkeep]
      by_cases hidle : IsIdle line
      · rw [step_idle hidle, ih]
        simp [contributions, hidle]
      · have hescape : escape <:+ Text.strip line := hkeep.resolve_left hidle
        rw [step_continued he hidle hescape, ih]
        simp [contributions, hidle]
    · have hidle : ¬ IsIdle line := fun hidle => hkeep (Or.inl hidle)
      rw [following_cons_of_not_keepsOpen hkeep, remaining_cons_of_not_keepsOpen hkeep,
        step_last hkeep]
      simp [contributions, hidle]

open Assembly in
/-- From a closed state, the instructions of the segments are completed one after the other. -/
lemma complete_close_foldl_step {escape : Text} (he : escape ≠ []) (complete lines : List Text) :
    (lines.foldl (step escape) ⟨complete, none⟩).close.complete.reverse
      = complete.reverse ++ (segments escape lines).filterMap (Segment.instruction? escape) := by
  induction lines using segments.induct escape generalizing complete with
  | case1 => simp [segments, close]
  | case2 line rest h ih =>
    rw [List.foldl_cons, step_other h, ih, segments, h, List.filterMap_cons_none rfl]
  | case3 line rest body h hbody ih =>
    rw [List.foldl_cons, step_block he h hbody, close_foldl_step_open he, ih, segments, h]
    simp [hbody, Segment.instruction?, joinParts_eq, contributions]
  | case4 line rest body h hbody ih =>
    rw [List.foldl_cons, step_single h hbody, ih, segments, h]
    simp [hbody, Segment.instruction?]

open Assembly in
/-- From a closed state, the instructions of the lines come behind those that are complete. -/
lemma Assembly.reverse_complete_close_foldl_step {escape : Text} (he : escape ≠ [])
    (complete lines : List Text) :
    (lines.foldl (step escape) ⟨complete, none⟩).close.complete.reverse
      = complete.reverse ++ runInstructions escape lines := by
  have hlines := complete_close_foldl_step he [] lines
  rw [complete_close_foldl_step he, ← List.nil_append (List.filterMap _ _)]
  exact congrArg (complete.reverse ++ ·) hlines.symm

/-- The segments put together again are the lines. -/
lemma flatMap_lines_segments (escape : Text) (lines : List Text) :
    (segments escape lines).flatMap Segment.lines = lines := by
  induction lines using segments.induct escape with
  | case1 => simp [segments]
  | case2 line rest h ih => simp [segments, h, Segment.lines, ih]
  | case3 line rest body h hbody ih =>
    simp [segments, h, hbody, Segment.lines, ih, following_append_remaining]
  | case4 line rest body h hbody ih => simp [segments, h, hbody, Segment.lines, ih]

/-- The instructions of a file are those of its segments, in order and one for each segment that
holds one, and the segments cut the lines of the file up. -/
theorem runInstructions_eq_segments {escape : Text} (he : escape ≠ []) (lines : List Text) :
    runInstructions escape lines
        = (segments escape lines).filterMap (Segment.instruction? escape)
      ∧ (segments escape lines).flatMap Segment.lines = lines := by
  refine ⟨?_, flatMap_lines_segments escape lines⟩
  have h := complete_close_foldl_step he [] lines
  rwa [List.reverse_nil, List.nil_append] at h

/-- An instruction passes over a comment and takes a line in that begins with the keyword, and the
last one is still open at the end of the file. -/
theorem runInstructions_open_at_end :
    let lines : List Text := ["RUN a \\", "# note", "run b", "FROM x", "RUN c \\"]
    (['\\'] : Text) ≠ []
      ∧ (segments ['\\'] lines).filterMap (Segment.instruction? ['\\']) = ["a run b", "c"]
      ∧ (segments ['\\'] lines).flatMap Segment.lines = lines := by
  intro lines
  have he : (['\\'] : Text) ≠ [] := by decide
  have h := runInstructions_eq_segments he lines
  exact ⟨he, h.1.symm.trans (by decide +kernel), h.2⟩

end Dockerfile

end DockCheck
