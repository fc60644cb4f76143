import DockCheck.Proofs.Checker.Stages
import DockCheck.Proofs.Dockerfile.EscapeChoice
import DockCheck.Proofs.Dockerfile.Roles
import DockCheck.Proofs.Text.Blank
import Mathlib.Logic.Relation

/-!
# Layout and lines that say nothing

A Dockerfile can be laid out in many ways: white space at the ends of its lines, blank lines and
comments do not matter, nor do the instructions that no check looks at.  `Edit` is one change of
this kind.

The main statement, `check_of_edits`, says that no number of such changes alters the escape
character, the base image or the run instructions of a file, and so neither what comes out of a
check of it.  Each of the three is read in a walk along the lines, so that it is enough to see what
the walk does at the line that is changed.
-/

namespace DockCheck

namespace Dockerfile

/-! ### Edits -/

/-- One of the lines is no directive, so that the directives end before the lines do. -/
def EndsDirectives (lines : List Text) : Prop := ∃ line ∈ lines, Directive.ofLine? line = none

/-- No run instruction is open behind the lines. -/
def IsClosed (escape : Text) (lines : List Text) : Prop :=
  (Assembly.run escape lines).pending = none

/-- A change of the layout of a file. -/
inductive Edit : List Text → List Text → Prop where
  /-- White space comes to the ends of a line, or is taken from them. -/
  | pad (before after : List Text) {line padded : Text} (h : Text.strip padded = Text.strip line) :
    Edit (before ++ line :: after) (before ++ padded :: after)
  /-- A blank line or a comment comes in behind the directives. -/
  | idle (before after : List Text) {line : Text} (hbefore : EndsDirectives before)
    (h : IsIdle line) : Edit (before ++ after) (before ++ line :: after)
  /-- Behind the directives and outside of every run instruction there comes in a line that neither
  opens a run instruction nor names a base image. -/
  | foreign (before after : List Text) {line : Text} (hbefore : EndsDirectives before)
    (hclosed : IsClosed (escapeOf (before ++ after)) before)
    (hrun : opened? (escapeOf (before ++ after)) line = none) (hfrom : ¬ IsFromLine line) :
    Edit (before ++ after) (before ++ line :: after)

variable {escape line padded : Text} {lines before after : List Text}

/-! ### Lines without the white space at their ends -/

lemma isFromLine_congr (h : Text.strip padded = Text.strip line) :
    IsFromLine padded ↔ IsFromLine line := by
  rw [isFromLine_iff, isFromLine_iff, ← Text.words_strip padded, h, Text.words_strip]

lemma ofLine?_congr (h : Text.strip padded = Text.strip line) :
    Directive.ofLine? padded = Directive.ofLine? line := by
  rw [Directive.ofLine?, h, Directive.ofLine?]

lemma step_congr (h : Text.strip padded = Text.strip line) (state : Assembly) :
    Assembly.step escape state padded = Assembly.step escape state line := by
  rw [Assembly.step, h, Assembly.step]

/-! ### Idle lines -/

/-- An idle line opens no run instruction. -/
lemma opened?_of_isIdle (h : IsIdle line) : opened? escape line = none := by
  unfold opened?
  rcases h with hblank | ⟨rest, hcomment⟩
  · rw [hblank]
  · rw [← hcomment]
    rcases rest with _ | ⟨u, _ | ⟨n, rest⟩⟩
    · rfl
    · rfl
    · have hsign : Text.asciiLower '#' ≠ 'r' := by decide
      simp [hsign]

/-- An idle line names no base image. -/
lemma not_isFromLine_of_isIdle (h : IsIdle line) : ¬ IsFromLine line := by
  rw [isFromLine_iff, ← Text.words_strip]
  rcases h with hblank | ⟨rest, hcomment⟩
  · rw [hblank]
    simp [Text.words]
  · have hsign : ¬ Text.isBlank '#' := by decide
    obtain ⟨word, others, hwords⟩ := Text.exists_words_cons hsign rest
    have hcomment : Text.words (Text.strip line) = ('#' :: word) :: others := by
      rw [← hcomment, ← hwords]
      rfl
    have hlower : Text.asciiLower '#' ≠ 'f' := by decide
    rw [hcomment]
    simp [isFrom, hlower]

/-- An idle line leaves the state as it is. -/
lemma step_of_isIdle (h : IsIdle line) (state : Assembly) :
    Assembly.step escape state line = state := by
  obtain ⟨complete, pending⟩ := state
  cases pending with
  | none => exact Assembly.step_other (opened?_of_isIdle h)
  | some parts => exact Assembly.step_idle h

/-! ### Walks along the lines -/

/-- The directives end with the first line that is none. -/
lemma escapeOf_append (h : EndsDirectives before) (after : List Text) :
    escapeOf (before ++ after) = escapeOf before := by
  obtain ⟨line, hmem, hline⟩ := h
  obtain ⟨first, rest, rfl⟩ := List.append_of_mem hmem
  have hsame : escapeOf (line :: (rest ++ after)) = escapeOf (line :: rest) := by
    rw [escapeOf_cons, escapeOf_cons, hline]
  rw [List.append_assoc, List.cons_append]
  exact escapeOf_append_congr first hsame

/-- A walk goes on from the state behind the lines that it has passed. -/
lemma run_append (before after : List Text) :
    Assembly.run escape (before ++ after)
      = after.foldl (Assembly.step escape) (Assembly.run escape before) := by
  rw [Assembly.run, Assembly.run, List.foldl_append]

/-- A line that leaves the state behind the lines before it as it is adds no instruction. -/
lemma runInstructions_insert
    (h : Assembly.step escape (Assembly.run escape before) line = Assembly.run escape before)
    (after : List Text) :
    runInstructions escape (before ++ line :: after)
      = runInstructions escape (before ++ after) := by
  rw [runInstructions, run_append, List.foldl_cons, h, ← run_append, runInstructions]

/-- Two lines that lead to the same state count for the same. -/
lemma runInstructions_replace
    (h : ∀ state, Assembly.step escape state padded = Assembly.step escape state line)
    (before after : List Text) :
    runInstructions escape (before ++ padded :: after)
      = runInstructions escape (before ++ line :: after) := by
  rw [runInstructions, run_append, List.foldl_cons, h, ← List.foldl_cons, ← run_append,
    runInstructions]

/-! ### What an edit leaves as it is -/

/-- Two files are read alike: they have the same escape character, the same base image and the same
run instructions. -/
structure ReadAlike (lines others : List Text) : Prop where
  escape : escapeOf others = escapeOf lines
  image : baseImage? others = baseImage? lines
  instructions :
    runInstructions (escapeOf others) others = runInstructions (escapeOf lines) lines

lemma ReadAlike.refl (lines : List Text) : ReadAlike lines lines := ⟨rfl, rfl, rfl⟩

lemma ReadAlike.trans {lines middle others : List Text} (h : ReadAlike lines middle)
    (h' : ReadAlike middle others) : ReadAlike lines others :=
  ⟨h'.escape.trans h.escape, h'.image.trans h.image, h'.instructions.trans h.instructions⟩

/-- A line that comes in behind the directives, leaves the state before it as it is and names no
base image does not change how a file is read. -/
lemma readAlike_insert (hbefore : EndsDirectives before)
    (hstep : Assembly.step (escapeOf (before ++ after))
      (Assembly.run (escapeOf (before ++ after)) before) line
        = Assembly.run (escapeOf (before ++ after)) before)
    (hfrom : ¬ IsFromLine line) : ReadAlike (before ++ after) (before ++ line :: after) := by
  have hescape : escapeOf (before ++ line :: after) = escapeOf (before ++ after) := by
    rw [escapeOf_append hbefore, escapeOf_append hbefore]
  have himage : baseImage? (line :: after) = baseImage? after :=
    baseImage?_cons_of_not_isFromLine hfrom after
  refine ⟨hescape, baseImage?_append_congr himage before, ?_⟩
  rw [hescape]
  exact runInstructions_insert hstep after

/-- An edit does not change how a file is read. -/
lemma Edit.readAlike {others : List Text} (h : Edit lines others) : ReadAlike lines others := by
  cases h with
  | @pad before after line padded h =>
    have hescape : escapeOf (before ++ padded :: after) = escapeOf (before ++ line :: after) := by
      refine escapeOf_append_congr before ?_
      rw [escapeOf_cons, escapeOf_cons, ofLine?_congr h]
    have himage : baseImage? (padded :: after) = baseImage? (line :: after) := by
      by_cases hline : IsFromLine line
      · have hpadded : IsFromLine padded := (isFromLine_congr h).mpr hline
        rw [baseImage?_cons_of_isFromLine hline, baseImage?_cons_of_isFromLine hpadded,
          ← Text.words_strip padded, h, Text.words_strip]
      · have hpadded : ¬ IsFromLine padded := fun hpadded => hline ((isFromLine_congr h).mp hpadded)
        rw [baseImage?_cons_of_not_isFromLine hline, baseImage?_cons_of_not_isFromLine hpadded]
    refine ⟨hescape, baseImage?_append_congr himage before, ?_⟩
    rw [hescape]
    exact runInstructions_replace (step_congr h) before after
  | idle before after hbefore h =>
    exact readAlike_insert hbefore (step_of_isIdle h _) (not_isFromLine_of_isIdle h)
  | @foreign before after line hbefore hclosed hrun hfrom =>
    refine readAlike_insert hbefore ?_ hfrom
    -- Outside of every instruction the line leaves the state as it is.
    generalize hstate : Assembly.run (escapeOf (before ++ after)) before = state at *
    obtain ⟨complete, pending⟩ := state
    have hpending : pending = none := by
      rw [IsClosed, hstate] at hclosed
      exact hclosed
    subst hpending
    exact Assembly.step_other hrun

lemma readAlike_of_edits {others : List Text} (h : Relation.ReflTransGen Edit lines others) :
    ReadAlike lines others := by
  induction h with
  | refl => exact .refl lines
  | tail _ hlast ih => exact ih.trans hlast.readAlike

/-- However often a file is edited, it keeps its escape character, its base image and its run
instructions.  So a check of the base image gives the same, and so does a check of the whole file:
the same report, or the same failure. -/
theorem check_of_edits {others : List Text} (h : Relation.ReflTransGen Edit lines others) :
    escapeOf others = escapeOf lines
      ∧ baseImage? others = baseImage? lines
      ∧ runInstructions (escapeOf others) others = runInstructions (escapeOf lines) lines
      ∧ (∀ expected, checkBaseImage others expected = checkBaseImage lines expected)
      ∧ ∀ files checker content edited, Text.lines content = lines → Text.lines edited = others →
        (Checker.check files edited checker).outcome
          = (Checker.check files content checker).outcome := by
  obtain ⟨hescape, himage, hinstructions⟩ := readAlike_of_edits h
  have hcheck : ∀ expected, checkBaseImage others expected = checkBaseImage lines expected := by
    intro expected
    rw [checkBaseImage, himage, checkBaseImage]
  refine ⟨hescape, himage, hinstructions, hcheck, ?_⟩
  rintro files checker content edited rfl rfl
  have hscanned : Checker.scanned edited = Checker.scanned content := by
    unfold Checker.scanned
    dsimp only
    rw [hinstructions]
  rw [Checker.outcome_check, Checker.outcome_check, hscanned, hcheck]

/-- A line of its own, a comment in a run instruction and white space before its keyword change
nothing. -/
theorem check_of_edits_within_instruction :
    let content : Text := "FROM alpine\nRUN a \\\nb"
    let edited : Text := "FROM alpine\nENV x=1\n\tRUN a \\\n# note\nb"
    Relation.ReflTransGen Edit (Text.lines content) (Text.lines edited)
      ∧ escapeOf (Text.lines edited) = escapeOf (Text.lines content)
      ∧ baseImage? (Text.lines edited) = some "alpine"
      ∧ runInstructions (escapeOf (Text.lines edited)) (Text.lines edited) = ["a b"]
      ∧ ∀ files checker, (Checker.check files edited checker).outcome
          = (Checker.check files content checker).outcome := by
  intro content edited
  have hcontent : Text.lines content = ["FROM alpine", "RUN a \\", "b"] := by decide +kernel
  have hedited : Text.lines edited
      = ["FROM alpine", "ENV x=1", "\tRUN a \\", "# note", "b"] := by decide +kernel
  have hends : EndsDirectives ["FROM alpine"] := ⟨_, List.mem_cons_self, by decide +kernel⟩
  have hforeign : Edit ["FROM alpine", "RUN a \\", "b"]
      ["FROM alpine", "ENV x=1", "RUN a \\", "b"] :=
    .foreign ["FROM alpine"] _ hends (by unfold IsClosed; decide +kernel)
      (by decide +kernel) (by decide +kernel)
  have hpad : Edit ["FROM alpine", "ENV x=1", "RUN a \\", "b"]
      ["FROM alpine", "ENV x=1", "\tRUN a \\", "b"] :=
    .pad ["FROM alpine", "ENV x=1"] _ (by decide +kernel)
  have hidle : Edit ["FROM alpine", "ENV x=1", "\tRUN a \\", "b"]
      ["FROM alpine", "ENV x=1", "\tRUN a \\", "# note", "b"] :=
    .idle ["FROM alpine", "ENV x=1", "\tRUN a \\"] _
      ⟨_, List.mem_cons_self, by decide +kernel⟩ (by decide +kernel)
  have hedits : Relation.ReflTransGen Edit (Text.lines content) (Text.lines edited) := by
    rw [hcontent, hedited]
    exact .tail (.tail (.single hforeign) hpad) hidle
  obtain ⟨hescape, himage, hinstructions, -, hcheck⟩ := check_of_edits hedits
  refine ⟨hedits, hescape, himage.trans (by decide +kernel),
    hinstructions.trans (by decide +kernel), fun files checker => ?_⟩
  exact hcheck files checker content edited rfl rfl

end Dockerfile

end DockCheck
