import DockCheck.Proofs.Dockerfile.Directives
import DockCheck.Proofs.Traversal

/-!
# The choice of the escape character

The directives that count are those of the block of directive lines at the start of a file
(`OpeningBlock`), and the first of them that chooses an escape character (`Chooses`) decides.  The
main statement, `escapeOf_eq_iff`, says so of `escapeOf`, and that neither the lines behind the
block nor the other directives in it matter.
-/

namespace DockCheck

namespace Dockerfile

/-- The line is the directive for the escape character, and its value is one of the two that there
are. -/
def Chooses (line value : Text) : Prop :=
  ∃ directive, Says line directive ∧ directive.name.map Text.asciiLower = "escape"
    ∧ directive.value = value ∧ (value = "\\" ∨ value = "`")

/-- The first of the lines that chooses an escape character chooses this one. -/
def FirstChoice (lines : List Text) (value : Text) : Prop :=
  Reaches (fun line => ∀ other, ¬ Chooses line other) (fun line => Chooses line value) lines

/-- The block is the longest part at the start of the lines that consists of directives. -/
structure OpeningBlock (lines block rest : List Text) : Prop where
  cut : lines = block ++ rest
  directives : ∀ line ∈ block, ∃ directive, Says line directive
  ends : ∀ line, rest.head? = some line → ∀ directive, ¬ Says line directive

variable {line value : Text} {lines block rest : List Text} {directive : Directive}

/-! ### One line -/

lemma Directive.escape?_eq_some_iff :
    directive.escape? = some value
      ↔ directive.name.map Text.asciiLower = "escape" ∧ directive.value = value
        ∧ (value = "\\" ∨ value = "`") := by
  have hknown : ∀ text : Text, (["\\", "`"] : List Text).contains text
      ↔ text = "\\" ∨ text = "`" := by
    simp
  rw [escape?, Option.ite_none_right_eq_some, Bool.and_eq_true, decide_eq_true_iff, hknown,
    Option.some.injEq, and_assoc]
  refine and_congr_right fun _ => ?_
  constructor
  · rintro ⟨hvalue, rfl⟩
    exact ⟨rfl, hvalue⟩
  · rintro ⟨rfl, hvalue⟩
    exact ⟨hvalue, rfl⟩

lemma chooses_iff : Chooses line value
    ↔ ∃ directive, Directive.ofLine? line = some directive ∧ directive.escape? = some value := by
  simp only [Chooses, ofLine?_eq_some_iff, Directive.escape?_eq_some_iff]

/-- A line that is no directive ends the search, one that chooses decides it, and any other leaves
it to the lines behind. -/
lemma escapeOf_cons (line : Text) (lines : List Text) :
    escapeOf (line :: lines)
      = match Directive.ofLine? line with
        | none => defaultEscape
        | some directive => directive.escape?.getD (escapeOf lines) := by
  rw [escapeOf, directives]
  cases Directive.ofLine? line with
  | none => rfl
  | some directive =>
    dsimp only
    rw [List.findSome?_cons]
    cases directive.escape? <;> rfl

/-- Without a directive on the first line the escape character is the usual one. -/
lemma escapeOf_of_forall_not
    (h : ∀ line, lines.head? = some line → ∀ directive, ¬ Says line directive) :
    escapeOf lines = defaultEscape := by
  cases lines with
  | nil => rfl
  | cons line lines =>
    have hnone : Directive.ofLine? line = none := by
      cases hline : Directive.ofLine? line with
      | none => rfl
      | some directive => exact absurd (ofLine?_eq_some_iff.mp hline) (h line rfl directive)
    rw [escapeOf_cons, hnone]

lemma escapeOf_cons_of_chooses (h : Chooses line value) (lines : List Text) :
    escapeOf (line :: lines) = value := by
  obtain ⟨directive, hline, hvalue⟩ := chooses_iff.mp h
  rw [escapeOf_cons, hline]
  dsimp only
  rw [hvalue, Option.getD_some]

lemma escapeOf_cons_of_forall_not (hline : ∃ directive, Says line directive)
    (h : ∀ value, ¬ Chooses line value) (lines : List Text) :
    escapeOf (line :: lines) = escapeOf lines := by
  obtain ⟨directive, hdirective⟩ := hline
  have hnone : directive.escape? = none := by
    cases hescape : directive.escape? with
    | none => rfl
    | some value =>
      have hchooses : Chooses line value :=
        chooses_iff.mpr ⟨directive, hdirective.ofLine?_eq, hescape⟩
      exact absurd hchooses (h value)
  rw [escapeOf_cons, hdirective.ofLine?_eq]
  dsimp only
  rw [hnone, Option.getD_none]

/-- A line chooses one character at most. -/
lemma Chooses.unique {other : Text} (h : Chooses line value) (h' : Chooses line other) :
    value = other :=
  (escapeOf_cons_of_chooses h []).symm.trans (escapeOf_cons_of_chooses h' [])

/-! ### All lines -/

lemma exists_openingBlock (lines : List Text) : ∃ block rest, OpeningBlock lines block rest := by
  induction lines with
  | nil => exact ⟨[], [], rfl, nofun, nofun⟩
  | cons line lines ih =>
    by_cases hline : ∃ directive, Says line directive
    · obtain ⟨block, rest, hcut, hdirectives, hends⟩ := ih
      exact ⟨line :: block, rest, congrArg (line :: ·) hcut,
        List.forall_mem_cons.mpr ⟨hline, hdirectives⟩, hends⟩
    · refine ⟨[], line :: lines, rfl, nofun, fun first hfirst directive hdirective => hline ?_⟩
      obtain rfl : line = first := Option.some.inj hfirst
      exact ⟨directive, hdirective⟩

/-- The first choice in the block decides, and where there is none the backslash is left. -/
lemma OpeningBlock.first_choice_iff (h : OpeningBlock lines block rest) :
    escapeOf lines = value
      ↔ FirstChoice block value
        ∨ (value = "\\" ∧ ∀ line ∈ block, ∀ other, ¬ Chooses line other) := by
  obtain ⟨rfl, hdirectives, hends⟩ := h
  induction block with
  | nil =>
    rw [List.nil_append, escapeOf_of_forall_not hends, defaultEscape, FirstChoice]
    simp [not_reaches_nil, eq_comm]
  | cons line block ih =>
    obtain ⟨hline, hothers⟩ := List.forall_mem_cons.mp hdirectives
    rw [FirstChoice, reaches_cons, ← FirstChoice, List.forall_mem_cons, List.cons_append]
    by_cases hchooses : ∃ other, Chooses line other
    · obtain ⟨other, hother⟩ := hchooses
      have hsome : ¬ ∀ other, ¬ Chooses line other := fun hnone => hnone other hother
      rw [escapeOf_cons_of_chooses hother]
      simp only [hsome, false_and, and_false, or_false]
      constructor
      · rintro rfl
        exact hother
      · exact hother.unique
    · have hnone : ∀ other, ¬ Chooses line other := not_exists.mp hchooses
      rw [escapeOf_cons_of_forall_not hline hnone, ih hothers]
      simp only [hnone, not_false_eq_true, implies_true, true_and, false_or]

/-- What comes behind any lines matters only as far as it has an escape character of its own. -/
lemma escapeOf_append_congr (before : List Text) {after others : List Text}
    (h : escapeOf after = escapeOf others) :
    escapeOf (before ++ after) = escapeOf (before ++ others) := by
  induction before with
  | nil => exact h
  | cons line before ih => rw [List.cons_append, List.cons_append, escapeOf_cons, escapeOf_cons, ih]

/-- The escape character of a file is the first one that is chosen in the block of directives at its
start, and the backslash if none is.  What comes behind a line that is no directive does not matter,
and neither do directives that choose nothing.  The lines that are directives are those that the
pattern, in which letter case counts, matches from their start, with the name and the value as
groups. -/
theorem escapeOf_eq_iff (lines : List Text) :
    (∃ block rest, OpeningBlock lines block rest
        ∧ ∀ value, escapeOf lines = value
          ↔ FirstChoice block value
            ∨ (value = "\\" ∧ ∀ line ∈ block, ∀ other, ¬ Chooses line other))
      ∧ (∀ before line after, lines = before ++ line :: after →
        (∀ directive, ¬ Says line directive) →
        ∀ others, escapeOf (before ++ line :: others) = escapeOf lines)
      ∧ (∀ before line after, lines = before ++ line :: after →
        (∃ directive, Says line directive) → (∀ value, ¬ Chooses line value) →
        escapeOf (before ++ after) = escapeOf lines)
      ∧ ∃ body, Pattern.compile "(?-i:^#\\s*([a-zA-Z][a-zA-Z0-9_-]*)\\s*=\\s*(\\S*)\\s*$)"
          = .ok (body, 2)
        ∧ ∀ line directive, Says line directive
          ↔ ∃ reached,
            (body.ways (Pattern.Spot.start (Text.strip line))).first? = some reached
              ∧ (reached.group? 1).map Pattern.Capture.word = some directive.name
              ∧ (reached.group? 2).map Pattern.Capture.word = some directive.value := by
  refine ⟨?_, ?_, ?_, directivePattern, compile_directivePattern, fun line directive =>
    says_iff_prefers⟩
  · obtain ⟨block, rest, hblock⟩ := exists_openingBlock lines
    exact ⟨block, rest, hblock, fun value => hblock.first_choice_iff⟩
  · rintro before line after rfl hnot others
    have hends : ∀ (behind : List Text) (first : Text), (line :: behind).head? = some first →
        ∀ directive, ¬ Says first directive := by
      intro behind first hfirst
      obtain rfl : line = first := Option.some.inj hfirst
      exact hnot
    have hsame : escapeOf (line :: others) = escapeOf (line :: after) := by
      rw [escapeOf_of_forall_not (hends others), escapeOf_of_forall_not (hends after)]
    exact escapeOf_append_congr before hsame
  · rintro before line after rfl hline hnone
    exact escapeOf_append_congr before (escapeOf_cons_of_forall_not hline hnone after).symm

/-- A directive counts behind another one, and does not behind an instruction. -/
theorem escapeOf_eq_iff_second :
    let lines : List Text := ["# syntax=x", "#ESCAPE = `", "FROM a", "# escape=\\"]
    (∃ block rest, OpeningBlock lines block rest ∧ FirstChoice block "`")
      ∧ (∀ directive, ¬ Says "FROM a" directive)
      ∧ escapeOf ["# syntax=x", "#ESCAPE = `", "FROM a"] = escapeOf lines
      ∧ Says "# syntax=x" ⟨"syntax", "x"⟩ ∧ (∀ value, ¬ Chooses "# syntax=x" value)
      ∧ escapeOf ["#ESCAPE = `", "FROM a", "# escape=\\"] = escapeOf lines := by
  intro lines
  obtain ⟨⟨block, rest, hblock, hchoice⟩, hafter, hdrop, -⟩ := escapeOf_eq_iff lines
  have hfirst : Says "# syntax=x" ⟨"syntax", "x"⟩ := ofLine?_eq_some_iff.mp (by decide +kernel)
  have hnone : ∀ value, ¬ Chooses "# syntax=x" value := by
    rintro value ⟨directive, hdirective, hname, -⟩
    rw [← hfirst.unique hdirective] at hname
    exact absurd hname (by decide)
  have hfrom : ∀ directive, ¬ Says "FROM a" directive := by
    intro directive hdirective
    have hread : Directive.ofLine? "FROM a" = none := by decide +kernel
    rw [hdirective.ofLine?_eq] at hread
    cases hread
  have hescape : escapeOf lines = "`" := by decide +kernel
  refine ⟨⟨block, rest, hblock, ?_⟩, hfrom,
    hafter ["# syntax=x", "#ESCAPE = `"] "FROM a" _ rfl hfrom [], hfirst, hnone,
    hdrop [] "# syntax=x" _ rfl ⟨_, hfirst⟩ hnone⟩
  rcases (hchoice "`").mp hescape with hfound | ⟨hbackslash, -⟩
  · exact hfound
  · exact absurd hbackslash (by decide)

end Dockerfile

end DockCheck
