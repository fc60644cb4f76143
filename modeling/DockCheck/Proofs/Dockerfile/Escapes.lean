import DockCheck.Dockerfile.Directive
import DockCheck.Proofs.Dockerfile.Segments
import DockCheck.Proofs.Text.Lines
import Mathlib.Logic.Equiv.Basic

/-!
# The two escape characters

A backslash or a backtick continues a line on the next one, and neither means anything else to the
collection of instructions.  So the two can be exchanged: `runInstructions_swapEscapes` says that a
file in which they are has the same instructions up to that, if the escape text is exchanged, too.

`withBackticks` is the file that is written with backticks in place of backslashes and says so in a
directive on its first line.  `escapeOf_withBackticks` says that the directive counts, and
`runInstructions_withBackticks` that the instructions are the same up to the exchange.
-/

namespace DockCheck.Dockerfile

/-- The backtick for the backslash and the other way round; any other character as it is. -/
def otherEscape (c : Char) : Char := Equiv.swap '\\' '\x60' c

/-- The text with the two escape characters exchanged. -/
def swapEscapes (t : Text) : Text := t.map otherEscape

lemma otherEscape_injective : Function.Injective otherEscape := (Equiv.swap _ _).injective

/-- A function that has the same value at both escape characters does not tell them apart. -/
lemma apply_otherEscape {α : Type} {f : Char → α} (h : f '\\' = f '\x60') (c : Char) :
    f (otherEscape c) = f c := Equiv.apply_swap_eq_self h c

/-- Only a character that is no escape character goes to one. -/
lemma otherEscape_eq_iff {c d : Char} (hd : otherEscape d = d) : otherEscape c = d ↔ c = d := by
  constructor
  · intro h
    exact otherEscape_injective (h.trans hd.symm)
  · rintro rfl
    exact hd

/-! ### Texts -/

section Texts

variable (t u : Text)

lemma swapEscapes_append : swapEscapes (t ++ u) = swapEscapes t ++ swapEscapes u := List.map_append

lemma swapEscapes_prefix_iff : swapEscapes t <+: swapEscapes u ↔ t <+: u :=
  List.prefix_map_iff_of_injective otherEscape_injective

lemma swapEscapes_suffix_iff : swapEscapes t <:+ swapEscapes u ↔ t <:+ u :=
  List.suffix_map_iff_of_injective otherEscape_injective

lemma dropWhile_isBlank_swapEscapes :
    (swapEscapes t).dropWhile Text.isBlank = swapEscapes (t.dropWhile Text.isBlank) := by
  have hblank : Text.isBlank ∘ otherEscape = Text.isBlank :=
    funext fun c => apply_otherEscape (by decide) c
  unfold swapEscapes
  rw [List.dropWhile_map, hblank]

/-- The white space around a text is the same. -/
lemma strip_swapEscapes : Text.strip (swapEscapes t) = swapEscapes (Text.strip t) := by
  have hreverse : ∀ u : Text, (swapEscapes u).reverse = swapEscapes u.reverse := fun u =>
    List.map_reverse.symm
  unfold Text.strip Text.trimRight Text.trimLeft
  rw [dropWhile_isBlank_swapEscapes, hreverse, dropWhile_isBlank_swapEscapes, hreverse]

/-- Texts are put together in the same way with a separator that holds no escape character. -/
lemma join_swapEscapes {separator : Text} (h : swapEscapes separator = separator)
    (parts : List Text) :
    Text.join separator (parts.map swapEscapes) = swapEscapes (Text.join separator parts) := by
  induction parts with
  | nil => rfl
  | cons part parts ih =>
    cases parts with
    | nil => rfl
    | cons next others =>
      change swapEscapes part ++ separator ++ Text.join separator ((next :: others).map swapEscapes)
        = swapEscapes (part ++ separator ++ Text.join separator (next :: others))
      rw [ih, swapEscapes_append, swapEscapes_append, h]

end Texts

/-- A text is cut at line boundaries in the same places. -/
lemma cutAt_swapEscapes {t : Text} {lines : List Text}
    (h : Text.CutAt Text.isLineBoundary t lines) :
    Text.CutAt Text.isLineBoundary (swapEscapes t) (lines.map swapEscapes) := by
  have hboundary : ∀ c, Text.isLineBoundary (otherEscape c) = Text.isLineBoundary c :=
    fun c => apply_otherEscape (by decide) c
  have hline : ∀ {line : Text}, (∀ c ∈ line, ¬ Text.isLineBoundary c) →
      ∀ c ∈ swapEscapes line, ¬ Text.isLineBoundary c := by
    intro line hline c hc
    obtain ⟨d, hd, rfl⟩ := List.mem_map.mp hc
    rw [hboundary]
    exact hline d hd
  induction h with
  | nil => exact .nil
  | last h hne => exact .last (hline h) (List.map_eq_nil_iff.not.mpr hne)
  | pair h _ ih =>
    rw [swapEscapes_append]
    exact .pair (hline h) ih
  | @single line rest _ c h hc hpair _ ih =>
    rw [swapEscapes_append]
    refine .single (hline h) ((hboundary c).trans hc) (fun hreturn hfeed => ?_) ih
    have hc' : c = '\r' := (otherEscape_eq_iff (by decide)).mp hreturn
    obtain ⟨d, hd, hfeed⟩ : ∃ d, rest.head? = some d ∧ otherEscape d = '\n' := by
      simpa [swapEscapes] using hfeed
    rw [(otherEscape_eq_iff (by decide)).mp hfeed] at hd
    exact hpair hc' hd

/-! ### Instructions -/

section Lines

variable (escape line : Text)

/-- The keyword opens an instruction on the same lines. -/
lemma opened?_swapEscapes :
    opened? (swapEscapes escape) (swapEscapes line) = (opened? escape line).map swapEscapes := by
  have hkey : ∀ d ∈ ['r', 'u', 'n'], ∀ c,
      Text.asciiLower (otherEscape c) = d ↔ Text.asciiLower c = d := by
    intro d hd c
    have htest : (Text.asciiLower '\\' == d) = (Text.asciiLower '\x60' == d) := by
      simp only [List.mem_cons, List.not_mem_nil, or_false] at hd
      rcases hd with rfl | rfl | rfl <;> rfl
    have heq := apply_otherEscape (f := fun c => Text.asciiLower c == d) htest c
    simpa using Bool.eq_iff_iff.mp heq
  have hblank : ∀ rest : Text,
      (swapEscapes rest).head?.any Text.isBlank = rest.head?.any Text.isBlank := by
    intro rest
    cases rest with
    | nil => rfl
    | cons c rest => exact apply_otherEscape (f := Text.isBlank) (by decide) c
  unfold opened?
  rw [strip_swapEscapes]
  rcases Text.strip line with _ | ⟨r, _ | ⟨u, _ | ⟨n, rest⟩⟩⟩
  · rfl
  · rfl
  · rfl
  · have hnil : swapEscapes rest = [] ↔ rest = [] := List.map_eq_nil_iff
    have hopens : ([otherEscape r, otherEscape u, otherEscape n].map Text.asciiLower
          = ['r', 'u', 'n'] ∧ (swapEscapes rest = [] ∨ (swapEscapes rest).head?.any Text.isBlank
            ∨ swapEscapes escape <+: swapEscapes rest))
        ↔ ([r, u, n].map Text.asciiLower = ['r', 'u', 'n']
          ∧ (rest = [] ∨ rest.head?.any Text.isBlank ∨ escape <+: rest)) := by
      rw [hnil, hblank, swapEscapes_prefix_iff]
      simp only [List.map_cons, List.map_nil, List.cons.injEq]
      rw [hkey 'r' (by simp), hkey 'u' (by simp), hkey 'n' (by simp)]
    have hline : swapEscapes (r :: u :: n :: rest)
        = otherEscape r :: otherEscape u :: otherEscape n :: swapEscapes rest := rfl
    rw [hline]
    dsimp only
    rw [strip_swapEscapes]
    by_cases h : [r, u, n].map Text.asciiLower = ['r', 'u', 'n']
        ∧ (rest = [] ∨ rest.head?.any Text.isBlank ∨ escape <+: rest)
    · rw [if_pos h, if_pos (hopens.mpr h)]
      rfl
    · rw [if_neg h, if_neg (hopens.not.mpr h)]
      rfl

/-- The same lines count for nothing within an instruction. -/
lemma isIdle_swapEscapes_iff : IsIdle (swapEscapes line) ↔ IsIdle line := by
  have hcomment : (['#'] : Text) = swapEscapes ['#'] := rfl
  unfold IsIdle
  rw [strip_swapEscapes, hcomment, swapEscapes_prefix_iff]
  exact or_congr_left List.map_eq_nil_iff

lemma endsWith_swapEscapes :
    Text.endsWith (swapEscapes line) (swapEscapes escape) = Text.endsWith line escape := by
  rw [Bool.eq_iff_iff, endsWith_iff, endsWith_iff, swapEscapes_suffix_iff]

lemma beforeEscape_swapEscapes :
    beforeEscape (swapEscapes escape) (swapEscapes line)
      = swapEscapes (beforeEscape escape line) := by
  have hlength : ∀ t : Text, (swapEscapes t).length = t.length := fun t =>
    List.length_map otherEscape
  have hempty : (swapEscapes escape).isEmpty = escape.isEmpty := List.isEmpty_map
  unfold beforeEscape Text.dropRight
  rw [hempty, hlength, hlength, swapEscapes, ← List.map_take, ← swapEscapes, strip_swapEscapes]
  split <;> rfl

lemma joinParts_swapEscapes (parts : List Text) :
    joinParts (parts.map swapEscapes) = swapEscapes (joinParts parts) := by
  have hempty : ((fun part : Text => !part.isEmpty) ∘ swapEscapes) = fun part => !part.isEmpty := by
    funext part
    cases part <;> rfl
  unfold joinParts
  rw [List.filter_map, hempty, join_swapEscapes rfl]

end Lines

namespace Assembly

/-- The state of a collection in which the two escape characters are exchanged. -/
def swapEscapes (state : Assembly) : Assembly :=
  ⟨state.complete.map Dockerfile.swapEscapes,
    state.pending.map (List.map Dockerfile.swapEscapes)⟩

lemma close_swapEscapes (state : Assembly) : state.swapEscapes.close = state.close.swapEscapes := by
  obtain ⟨complete, pending⟩ := state
  cases pending with
  | none => rfl
  | some parts =>
    unfold close swapEscapes
    dsimp only [Option.map_some]
    rw [← List.map_reverse, joinParts_swapEscapes]
    rfl

/-- A line is taken in in the same way if the two escape characters are exchanged everywhere. -/
lemma step_swapEscapes (escape : Text) (state : Assembly) (line : Text) :
    step (Dockerfile.swapEscapes escape) state.swapEscapes (Dockerfile.swapEscapes line)
      = (step escape state line).swapEscapes := by
  obtain ⟨complete, pending⟩ := state
  unfold step
  dsimp only [swapEscapes]
  cases pending with
  | none =>
    dsimp only [Option.map_none]
    rw [runBody?_strip, runBody?_strip, opened?_swapEscapes]
    cases opened? escape line with
    | none => rfl
    | some body =>
      dsimp only [Option.map_some]
      rw [endsWith_swapEscapes, beforeEscape_swapEscapes]
      split
      · rfl
      · exact close_swapEscapes ⟨complete, some [body]⟩
  | some parts =>
    have hskipped : isSkipped (Text.strip (Dockerfile.swapEscapes line))
        = isSkipped (Text.strip line) := by
      rw [Bool.eq_iff_iff, isSkipped_strip_iff, isSkipped_strip_iff, isIdle_swapEscapes_iff]
    dsimp only [Option.map_some]
    rw [hskipped, strip_swapEscapes, endsWith_swapEscapes, beforeEscape_swapEscapes]
    split
    · rfl
    · split
      · rfl
      · exact close_swapEscapes ⟨complete, some (Text.strip line :: parts)⟩

/-- So are all lines of a file. -/
lemma run_swapEscapes (escape : Text) (lines : List Text) :
    run (Dockerfile.swapEscapes escape) (lines.map Dockerfile.swapEscapes)
      = (run escape lines).swapEscapes := by
  induction lines using List.reverseRecOn with
  | nil => rfl
  | append_singleton lines line ih =>
    unfold run at ih ⊢
    rw [List.map_append, List.foldl_append, List.foldl_append, ih]
    exact step_swapEscapes escape _ line

end Assembly

/-- A file in which the two escape characters are exchanged has the same instructions up to that, if
the escape text is exchanged, too. -/
theorem runInstructions_swapEscapes (escape : Text) (lines : List Text) :
    runInstructions (swapEscapes escape) (lines.map swapEscapes)
      = (runInstructions escape lines).map swapEscapes := by
  unfold runInstructions
  rw [Assembly.run_swapEscapes, Assembly.close_swapEscapes, List.map_reverse]
  rfl

/-! ### Files with a directive -/

/-- The line that makes the backtick the escape character of a file. -/
def backtickDirective : Text := "# escape=`"

/-- The Dockerfile with the two escape characters exchanged, and with a directive for the backtick
on its first line. -/
def withBackticks (content : Text) : Text := backtickDirective ++ '\n' :: swapEscapes content

lemma lines_withBackticks (content : Text) :
    Text.lines (withBackticks content)
      = backtickDirective :: (Text.lines content).map swapEscapes := by
  have hdirective : ∀ c ∈ backtickDirective, ¬ Text.isLineBoundary c := by
    have hall : backtickDirective.all (fun c => !Text.isLineBoundary c) := by decide
    simpa using hall
  have hrest := cutAt_swapEscapes (Text.cutAt_iff_lines_eq.mpr (rfl : Text.lines content = _))
  have hcut : Text.CutAt Text.isLineBoundary (withBackticks content)
      (backtickDirective :: (Text.lines content).map swapEscapes) :=
    .single hdirective (by decide) nofun hrest
  exact hcut.lines_eq

lemma escapeOf_withBackticks (content : Text) :
    escapeOf (Text.lines (withBackticks content)) = "`" := by
  have hline : Directive.ofLine? backtickDirective = some ⟨"escape", "`"⟩ := by decide
  have hchoice : Directive.escape? ⟨"escape", "`"⟩ = some "`" := by decide
  rw [lines_withBackticks, escapeOf, directives, hline]
  dsimp only
  rw [List.findSome?_cons, hchoice]
  rfl

/-- The instructions of a file that continues its lines by backslashes are, up to the exchange,
those of the file with backticks. -/
lemma runInstructions_withBackticks (content : Text) :
    runInstructions "`" (Text.lines (withBackticks content))
      = (runInstructions "\\" (Text.lines content)).map swapEscapes := by
  have hbacktick : ("`" : Text) = swapEscapes "\\" := by decide
  have hdirective : Assembly.step "`" Assembly.empty backtickDirective = Assembly.empty := by
    decide
  rw [← runInstructions_swapEscapes, ← hbacktick, lines_withBackticks]
  unfold runInstructions Assembly.run
  rw [List.foldl_cons, hdirective]

end DockCheck.Dockerfile
