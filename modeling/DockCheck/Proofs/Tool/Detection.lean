import DockCheck.Proofs.Pattern.Leftmost
import DockCheck.Proofs.Traversal
import DockCheck.Tool.Builtin

/-!
# Detection of tools

The patterns of a tool are tried in order until one captures a word.  `Detects patterns t raw` says
which word that is, and `DetectionBreaks patterns t` that a search comes to no outcome before.  The
two together settle what `extractVersion` gives (`extractVersion_eq_some_iff`,
`extractVersion_eq_none_iff` and `extractVersion_eq_error_iff`).

The main statement, `checkTool_eq_ok_iff`, says the same of the check of a tool, whose result is
then one that is described by `IsResultOf`.
-/

namespace DockCheck

/-! ### Extraction -/

/-- Does the leftmost match of the pattern capture nothing? -/
def Pattern.IsSilent (pattern : Pattern) (t : Text) : Prop := ∀ word, ¬ pattern.Captures t word

/-- Of the patterns, in order, the first whose leftmost match captures a word captures `raw`. -/
def Detects (patterns : List Pattern) (t raw : Text) : Prop :=
  Reaches (fun pattern => pattern.IsSilent t) (fun pattern => pattern.Captures t raw) patterns

/-- Before any of the patterns captures a word, there is one with a match in which a group ends
before it begins. -/
def DetectionBreaks (patterns : List Pattern) (t : Text) : Prop :=
  Reaches (fun pattern => pattern.IsSilent t) (fun pattern => pattern.Breaks t) patterns

/-- A pattern whose leftmost match captures a word does not break. -/
lemma Pattern.Captures.not_breaks {pattern : Pattern} {t word : Text}
    (h : pattern.Captures t word) : ¬ pattern.Breaks t := by
  intro hbreaks
  rw [← capture?_eq_some_iff] at h
  rw [← capture?_eq_error_iff, h] at hbreaks
  cases hbreaks

/-- The leftmost match of a pattern captures one word at most. -/
lemma Pattern.Captures.unique {pattern : Pattern} {t word other : Text}
    (h : pattern.Captures t word) (h' : pattern.Captures t other) : word = other := by
  rw [← capture?_eq_some_iff] at h h'
  rw [h] at h'
  cases h'
  rfl

/-- The first pattern decides what the patterns detect, unless it is silent. -/
lemma extractVersion_cons (pattern : Pattern) (patterns : List Pattern) (t : Text) :
    extractVersion (pattern :: patterns) t
      = match pattern.capture? t with
        | .ok none => extractVersion patterns t
        | outcome => outcome := rfl

/-- Extraction has no outcome exactly if a search has none before a word is captured. -/
theorem extractVersion_eq_error_iff {patterns : List Pattern} {t : Text} :
    extractVersion patterns t = .error .spanReversed ↔ DetectionBreaks patterns t := by
  induction patterns with
  | nil => simp [extractVersion, DetectionBreaks, not_reaches_nil]
  | cons pattern patterns ih =>
    rw [DetectionBreaks, reaches_cons, ← DetectionBreaks, ← ih, extractVersion_cons]
    cases h : pattern.capture? t with
    | error fault =>
      cases fault
      simp [Pattern.capture?_eq_error_iff.mp h]
    | ok found =>
      cases found with
      | none =>
        obtain ⟨hsilent, hbreaks⟩ := Pattern.capture?_eq_none_iff.mp h
        simp [Pattern.IsSilent, hsilent, hbreaks]
      | some word =>
        have hcaptures := Pattern.capture?_eq_some_iff.mp h
        have hnot : ¬ pattern.IsSilent t := fun hsilent => hsilent word hcaptures
        simp [hnot, hcaptures.not_breaks]

/-- Extraction gives the word that the patterns detect, unless a search breaks before. -/
theorem extractVersion_eq_some_iff {patterns : List Pattern} {t raw : Text} :
    extractVersion patterns t = .ok (some raw)
      ↔ ¬ DetectionBreaks patterns t ∧ Detects patterns t raw := by
  rw [← extractVersion_eq_error_iff]
  induction patterns with
  | nil => simp [extractVersion, Detects, not_reaches_nil]
  | cons pattern patterns ih =>
    rw [Detects, reaches_cons, ← Detects, extractVersion_cons]
    cases h : pattern.capture? t with
    | error fault => cases fault; simp
    | ok found =>
      cases found with
      | none =>
        have hsilent : pattern.IsSilent t := (Pattern.capture?_eq_none_iff.mp h).1
        simp only [ih, hsilent, hsilent raw, true_and, false_or]
      | some word =>
        have hcaptures := Pattern.capture?_eq_some_iff.mp h
        have hnot : ¬ pattern.IsSilent t := fun hsilent => hsilent word hcaptures
        have hword : pattern.Captures t raw ↔ word = raw :=
          ⟨hcaptures.unique, fun heq => heq ▸ hcaptures⟩
        simp [hnot, hword]

/-- Extraction gives nothing exactly if all patterns are silent and no search breaks. -/
theorem extractVersion_eq_none_iff {patterns : List Pattern} {t : Text} :
    extractVersion patterns t = .ok none
      ↔ ¬ DetectionBreaks patterns t ∧ ∀ pattern ∈ patterns, pattern.IsSilent t := by
  rw [← extractVersion_eq_error_iff]
  induction patterns with
  | nil => simp [extractVersion]
  | cons pattern patterns ih =>
    rw [List.forall_mem_cons, extractVersion_cons]
    cases h : pattern.capture? t with
    | error fault => cases fault; simp
    | ok found =>
      cases found with
      | none =>
        have hsilent : pattern.IsSilent t := (Pattern.capture?_eq_none_iff.mp h).1
        simp only [ih, hsilent, true_and]
      | some word =>
        have hcaptures := Pattern.capture?_eq_some_iff.mp h
        have hnot : ¬ pattern.IsSilent t := fun hsilent => hsilent word hcaptures
        simp [hnot]

/-- Orderly patterns never break. -/
lemma not_detectionBreaks_of_isOrderly {patterns : List Pattern}
    (h : ∀ pattern ∈ patterns, pattern.body.isOrderly []) (t : Text) :
    ¬ DetectionBreaks patterns t := by
  intro hbreaks
  obtain ⟨pattern, hmem, hpattern⟩ := hbreaks.exists_mem
  exact Pattern.not_breaks_of_isOrderly (h pattern hmem) t hpattern

/-- The patterns of the built-in tools are orderly. -/
lemma Builtin.isOrderly_of_mem_tools :
    ∀ spec ∈ Builtin.tools, ∀ pattern ∈ spec.patterns, pattern.body.isOrderly [] := by
  decide

/-- The patterns detect one word at most. -/
lemma Detects.unique {patterns : List Pattern} {t raw other : Text}
    (h : Detects patterns t raw) (h' : Detects patterns t other) : raw = other := by
  induction patterns with
  | nil => exact absurd h (not_reaches_nil _ _)
  | cons pattern patterns ih =>
    rcases reaches_cons.mp h with hraw | ⟨hsilent, hrest⟩
    · rcases reaches_cons.mp h' with hother | ⟨hsilent, -⟩
      · exact hraw.unique hother
      · exact absurd hraw (hsilent raw)
    · rcases reaches_cons.mp h' with hother | ⟨-, hrest'⟩
      · exact absurd hother (hsilent other)
      · exact ih hrest hrest'

/-- Patterns that detect a word are not all silent. -/
lemma Detects.not_silent {patterns : List Pattern} {t raw : Text} (h : Detects patterns t raw) :
    ¬ ∀ pattern ∈ patterns, pattern.IsSilent t := by
  intro hsilent
  obtain ⟨pattern, hmem, hcaptures⟩ := h.exists_mem
  exact hsilent pattern hmem raw hcaptures

/-! ### Results -/

/-- The result of the check of a tool in a text: it is not mentioned where its patterns are silent,
and otherwise the version that they detect is judged by the policies. -/
inductive IsResultOf (precision : Precision) (policy : MatchPolicy) (allowed : List Text)
    (spec : ToolSpec) (t : Text) : ToolResult → Prop where
  | notFound (h : ∀ pattern ∈ spec.patterns, pattern.IsSilent t) :
    IsResultOf precision policy allowed spec t (.notFound spec.name)
  | valid {raw : Text} (h : Detects spec.patterns t raw)
    (hallowed : Version.isAllowed policy allowed (Version.normalize precision raw)) :
    IsResultOf precision policy allowed spec t (.valid spec.name (Version.normalize precision raw))
  | invalid {raw : Text} (h : Detects spec.patterns t raw)
    (hnot : ¬ Version.isAllowed policy allowed (Version.normalize precision raw)) :
    IsResultOf precision policy allowed spec t
      (.invalid spec.name (Version.normalize precision raw) allowed)

/-- A tool complies in a text if its patterns are silent or detect an allowed version. -/
def Complies (precision : Precision) (policy : MatchPolicy) (allowed : List Text) (spec : ToolSpec)
    (t : Text) : Prop :=
  (∀ pattern ∈ spec.patterns, pattern.IsSilent t)
    ∨ ∃ raw, Detects spec.patterns t raw
      ∧ Version.isAllowed policy allowed (Version.normalize precision raw)

section Results

variable {precision : Precision} {policy : MatchPolicy} {allowed : List Text} {spec : ToolSpec}
  {t : Text} {result : ToolResult}

/-- The result of a tool is valid exactly if the tool complies. -/
lemma IsResultOf.isValid_iff (h : IsResultOf precision policy allowed spec t result) :
    result.isValid ↔ Complies precision policy allowed spec t := by
  cases h with
  | notFound hsilent => exact iff_of_true rfl (Or.inl hsilent)
  | valid hraw hallowed => exact iff_of_true rfl (Or.inr ⟨_, hraw, hallowed⟩)
  | invalid hraw hnot =>
    refine iff_of_false Bool.false_ne_true ?_
    rintro (hsilent | ⟨other, hother, hallowed⟩)
    · exact hraw.not_silent hsilent
    · exact hnot (hraw.unique hother ▸ hallowed)

/-- The check of a tool has no outcome exactly if a search breaks before a version is detected. -/
theorem checkTool_eq_error_iff :
    checkTool precision policy allowed spec t = .error .spanReversed
      ↔ DetectionBreaks spec.patterns t := by
  rw [← extractVersion_eq_error_iff, checkTool]
  cases extractVersion spec.patterns t with
  | error fault => cases fault; exact iff_of_true rfl rfl
  | ok found => cases found <;> exact iff_of_false nofun nofun

/-- A version that is detected and judged is a result of the tool. -/
lemma isResultOf_judge {raw : Text} (h : Detects spec.patterns t raw) :
    IsResultOf precision policy allowed spec t (judge precision policy allowed spec.name raw) := by
  unfold judge
  dsimp only
  split
  · next hallowed => exact .valid h hallowed
  · next hnot => exact .invalid h hnot

/-- A tool has one result in a text. -/
lemma IsResultOf.unique {other : ToolResult}
    (h : IsResultOf precision policy allowed spec t result)
    (h' : IsResultOf precision policy allowed spec t other) : result = other := by
  cases h with
  | notFound hsilent =>
    cases h' with
    | notFound _ => rfl
    | valid hraw _ => exact absurd hsilent hraw.not_silent
    | invalid hraw _ => exact absurd hsilent hraw.not_silent
  | valid hraw hallowed =>
    cases h' with
    | notFound hsilent => exact absurd hsilent hraw.not_silent
    | valid hother _ => rw [hraw.unique hother]
    | invalid hother hnot => exact absurd (hraw.unique hother ▸ hallowed) hnot
  | invalid hraw hnot =>
    cases h' with
    | notFound hsilent => exact absurd hsilent hraw.not_silent
    | valid hother hallowed => exact absurd (hraw.unique hother ▸ hallowed) hnot
    | invalid hother _ => rw [hraw.unique hother]

/-- If no search breaks, the check of a tool gives the result that the text calls for. -/
theorem checkTool_eq_ok_iff :
    checkTool precision policy allowed spec t = .ok result
      ↔ ¬ DetectionBreaks spec.patterns t ∧ IsResultOf precision policy allowed spec t result := by
  -- Where the check gives a result, that is one the text calls for, and there is no other.
  have hgiven : ∀ given, ¬ DetectionBreaks spec.patterns t
      → IsResultOf precision policy allowed spec t given
      → (Except.ok given = (Except.ok result : Except Pattern.SearchFault ToolResult)
        ↔ ¬ DetectionBreaks spec.patterns t
          ∧ IsResultOf precision policy allowed spec t result) := by
    intro given hbreaks hresult
    constructor
    · rintro ⟨⟩
      exact ⟨hbreaks, hresult⟩
    · rintro ⟨-, hother⟩
      rw [hresult.unique hother]
  rw [checkTool]
  cases h : extractVersion spec.patterns t with
  | error fault =>
    cases fault
    have hbreaks := extractVersion_eq_error_iff.mp h
    exact iff_of_false nofun fun hresult => hresult.1 hbreaks
  | ok found =>
    cases found with
    | none =>
      obtain ⟨hbreaks, hsilent⟩ := extractVersion_eq_none_iff.mp h
      exact hgiven _ hbreaks (.notFound hsilent)
    | some raw =>
      obtain ⟨hbreaks, hraw⟩ := extractVersion_eq_some_iff.mp h
      exact hgiven _ hbreaks (isResultOf_judge hraw)

end Results

end DockCheck
