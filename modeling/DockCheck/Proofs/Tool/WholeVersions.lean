import DockCheck.Proofs.Tool.Detection
import DockCheck.Proofs.Tool.Numbers

/-!
# Versions of the built-in tools

All patterns of the built-in tools find whole versions, so a built-in tool is found in a text
exactly if one of its patterns matches somewhere in it (`Builtin.exists_extractVersion_iff`).

The main statement, `Builtin.extractVersion_isWhole`, says what is detected then: a dotted version
that stands whole in the text, and whose normal form is reported.
-/

namespace DockCheck

open Version (IsWhole)

/-- The patterns detect `raw` where it stands between the two texts: of all patterns the first to
capture anything captures that. -/
def DetectsBetween (patterns : List Pattern) (before raw after : Text) : Prop :=
  Reaches (fun pattern => pattern.IsSilent (before ++ raw ++ after))
    (fun pattern => pattern.firstGroup? (before ++ raw ++ after)
      = .ok (some ⟨raw ++ after, after⟩)) patterns

/-- The check of a tool finds it in a text. -/
def Finds (precision : Precision) (policy : MatchPolicy) (allowed : List Text) (spec : ToolSpec)
    (t : Text) : Prop :=
  ∃ result, checkTool precision policy allowed spec t = .ok result ∧ result.isFound

variable {precision : Precision} {policy : MatchPolicy} {allowed : List Text} {spec : ToolSpec}
  {t raw : Text}

lemma judge_version? (name : Text) :
    (judge precision policy allowed name raw).version?
      = some (Version.normalize precision raw) := by
  unfold judge
  dsimp only
  split <;> rfl

lemma judge_isFound (name : Text) : (judge precision policy allowed name raw).isFound := by
  unfold judge
  dsimp only
  split <;> rfl

/-- A version that is extracted is judged. -/
lemma checkTool_of_extractVersion (h : extractVersion spec.patterns t = .ok (some raw)) :
    checkTool precision policy allowed spec t
      = .ok (judge precision policy allowed spec.name raw) := by
  rw [checkTool, h]
  rfl

/-- A tool is found exactly if a version is extracted, whatever the policies are. -/
lemma finds_iff :
    Finds precision policy allowed spec t
      ↔ ∃ raw, extractVersion spec.patterns t = .ok (some raw) := by
  constructor
  · rintro ⟨result, hresult, hfound⟩
    cases h : extractVersion spec.patterns t with
    | error fault =>
      rw [checkTool, h] at hresult
      cases hresult
    | ok found =>
      cases found with
      | none =>
        rw [checkTool, h] at hresult
        cases hresult
        cases hfound
      | some raw => exact ⟨raw, rfl⟩
  · rintro ⟨raw, hraw⟩
    exact ⟨_, checkTool_of_extractVersion hraw, judge_isFound spec.name⟩

/-- A pattern that captures a word has a capture, whose text is the word. -/
lemma Pattern.Captures.exists_firstGroup? {pattern : Pattern} (h : pattern.Captures t raw) :
    ∃ capture : Capture, pattern.firstGroup? t = .ok (some capture) ∧ capture.word = raw := by
  obtain ⟨-, capture, hleftmost, hword⟩ := h
  exact ⟨capture, (firstGroup?_eq_iff (by simp)).mpr hleftmost, hword⟩

namespace Builtin

/-- The patterns of the built-in tools find whole versions. -/
lemma findsWhole_of_mem_tools :
    ∀ spec ∈ tools, ∀ pattern ∈ spec.patterns, pattern.body.findsWhole := by
  decide +kernel

/-- What a pattern of a built-in tool captures stands whole in the text. -/
lemma isWhole_of_mem_tools (hspec : spec ∈ tools) {pattern : Pattern}
    (hpattern : pattern ∈ spec.patterns) {capture : Pattern.Capture}
    (h : pattern.firstGroup? t = .ok (some capture)) :
    ∃ before version after, t = before ++ version ++ after
      ∧ capture = ⟨version ++ after, after⟩ ∧ IsWhole before version after :=
  Pattern.isWhole_of_firstGroup? (isOrderly_of_mem_tools spec hspec pattern hpattern)
    (findsWhole_of_mem_tools spec hspec pattern hpattern) h

/-- The search for a built-in tool always has an outcome. -/
lemma exists_extractVersion (hspec : spec ∈ tools) (t : Text) :
    ∃ found, extractVersion spec.patterns t = .ok found := by
  cases h : extractVersion spec.patterns t with
  | error fault =>
    cases fault
    have hbreaks := extractVersion_eq_error_iff.mp h
    exact absurd hbreaks (not_detectionBreaks_of_isOrderly (isOrderly_of_mem_tools spec hspec) t)
  | ok found => exact ⟨found, rfl⟩

/-- For a built-in tool a version is extracted exactly if one of its patterns matches somewhere in
the text. -/
theorem exists_extractVersion_iff (hspec : spec ∈ tools) :
    (∃ raw, extractVersion spec.patterns t = .ok (some raw))
      ↔ ∃ pattern ∈ spec.patterns, ∃ n ≤ t.length, ∃ reached,
        pattern.body.Matches (Pattern.Spot.at t n) reached := by
  have hmatches : ∀ pattern ∈ spec.patterns,
      (∃ capture, pattern.firstGroup? t = .ok (some capture))
        ↔ ∃ n ≤ t.length, ∃ reached, pattern.body.Matches (Pattern.Spot.at t n) reached := by
    intro pattern hpattern
    refine Pattern.exists_firstGroup?_iff (isOrderly_of_mem_tools spec hspec pattern hpattern) ?_
    intro n reached hreached
    have hwhole := findsWhole_of_mem_tools spec hspec pattern hpattern
    obtain ⟨middle, -, hrest⟩ := hreached.cut
    obtain ⟨version, after, -, hcapture, -⟩ :=
      hrest.exists_isDotted (Bool.and_eq_true_iff.mp hwhole).2
    exact ⟨_, hcapture⟩
  constructor
  · rintro ⟨raw, hraw⟩
    obtain ⟨-, hdetects⟩ := extractVersion_eq_some_iff.mp hraw
    obtain ⟨pattern, hpattern, hcaptures⟩ := hdetects.exists_mem
    obtain ⟨capture, hcapture, -⟩ := hcaptures.exists_firstGroup?
    exact ⟨pattern, hpattern, (hmatches pattern hpattern).mp ⟨capture, hcapture⟩⟩
  · rintro ⟨pattern, hpattern, hmatch⟩
    obtain ⟨capture, hcapture⟩ := (hmatches pattern hpattern).mpr hmatch
    obtain ⟨before, version, after, rfl, rfl, hwhole⟩ :=
      isWhole_of_mem_tools hspec hpattern hcapture
    have hcaptures : pattern.Captures (before ++ version ++ after) version :=
      ⟨hwhole.dotted.ne_nil, _, (Pattern.firstGroup?_eq_iff (by simp)).mp hcapture,
        Pattern.Capture.word_eq version after⟩
    obtain ⟨found, hfound⟩ := exists_extractVersion hspec (before ++ version ++ after)
    cases found with
    | none => exact absurd hcaptures ((extractVersion_eq_none_iff.mp hfound).2 pattern hpattern _)
    | some raw => exact ⟨raw, hfound⟩

/-- What is extracted for a built-in tool is detected where it stands whole in the text. -/
lemma exists_detectsBetween (hspec : spec ∈ tools)
    (h : extractVersion spec.patterns t = .ok (some raw)) :
    ∃ before after, t = before ++ raw ++ after ∧ DetectsBetween spec.patterns before raw after
      ∧ IsWhole before raw after := by
  obtain ⟨-, earlier, pattern, later, hpatterns, hsilent, hcaptures⟩ :=
    extractVersion_eq_some_iff.mp h
  obtain ⟨capture, hcapture, hword⟩ := hcaptures.exists_firstGroup?
  have hpattern : pattern ∈ spec.patterns := by simp [hpatterns]
  obtain ⟨before, version, after, rfl, rfl, hwhole⟩ := isWhole_of_mem_tools hspec hpattern hcapture
  rw [Pattern.Capture.word_eq] at hword
  subst hword
  exact ⟨before, after, rfl, ⟨earlier, pattern, later, hpatterns, hsilent, hcapture⟩, hwhole⟩

/-- If a version is extracted for a built-in tool, it is dotted, and it is captured where it stands
whole in the text.  Then the check of the tool reports a version that is not empty, that has one
component at most by the first component alone and two at most by any precision that is not exact,
and that stays as it is when it is normalized again. -/
theorem extractVersion_isWhole (hspec : spec ∈ tools)
    (h : extractVersion spec.patterns t = .ok (some raw)) :
    (∃ before after, t = before ++ raw ++ after ∧ DetectsBetween spec.patterns before raw after
        ∧ IsWhole before raw after)
      ∧ ∀ precision policy allowed, ∃ result version,
        checkTool precision policy allowed spec t = .ok result
          ∧ result.version? = some version
          ∧ version ≠ []
          ∧ (precision = .major → (Version.components version).length ≤ 1)
          ∧ (precision ≠ .exact → (Version.components version).length ≤ 2)
          ∧ Version.normalize precision version = version := by
  obtain ⟨before, after, ht, hdetects, hwhole⟩ := exists_detectsBetween hspec h
  refine ⟨⟨before, after, ht, hdetects, hwhole⟩, fun precision policy allowed => ?_⟩
  obtain ⟨hdotted, hcomponents, hagain⟩ := Version.normalize_dotted precision hwhole.dotted
  refine ⟨_, _, checkTool_of_extractVersion h, judge_version? spec.name, hdotted.ne_nil, ?_, ?_,
    hagain⟩
  · rintro rfl
    rw [hcomponents]
    exact List.length_take_le 1 _
  · intro hprecision
    rw [hcomponents]
    exact Version.length_kept_le hprecision _

/-- The version of Python in a command that goes on after it. -/
theorem extractVersion_isWhole_python :
    python ∈ tools
      ∧ extractVersion python.patterns "apt-get install python3.11.4-venv" = .ok (some "3.11.4")
      ∧ (∃ before after : Text,
        ("apt-get install python3.11.4-venv" : Text) = before ++ ("3.11.4" : Text) ++ after
        ∧ DetectsBetween python.patterns before "3.11.4" after ∧ IsWhole before "3.11.4" after)
      ∧ ∀ precision policy allowed, ∃ result version,
        checkTool precision policy allowed python "apt-get install python3.11.4-venv" = .ok result
          ∧ result.version? = some version
          ∧ version ≠ []
          ∧ (precision = .major → (Version.components version).length ≤ 1)
          ∧ (precision ≠ .exact → (Version.components version).length ≤ 2)
          ∧ Version.normalize precision version = version := by
  have hspec : python ∈ tools := by simp [tools]
  have hraw : extractVersion python.patterns "apt-get install python3.11.4-venv"
      = .ok (some "3.11.4") := by decide +kernel
  exact ⟨hspec, hraw, extractVersion_isWhole hspec hraw⟩

end Builtin

end DockCheck
