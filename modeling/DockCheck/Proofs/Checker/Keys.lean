import DockCheck.Proofs.Checker.Verdict
import DockCheck.Proofs.Faults

/-!
# Keys without allowed versions

A catalog may list a tool under a key for which there are no allowed versions.  Such a tool is
refused before it is looked for, and so ends every check: what the text is makes no difference,
except that a search for one of the tools listed before can break first.

The main statement, `checkTools_by_keys`, says for every catalog how the check of its tools ends,
with the first unknown key or with the results of all tools.
-/

namespace DockCheck

/-- There are allowed versions under the key of the tool. -/
def ToolSpec.HasKnownKey (spec : ToolSpec) : Prop := ∃ key : ToolKey, spec.key = key.name

namespace Checker

/-- Of the tools, `spec` is the first whose key is unknown, and `before` are those listed before
it. -/
structure IsFirstUnknown (specs before : List ToolSpec) (spec : ToolSpec) : Prop where
  splits : ∃ after, specs = before ++ spec :: after
  known : ∀ other ∈ before, other.HasKnownKey
  unknown : ¬ spec.HasKnownKey

/-- The failure of a catalog with a tool whose key is unknown. -/
def unknownKeyFailure (checker : Checker) (spec : ToolSpec) : Failure :=
  .reported (.catalogInvalid checker.catalogPath (.unknownKey spec.key))

/-- The failure of a search that breaks. -/
def searchFailure : Failure := .escaped (.tool (.search .spanReversed))

/-- To judge the tools in a text fails, and so does the check of every Dockerfile in whose
instructions this text stands. -/
def FailsOn (files : Files) (checker : Checker) (t : Text) (failure : Failure) : Prop :=
  (checker.checkTools files t).outcome = .error failure
    ∧ ∀ content, scanned content = t → (checker.check files content).outcome = .error failure

variable {files : Files} {checker : Checker} {precision : Precision} {policy : MatchPolicy}
  {specs before : List ToolSpec} {spec : ToolSpec} {t : Text} {failure other : Failure}

/-- If some key is unknown, there is a first one. -/
lemma exists_isFirstUnknown (h : ∃ spec ∈ specs, ¬ spec.HasKnownKey) :
    ∃ before spec, IsFirstUnknown specs before spec := by
  have hreaches : Reaches ToolSpec.HasKnownKey (fun spec => ¬ spec.HasKnownKey) specs :=
    reaches_of_exists_mem h fun spec _ => em spec.HasKnownKey
  obtain ⟨before, spec, after, hsplits, hknown, hunknown⟩ := hreaches
  exact ⟨before, spec, ⟨after, hsplits⟩, hknown, hunknown⟩

/-- A text is judged with one failure at most. -/
lemma FailsOn.unique (h : checker.FailsOn files t failure) (h' : checker.FailsOn files t other) :
    failure = other := by
  have heq := h.1.symm.trans h'.1
  cases heq
  rfl

/-! ### Walks along the tools -/

/-- Tools with known keys for which no search breaks are judged, up to the first unknown key. -/
lemma IsFirstUnknown.reaches_unknownKey (h : IsFirstUnknown specs before spec)
    (hbreaks : ∀ other ∈ before, ¬ DetectionBreaks other.patterns t) :
    Reaches (IsJudged t) (fun other => checker.Refuses t other (checker.unknownKeyFailure spec))
      specs := by
  obtain ⟨⟨after, rfl⟩, hknown, hunknown⟩ := h
  refine ⟨before, spec, after, rfl, fun other hother => ⟨hknown other hother, hbreaks other hother⟩,
    .unknownKey fun key hkey => hunknown ⟨key, hkey⟩⟩

/-- If the keys of some tools are known and a search for one of them breaks, these tools are judged
up to the first of that kind. -/
lemma reaches_search (hknown : ∀ other ∈ before, other.HasKnownKey)
    (hbreaks : ∃ other ∈ before, DetectionBreaks other.patterns t) (after : List ToolSpec) :
    Reaches (IsJudged t) (fun other => checker.Refuses t other searchFailure)
      (before ++ after) := by
  have hwalk : Reaches (IsJudged t) (fun other => checker.Refuses t other searchFailure)
      before := by
    obtain ⟨other, hother, hbreak⟩ := hbreaks
    refine reaches_of_exists_mem ⟨other, hother, .search (hknown other hother) hbreak⟩ ?_
    intro another hmem
    by_cases h : DetectionBreaks another.patterns t
    · exact Or.inr (.search (hknown another hmem) h)
    · exact Or.inl ⟨hknown another hmem, h⟩
  obtain ⟨first, refused, last, rfl, hjudged, hrefused⟩ := hwalk
  exact ⟨first, refused, last ++ after, by simp, hjudged, hrefused⟩

section Policies

variable (hpolicies : checker.policies = ⟨precision.name, policy.name⟩)
  (hspecs : (checker.tools files).outcome = .ok specs)

include hpolicies hspecs

/-- A walk that comes to a tool that is refused ends every check with its failure. -/
lemma failsOn_of_reaches
    (h : Reaches (IsJudged t) (fun other => checker.Refuses t other failure) specs) :
    checker.FailsOn files t failure := by
  refine ⟨(checkTools_eq_error_iff hpolicies hspecs).mpr h, ?_⟩
  rintro content rfl
  exact (check_eq_error_iff hpolicies hspecs).mpr h

/-- With an unknown key, a check ends with it exactly if no search breaks before, and with the
failure of a search otherwise. -/
lemma IsFirstUnknown.failsOn_iff (h : IsFirstUnknown specs before spec) (t : Text) :
    (checker.FailsOn files t (checker.unknownKeyFailure spec)
        ↔ ∀ other ∈ before, ¬ DetectionBreaks other.patterns t)
      ∧ (checker.FailsOn files t searchFailure
        ↔ ∃ other ∈ before, DetectionBreaks other.patterns t) := by
  have hunknown : (∀ other ∈ before, ¬ DetectionBreaks other.patterns t)
      → checker.FailsOn files t (checker.unknownKeyFailure spec) :=
    fun hbreaks => failsOn_of_reaches hpolicies hspecs (h.reaches_unknownKey hbreaks)
  have hsearch : (∃ other ∈ before, DetectionBreaks other.patterns t)
      → checker.FailsOn files t searchFailure := by
    intro hbreaks
    obtain ⟨after, hsplits⟩ := h.splits
    refine failsOn_of_reaches hpolicies hspecs ?_
    rw [hsplits]
    exact reaches_search h.known hbreaks (spec :: after)
  by_cases hbreaks : ∃ other ∈ before, DetectionBreaks other.patterns t
  · have hnot : ¬ ∀ other ∈ before, ¬ DetectionBreaks other.patterns t := by
      obtain ⟨other, hother, hbreak⟩ := hbreaks
      exact fun hall => hall other hother hbreak
    refine ⟨iff_of_false (fun hfails => ?_) hnot, iff_of_true (hsearch hbreaks) hbreaks⟩
    cases hfails.unique (hsearch hbreaks)
  · have hall : ∀ other ∈ before, ¬ DetectionBreaks other.patterns t :=
      fun other hother hbreak => hbreaks ⟨other, hother, hbreak⟩
    refine ⟨iff_of_true (hunknown hall) hall, iff_of_false (fun hfails => ?_) hbreaks⟩
    cases hfails.unique (hunknown hall)

/-- With known keys, every tool has a result exactly if no search breaks, and otherwise a check ends
with the failure of a search. -/
lemma results_or_failsOn (hknown : ∀ spec ∈ specs, spec.HasKnownKey) (t : Text) :
    ((∃ results, (checker.checkTools files t).outcome = .ok results
          ∧ List.Forall₂ (checker.GivesResult precision policy t) specs results)
        ↔ ∀ spec ∈ specs, ¬ DetectionBreaks spec.patterns t)
      ∧ (checker.FailsOn files t searchFailure
        ↔ ∃ spec ∈ specs, DetectionBreaks spec.patterns t) := by
  have hsearch : (∃ spec ∈ specs, DetectionBreaks spec.patterns t)
      → checker.FailsOn files t searchFailure := by
    intro hbreaks
    refine failsOn_of_reaches hpolicies hspecs ?_
    rw [← List.append_nil specs]
    exact reaches_search hknown hbreaks []
  have hresults : (∀ spec ∈ specs, ¬ DetectionBreaks spec.patterns t)
      → ∃ results, (checker.checkTools files t).outcome = .ok results
        ∧ List.Forall₂ (checker.GivesResult precision policy t) specs results := by
    intro hbreaks
    obtain ⟨results, hresults⟩ := exists_forall₂ fun spec hmem =>
      exists_checkSpec_eq_ok hpolicies ⟨hknown spec hmem, hbreaks spec hmem⟩
    refine ⟨results, ?_, hresults.imp fun _ _ h => h.2⟩
    rw [outcome_checkTools hspecs]
    exact mapM_eq_ok_iff.mpr (hresults.imp fun _ _ h => h.1)
  refine ⟨⟨?_, hresults⟩, ?_, hsearch⟩
  · rintro ⟨results, houtcome, -⟩ spec hspec hbreak
    have hfails := (hsearch ⟨spec, hspec, hbreak⟩).1
    rw [houtcome] at hfails
    cases hfails
  · intro hfails
    by_contra hnone
    obtain ⟨results, houtcome, -⟩ :=
      hresults fun spec hspec hbreak => hnone ⟨spec, hspec, hbreak⟩
    rw [hfails.1] at houtcome
    cases houtcome

/-- How the check of the tools of a catalog ends, in every text.

If some key is unknown, the tools before the first such key decide: unless a search for one of them
breaks, the check fails with that key, and so does the check of every Dockerfile in which the text
stands.  If all keys are known, every tool has a result, in order, unless a search breaks.  A search
never breaks if the patterns are orderly. -/
theorem checkTools_by_keys :
    ((∃ spec ∈ specs, ¬ spec.HasKnownKey) → ∃ before spec, IsFirstUnknown specs before spec
        ∧ ∀ t, (checker.FailsOn files t (checker.unknownKeyFailure spec)
            ↔ ∀ other ∈ before, ¬ DetectionBreaks other.patterns t)
          ∧ (checker.FailsOn files t searchFailure
            ↔ ∃ other ∈ before, DetectionBreaks other.patterns t))
      ∧ ((∀ spec ∈ specs, spec.HasKnownKey) → ∀ t,
        ((∃ results, (checker.checkTools files t).outcome = .ok results
              ∧ List.Forall₂ (checker.GivesResult precision policy t) specs results)
            ↔ ∀ spec ∈ specs, ¬ DetectionBreaks spec.patterns t)
          ∧ (checker.FailsOn files t searchFailure
            ↔ ∃ spec ∈ specs, DetectionBreaks spec.patterns t))
      ∧ ∀ spec ∈ specs, (∀ pattern ∈ spec.patterns, pattern.body.isOrderly []) →
        ∀ t, ¬ DetectionBreaks spec.patterns t := by
  refine ⟨fun hunknown => ?_, results_or_failsOn hpolicies hspecs, ?_⟩
  · obtain ⟨before, spec, hfirst⟩ := exists_isFirstUnknown hunknown
    exact ⟨before, spec, hfirst, hfirst.failsOn_iff hpolicies hspecs⟩
  · intro spec _ horderly t
    exact not_detectionBreaks_of_isOrderly horderly t

end Policies

/-! ### Catalogs with an unknown key -/

/-- A catalog with a tool that has the given pattern, and another one whose key is unknown. -/
def catalogWithRust (pattern : Text) : Text :=
  "tools: [\x7bkey: go, name: Go, patterns: ['" ++ pattern ++ "']\x7d, "
    ++ "\x7bkey: rust, name: Rust, patterns: ['rust(\\d+)']\x7d]"

/-- A checker that reads its tools from a catalog. -/
def catalogChecker : Checker :=
  ofStandards exampleStandards (some (Path.ofText "tools.yaml")) none none

/-- A file with the catalog. -/
def catalogFiles (pattern : Text) : Files :=
  (Files.fresh []).write (Path.ofText "tools.yaml")
    (.file (Utf8.encode (catalogWithRust pattern)))

/-- If the catalog is read with its two keys, the second of them is unknown. -/
lemma exists_specs_catalogWithRust (files : Files)
    (h : (catalogChecker.tools files).outcome.toOption.map (List.map ToolSpec.key)
      = some [ToolKey.go.name, "rust"]) :
    ∃ specs, (catalogChecker.tools files).outcome = .ok specs
      ∧ specs.map ToolSpec.key = [ToolKey.go.name, "rust"]
      ∧ ∃ spec ∈ specs, ¬ spec.HasKnownKey := by
  obtain ⟨specs, hspecs, hmap⟩ := map_toOption_eq_some_iff.mp h
  have hmem : ("rust" : Text) ∈ specs.map ToolSpec.key := by
    rw [hmap]
    simp
  obtain ⟨rust, hrust, hkey⟩ := List.mem_map.mp hmem
  refine ⟨specs, hspecs, hmap, rust, hrust, ?_⟩
  rintro ⟨key, hname⟩
  rw [hkey] at hname
  revert hname
  cases key <;> decide

/-- In a text in which the first tool is found, the check fails with the key of the second. -/
theorem checkTools_by_keys_rust :
    let files := catalogFiles "go(\\d+)"
    ∃ specs, (catalogChecker.tools files).outcome = .ok specs
      ∧ catalogChecker.policies = ⟨Precision.truncated.name, MatchPolicy.exact.name⟩
      ∧ ∃ before spec, IsFirstUnknown specs before spec ∧ spec.key = "rust"
        ∧ catalogChecker.FailsOn files "go1" (catalogChecker.unknownKeyFailure spec) := by
  intro files
  have hpolicies : catalogChecker.policies
      = ⟨Precision.truncated.name, MatchPolicy.exact.name⟩ := rfl
  obtain ⟨specs, hspecs, hmap, hunknown⟩ :=
    exists_specs_catalogWithRust files (by decide +kernel)
  have hpatterns : (catalogChecker.tools files).outcome.toOption.map (fun specs =>
      specs.all fun spec => spec.patterns.all fun pattern => pattern.body.isOrderly [])
      = some true := by decide +kernel
  have horderly : ∀ spec ∈ specs, ∀ pattern ∈ spec.patterns, pattern.body.isOrderly [] := by
    rw [hspecs] at hpatterns
    simpa [Except.toOption] using hpatterns
  obtain ⟨hfirst, -, hnever⟩ := checkTools_by_keys hpolicies hspecs
  obtain ⟨before, spec, hspec, hfails⟩ := hfirst hunknown
  obtain ⟨after, hsplits⟩ := hspec.splits
  refine ⟨specs, hspecs, hpolicies, before, spec, hspec, ?_, (hfails "go1").1.mpr ?_⟩
  · have hmem : spec.key ∈ specs.map ToolSpec.key := List.mem_map_of_mem (by simp [hsplits])
    rw [hmap, List.mem_cons, List.mem_singleton] at hmem
    exact hmem.resolve_left fun hgo => hspec.unknown ⟨.go, hgo⟩
  · intro other hother
    have hmem : other ∈ specs := by simp [hsplits, hother]
    exact hnever other hmem (horderly other hmem) "go1"

/-- In front of a tool whose key is unknown, a tool whose pattern repeats a group possessively can
break the search, so that the check does not fail with the key. -/
theorem not_unknownKey_of_possessive :
    let files := catalogFiles "(?:(\\d)|v)*+"
    (∃ specs, (catalogChecker.tools files).outcome = .ok specs
        ∧ ∃ spec ∈ specs, ¬ spec.HasKnownKey)
      ∧ (catalogChecker.checkTools files "1vv").outcome = .error searchFailure
      ∧ ∀ spec, searchFailure ≠ catalogChecker.unknownKeyFailure spec := by
  intro files
  obtain ⟨specs, hspecs, -, hunknown⟩ :=
    exists_specs_catalogWithRust files (by decide +kernel)
  exact ⟨⟨specs, hspecs, hunknown⟩, by decide +kernel, nofun⟩

end Checker

end DockCheck
