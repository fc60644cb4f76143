import DockCheck.Proofs.Faults
import DockCheck.Proofs.Pattern.Groups
import DockCheck.Proofs.Settings
import DockCheck.Proofs.Tool.Catalog
import DockCheck.Proofs.Tool.Detection

/-!
# Searches with accepted tools

A tool is accepted after its patterns have been compiled, and they are compiled again for a search.
The text of a pattern is all that is kept of it in between, and it is enough: a text reads as one
pattern only (`Pattern.ofText_eq_ok_iff`).

The main statement, `accepted_searches`, says for every accepted tool how its searches end.  Each
gives a version that is not empty, or none, unless a search breaks; and the first group, which
every pattern has, may have no part in a match.
-/

namespace DockCheck

namespace Pattern

variable {pattern : Pattern} {source t : Text}

/-- A text reads as the pattern of which it is the text, and as no other. -/
lemma ofText_eq_ok_iff : ofText source = .ok pattern ↔ pattern.source = source := by
  constructor
  · intro h
    unfold ofText at h
    split at h
    · cases h
    · split at h
      · cases h
        rfl
      · cases h
  · rintro rfl
    obtain ⟨source, body, groups, compiled, captures⟩ := pattern
    unfold ofText
    split
    · next fault h =>
      rw [compiled] at h
      cases h
    · next other count h =>
      rw [compiled] at h
      cases h
      exact dif_pos captures

/-- The groups of the pattern are numbered as they were counted, there is a first one, and no others
take part in a match. -/
structure IsCounted (pattern : Pattern) : Prop where
  numbers : pattern.body.groupNumbers = List.range' 1 pattern.groups
  first : 1 ∈ pattern.body.groupNumbers
  others : ∀ t n number, 1 ≤ number → pattern.TakesPart t n number →
    number ∈ pattern.body.groupNumbers

lemma isCounted (pattern : Pattern) : pattern.IsCounted where
  numbers := pattern.groupNumbers_body
  first := mem_groupNumbers_body_iff.mpr ⟨le_rfl, pattern.captures⟩
  others _ _ _ hnumber h := h.mem_groupNumbers hnumber

/-- The first group of the pattern has no part in its leftmost match. -/
def LeavesFirstOut (pattern : Pattern) (t : Text) : Prop :=
  ∀ n, pattern.IsLeftmost t n → ¬ pattern.TakesPart t n 1

/-- A pattern that leaves its first group out captures nothing. -/
lemma LeavesFirstOut.isSilent (h : pattern.LeavesFirstOut t) : pattern.IsSilent t := by
  intro word hcaptures
  obtain ⟨n, hleftmost, htakes⟩ := hcaptures.exists_takesPart
  exact h n hleftmost htakes

end Pattern

/-- A field with one key is read as the value under it is. -/
lemma Schema.field_eq_ok_iff {α : Type} {key : Text} {item : Reader α} {location : List Step}
    {entries : List (Text × Data)} {a : α} :
    field [key] item location entries = .ok a
      ↔ ∃ value, entries.lookup key = some value
        ∧ item (location ++ [.field key]) value = .ok a := by
  unfold field firstField
  cases h : entries.lookup key <;> simp [h, Checked.issue]

namespace ToolSpec

variable {value : Data} {spec : ToolSpec} {texts : List Text} {patterns : List Pattern} {t : Text}

/-! ### Accepted data -/

/-- The texts of the patterns of a tool. -/
def sources (spec : ToolSpec) : List Text := spec.patterns.map Pattern.source

/-- Texts are compiled to the patterns of which they are the texts. -/
lemma patternsOf_eq_ok_iff :
    patternsOf texts = .ok patterns ↔ patterns.map Pattern.source = texts := by
  unfold patternsOf
  simp only [mapM_eq_ok_iff, Pattern.ofText_eq_ok_iff]
  constructor
  · intro h
    induction h with
    | nil => rfl
    | cons hpattern _ ih => rw [List.map_cons, hpattern, ih]
  · rintro rfl
    induction patterns with
    | nil => exact .nil
    | cons pattern patterns ih => exact .cons rfl ih

/-- These are the texts that data give for the patterns of a tool. -/
def TextsAre (value : Data) (texts : List Text) : Prop :=
  ∃ patterns, value.field? "patterns" = some patterns
    ∧ Schema.texts [.field "patterns"] patterns = .ok texts

lemma patternReader_eq_ok {location : List Schema.Step}
    (h : patternReader location value = .ok patterns) :
    Schema.texts location value = .ok (patterns.map Pattern.source) ∧ patterns ≠ [] := by
  unfold patternReader at h
  split at h
  · cases h
  · cases h
  · next texts hnonempty htexts =>
    split at h
    · next found hfound =>
      cases h
      obtain rfl := patternsOf_eq_ok_iff.mp hfound
      refine ⟨htexts, ?_⟩
      rintro rfl
      exact hnonempty rfl
    · cases h

/-- Accepted data give the texts of the patterns, and there are some. -/
lemma of_ofData_eq_ok (h : ofData value = .ok spec) :
    TextsAre value spec.sources ∧ spec.patterns ≠ [] := by
  have hmodel : Schema.model title ofEntries [] value = .ok spec := by
    rw [ofData] at h
    split at h
    · cases h
    · cases hmodel : Schema.model title ofEntries [] value with
      | ok other =>
        rw [hmodel] at h
        rw [Except.ok.inj h]
      | faulty issues =>
        rw [hmodel] at h
        cases h
  unfold Schema.model at hmodel
  split at hmodel
  · next entries =>
    simp only [ofEntries, Schema.Checked.and_eq_ok_iff] at hmodel
    obtain ⟨_, ⟨_, ⟨_, hmk, key, -, rfl⟩, name, -, rfl⟩, patterns, hpatterns, rfl⟩ := hmodel
    cases hmk
    obtain ⟨data, hdata, hread⟩ := Schema.field_eq_ok_iff.mp hpatterns
    obtain ⟨htexts, hnonempty⟩ := patternReader_eq_ok hread
    exact ⟨⟨data, hdata, htexts⟩, hnonempty⟩
  · cases hmodel

/-! ### Searches -/

/-- The patterns of the tool compile again to what they were, and how its searches end. -/
structure Searches (spec : ToolSpec) : Prop where
  nonempty : spec.patterns ≠ []
  compiled : patternsOf spec.sources = .ok spec.patterns
  counted : ∀ pattern ∈ spec.patterns, pattern.IsCounted
  /-- Unless a search breaks, there is a version, which is not empty, or there is none. -/
  gives : ∀ t, ¬ DetectionBreaks spec.patterns t
    ↔ ∃ found, extractVersion spec.patterns t = .ok found
      ∧ ∀ version, found = some version → version ≠ []
  breaks : ∀ t, DetectionBreaks spec.patterns t
    ↔ extractVersion spec.patterns t = .error .spanReversed
  /-- There is none if no pattern has its first group in its leftmost match. -/
  leavesOut : ∀ t, ¬ DetectionBreaks spec.patterns t →
    (∀ pattern ∈ spec.patterns, pattern.LeavesFirstOut t) →
      extractVersion spec.patterns t = .ok none
  orderly : (∀ pattern ∈ spec.patterns, pattern.body.isOrderly []) →
    ∀ t, ¬ DetectionBreaks spec.patterns t

/-- Unless a search breaks, extraction gives a version that is not empty, or none. -/
lemma not_detectionBreaks_iff :
    ¬ DetectionBreaks patterns t
      ↔ ∃ found, extractVersion patterns t = .ok found
        ∧ ∀ version, found = some version → version ≠ [] := by
  rw [← extractVersion_eq_error_iff]
  cases h : extractVersion patterns t with
  | error fault =>
    cases fault
    simp
  | ok found =>
    refine iff_of_true nofun ⟨found, rfl, ?_⟩
    rintro version rfl
    obtain ⟨pattern, -, hcaptures⟩ := (extractVersion_eq_some_iff.mp h).2.exists_mem
    exact hcaptures.1

lemma searches_of_ofData (h : ofData value = .ok spec) : spec.Searches where
  nonempty := (of_ofData_eq_ok h).2
  compiled := patternsOf_eq_ok_iff.mpr rfl
  counted pattern _ := pattern.isCounted
  gives _ := not_detectionBreaks_iff
  breaks _ := extractVersion_eq_error_iff.symm
  leavesOut _ hbreaks hout :=
    extractVersion_eq_none_iff.mpr ⟨hbreaks, fun pattern hmem => (hout pattern hmem).isSilent⟩
  orderly := not_detectionBreaks_of_isOrderly

/-- How the searches with accepted tools end: with those of all data that are accepted, and with
those of all catalogs that are loaded. -/
theorem accepted_searches :
    (∀ value spec, ofData value = .ok spec → TextsAre value spec.sources ∧ spec.Searches)
      ∧ ∀ files path specs, Catalog.load files path = .ok specs →
        ∀ spec ∈ specs, spec.Searches := by
  refine ⟨fun value spec h => ⟨(of_ofData_eq_ok h).1, searches_of_ofData h⟩, ?_⟩
  intro files path specs hload spec hmem
  obtain ⟨items, -, hitems⟩ := Catalog.load_eq_ok_iff.mp hload
  have hsearches : List.Forall₂ (fun spec item => spec.Searches ∧ ofData item = .ok spec) specs
      items := List.Forall₂.flip (hitems.imp fun item spec h => ⟨searches_of_ofData h, h⟩)
  exact ((List.forall₂_and_left _ _).mp hsearches).1 spec hmem

/-- Data of a tool with one pattern. -/
def dataWith (pattern : Text) : Data :=
  .table [("key", .text "go"), ("name", .text "Go"), ("patterns", .list [.text pattern])]

/-- Where the first group is optional and has no part in the match, there is no version. -/
theorem accepted_searches_optional :
    ∃ spec, ofData (dataWith "go(\\d+)?") = .ok spec ∧ spec.Searches
      ∧ spec.sources = ["go(\\d+)?"] ∧ extractVersion spec.patterns "go" = .ok none := by
  have heval : (ofData (dataWith "go(\\d+)?")).toOption.map (fun spec =>
      (spec.sources, extractVersion spec.patterns "go"))
        = some ((["go(\\d+)?"] : List Text), .ok none) := by decide +kernel
  obtain ⟨spec, hspec, houtcome⟩ := map_toOption_eq_some_iff.mp heval
  obtain ⟨hsources, hnone⟩ := Prod.mk.inj houtcome
  exact ⟨spec, hspec, (accepted_searches.1 _ spec hspec).2, hsources, hnone⟩

/-- A pattern that repeats a group possessively is accepted, and the search with it can break. -/
theorem not_extractVersion_of_possessive :
    ∃ spec, ofData (dataWith "(?:(\\d)|v)*+") = .ok spec
      ∧ extractVersion spec.patterns "1vv" = .error .spanReversed := by
  have heval : (ofData (dataWith "(?:(\\d)|v)*+")).toOption.map (fun spec =>
      extractVersion spec.patterns "1vv") = some (.error .spanReversed) := by decide +kernel
  exact map_toOption_eq_some_iff.mp heval

end ToolSpec

end DockCheck
