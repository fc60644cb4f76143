import DockCheck.Proofs.Pattern.Excerpts
import DockCheck.Proofs.Tool.Accepted
import DockCheck.Proofs.Tool.EmptyVersions
import DockCheck.Proofs.Version.Precisions

/-!
# Versions that are found stand in the text

A version that a check reports is never made up.  What is extracted is an excerpt of the text, and a
normal form is the beginning of what is left of it without the white space and the dots around it,
up to a dot or to the end (`Version.clean_eq_normalize_or`).

The main statement, `found_version_isExcerpt`, says this of every tool, whatever its patterns are.
-/

namespace DockCheck

open Text (IsTrim)

variable {precision : Precision} {policy : MatchPolicy} {allowed : List Text} {spec : ToolSpec}
  {patterns : List Pattern} {t raw version core : Text} {result : ToolResult}

namespace Version

/-- A cleaned version is its normal form, or it goes on with a dot behind it. -/
lemma clean_eq_normalize_or (precision : Precision) (raw : Text) :
    clean raw = normalize precision raw
      ∨ ∃ rest, clean raw = normalize precision raw ++ '.' :: rest := by
  have hkept : components (normalize precision raw) <+: components (clean raw) := by
    rw [components_normalize, kept_eq_take]
    exact List.take_prefix _ _
  exact Text.fields_prefix_fields_iff.mp hkept

/-- Cleaning takes away the white space at the two ends, and then the dots. -/
lemma exists_isTrim_clean (raw : Text) :
    ∃ bare, IsTrim Text.isBlank raw bare ∧ IsTrim (· == '.') bare (clean raw) := by
  refine ⟨Text.strip raw, ?_, ?_⟩
  · exact Text.trim_eq_iff.mp (Text.strip_eq_trim raw).symm
  · exact Text.trim_eq_iff.mp (trimDots_eq_trim (Text.strip raw)).symm

end Version

/-- What is left of a text is an excerpt of it. -/
lemma Text.IsTrim.isInfix {p : Char → Bool} (h : IsTrim p t core) : core <:+: t := by
  obtain ⟨before, after, hcut, -, -⟩ := h.cut
  exact ⟨before, after, hcut.symm⟩

/-- What is extracted from a text is an excerpt of it. -/
lemma isInfix_of_extractVersion (h : extractVersion patterns t = .ok (some raw)) : raw <:+: t := by
  obtain ⟨pattern, -, hcaptures⟩ := (extractVersion_eq_some_iff.mp h).2.exists_mem
  exact hcaptures.isInfix

/-- The version of a tool that is found is an excerpt of the text that was scanned.  It is what is
extracted, without the white space and then without the dots at its two ends, either all of it or up
to one of its dots. -/
theorem found_version_isExcerpt (hresult : checkTool precision policy allowed spec t = .ok result)
    (hversion : result.version? = some version) :
    version <:+: t
      ∧ ∃ raw bare core, extractVersion spec.patterns t = .ok (some raw)
        ∧ IsTrim Text.isBlank raw bare ∧ IsTrim (· == '.') bare core
        ∧ (core = version ∨ ∃ rest, core = version ++ '.' :: rest) := by
  obtain ⟨raw, hraw, rfl⟩ := exists_version?_iff.mp ⟨result, hresult, hversion⟩
  obtain ⟨bare, hblank, hdots⟩ := Version.exists_isTrim_clean raw
  have hkept := Version.clean_eq_normalize_or precision raw
  have hclean : Version.normalize precision raw <:+: Version.clean raw :=
    (Version.normalize_prefix_clean precision raw).isInfix
  have hbare : bare <:+: t := hblank.isInfix.trans (isInfix_of_extractVersion hraw)
  exact ⟨hclean.trans (hdots.isInfix.trans hbare), raw, bare, _, hraw, hblank, hdots, hkept⟩

/-- Two dots in a row behind the first component, and white space and dots around the version:
what is found is the first component with one dot. -/
theorem found_version_isExcerpt_dots :
    ∃ spec, ToolSpec.ofData (ToolSpec.dataWith "go([\\s.\\d]+)") = .ok spec
      ∧ checkTool .majorMinor .exact [] spec "echo go .1..2. x" = .ok (.invalid "Go" "1." [])
      ∧ extractVersion spec.patterns "echo go .1..2. x" = .ok (some (" .1..2. " : String))
      ∧ ("1." : Text) <:+: ("echo go .1..2. x" : String) := by
  have heval : (ToolSpec.ofData (ToolSpec.dataWith "go([\\s.\\d]+)")).toOption.map (fun spec =>
        (checkTool .majorMinor .exact [] spec "echo go .1..2. x",
          extractVersion spec.patterns "echo go .1..2. x"))
      = some (.ok (.invalid "Go" "1." []), .ok (some (" .1..2. " : String))) := by
    decide +kernel
  obtain ⟨spec, hspec, houtcome⟩ := map_toOption_eq_some_iff.mp heval
  obtain ⟨hresult, hraw⟩ := Prod.mk.inj houtcome
  exact ⟨spec, hspec, hresult, hraw, (found_version_isExcerpt hresult rfl).1⟩

end DockCheck
