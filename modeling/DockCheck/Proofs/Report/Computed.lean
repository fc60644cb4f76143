import DockCheck.Proofs.Json.Values
import DockCheck.Proofs.Schema
import DockCheck.Report
import Mathlib.Data.List.Forall2

/-!
# Computed values

Documents on results and reports repeat what is computed from them, and a document may contradict
itself.  `SameBut` says of two tables that they differ in such values only.

A result that is read is one of three, as its status says, and what is computed from it agrees with
the status (`ToolResult.Agrees`).  What the document says of computed values has no effect, so that
no document makes a result or a report that contradicts itself (`contradictions_have_no_effect`).
-/

namespace DockCheck

/-- The values are tables that differ at most in what they say under the given keys. -/
def SameBut (keys : List Text) (value other : Data) : Prop :=
  ∃ entries others, value = .table entries ∧ other = .table others
    ∧ ∀ key, key ∉ keys → others.lookup key = entries.lookup key

/-! ### Results of tools -/

namespace ToolResult

open Schema

/-- The keys of what is computed from a result. -/
def computedKeys : List Text := ["found", "valid", "version", "message"]

/-- The result is the one of the three that the status of the value says, and so is what is computed
from it. -/
structure Agrees (value : Data) (result : ToolResult) : Prop where
  status : value.field? "status" = some (.text result.status)
  notFound : value.field? "status" = some (.text "not_found") ↔ ∃ name, result = .notFound name
  valid : value.field? "status" = some (.text "valid") ↔ ∃ name version, result = .valid name version
  invalid : value.field? "status" = some (.text "invalid")
    ↔ ∃ name version allowed, result = .invalid name version allowed
  isFound : result.isFound = false ↔ value.field? "status" = some (.text "not_found")
  version : result.version? = none ↔ value.field? "status" = some (.text "not_found")
  isValid : result.isValid = false ↔ value.field? "status" = some (.text "invalid")

section Status

variable (result : ToolResult)

lemma status_eq_notFound_iff : result.status = "not_found" ↔ ∃ name, result = .notFound name := by
  cases result with
  | notFound name => exact iff_of_true rfl ⟨name, rfl⟩
  | valid _ _ =>
    exact iff_of_false (show ("valid" : Text) ≠ "not_found" by decide) nofun
  | invalid _ _ _ =>
    exact iff_of_false (show ("invalid" : Text) ≠ "not_found" by decide) nofun

lemma status_eq_valid_iff :
    result.status = "valid" ↔ ∃ name version, result = .valid name version := by
  cases result with
  | notFound _ => exact iff_of_false (show ("not_found" : Text) ≠ "valid" by decide) nofun
  | valid name version => exact iff_of_true rfl ⟨name, version, rfl⟩
  | invalid _ _ _ => exact iff_of_false (show ("invalid" : Text) ≠ "valid" by decide) nofun

lemma status_eq_invalid_iff : result.status = "invalid"
    ↔ ∃ name version allowed, result = .invalid name version allowed := by
  cases result with
  | notFound _ => exact iff_of_false (show ("not_found" : Text) ≠ "invalid" by decide) nofun
  | valid _ _ => exact iff_of_false (show ("valid" : Text) ≠ "invalid" by decide) nofun
  | invalid name version allowed => exact iff_of_true rfl ⟨name, version, allowed, rfl⟩

end Status

/-- A result whose status is that of the value agrees with it. -/
lemma agrees_of_status {value : Data} {result : ToolResult}
    (h : value.field? "status" = some (.text result.status)) : Agrees value result := by
  have hstatus : ∀ t : Text, value.field? "status" = some (.text t) ↔ result.status = t := by
    intro t
    rw [h, Option.some.injEq, Data.text.injEq]
  refine ⟨h, ?_, ?_, ?_, ?_, ?_, ?_⟩
  · rw [hstatus, status_eq_notFound_iff]
  · rw [hstatus, status_eq_valid_iff]
  · rw [hstatus, status_eq_invalid_iff]
  · rw [hstatus, status_eq_notFound_iff]
    cases result <;> simp [ToolResult.isFound]
  · rw [hstatus, status_eq_notFound_iff]
    cases result <;> simp [ToolResult.version?]
  · rw [hstatus, status_eq_invalid_iff]
    cases result <;> simp [ToolResult.isValid]

variable {value other : Data} {result : ToolResult} {location : List Step}

/-- A value that is read is a table with the status of the result. -/
lemma status_of_reader (h : reader location value = .ok result) :
    value.field? "status" = some (.text result.status) := by
  cases value with
  | table entries =>
    have hkey : (Data.table entries).field? "status" = entries.lookup ("status" : Text) := rfl
    rw [hkey]
    unfold reader at h
    dsimp only at h
    cases htag : entries.lookup ("status" : Text) with
    | none =>
      rw [htag] at h
      cases h
    | some tag =>
      rw [htag] at h
      cases tag with
      | text t =>
        dsimp only at h
        split at h
        · next ht =>
          obtain ⟨_, hmk, name, -, rfl⟩ := Checked.and_eq_ok_iff.mp h
          cases hmk
          rw [ht]
          rfl
        · split at h
          · next ht =>
            simp only [Checked.and_eq_ok_iff, Checked.ok.injEq] at h
            obtain ⟨_, ⟨_, rfl, name, -, rfl⟩, version, -, rfl⟩ := h
            rw [ht]
            rfl
          · split at h
            · next ht =>
              simp only [Checked.and_eq_ok_iff, Checked.ok.injEq] at h
              obtain ⟨_, ⟨_, ⟨_, rfl, name, -, rfl⟩, version, -, rfl⟩, allowed, -, rfl⟩ := h
              rw [ht]
              rfl
            · cases h
      | _ => cases h
  | _ => cases h

/-- What a value says under the keys of computed values has no effect, not even on the issues. -/
lemma reader_congr (h : SameBut computedKeys value other) (location : List Step) :
    reader location other = reader location value := by
  obtain ⟨entries, others, rfl, rfl, hsame⟩ := h
  have hstatus : others.lookup ("status" : Text) = entries.lookup ("status" : Text) :=
    hsame _ (by decide)
  have hfield : ∀ key, key ∉ computedKeys → ∀ other ∈ [key],
      others.lookup other = entries.lookup other := by
    intro key hkey other hother
    rw [List.mem_singleton.mp hother]
    exact hsame key hkey
  have hname : ∀ location, field ["name"] text location others
      = field ["name"] text location entries :=
    fun _ => field_congr (hfield _ (by decide))
  have hversion : ∀ location, field ["detected_version"] text location others
      = field ["detected_version"] text location entries :=
    fun _ => field_congr (hfield _ (by decide))
  have hallowed : ∀ location, fieldOr [] ["allowed_versions"] texts location others
      = fieldOr [] ["allowed_versions"] texts location entries :=
    fun _ => fieldOr_congr (hfield _ (by decide))
  unfold reader
  simp only [hstatus, hname, hversion, hallowed]

lemma ofData_eq_ok_iff : ofData value = .ok result ↔ reader [] value = .ok result := by
  unfold ofData
  cases reader [] value <;> simp [Checked.titled]

end ToolResult

/-! ### Reports -/

namespace Report

open Schema

/-- A report passed exactly if the base image is the expected one and every tool that was found
counts as valid. -/
lemma passed_eq_true_iff (report : Report) :
    report.passed = true
      ↔ report.baseImage.status = .valid ∧ report.validFoundCount = report.found.length := by
  unfold passed validFoundCount
  rw [Bool.and_eq_true, ImageCheck.valid, beq_iff_eq, List.all_eq_true, List.countP_eq_length]

/-- Documents say the same of a report but for what is computed: the verdict and, in the entries for
the tools, what is computed from their results. -/
structure SameReport (entries others : List (Text × Data)) : Prop where
  baseImage : others.lookup ("base_image" : Text) = entries.lookup ("base_image" : Text)
  tools : others.lookup ("tools" : Text) = entries.lookup ("tools" : Text)
    ∨ ∃ values changed, entries.lookup ("tools" : Text) = some (.list values)
      ∧ others.lookup ("tools" : Text) = some (.list changed)
      ∧ List.Forall₂ (SameBut ToolResult.computedKeys) values changed

lemma ofData_congr {entries others : List (Text × Data)} (h : SameReport entries others) :
    ofData (.table others) = ofData (.table entries) := by
  have himage : field ["base_image"] (model "BaseImageCheck" ImageCheck.ofEntries) [] others
      = field ["base_image"] (model "BaseImageCheck" ImageCheck.ofEntries) [] entries := by
    apply field_congr
    intro key hkey
    rw [List.mem_singleton.mp hkey, h.baseImage]
  have htools : fieldOr [] ["tools"] (list ToolResult.reader) [] others
      = fieldOr [] ["tools"] (list ToolResult.reader) [] entries := by
    rcases h.tools with hsame | ⟨values, changed, hvalues, hchanged, hsame⟩
    · apply fieldOr_congr
      intro key hkey
      rw [List.mem_singleton.mp hkey, hsame]
    · have hread : ∀ location, list ToolResult.reader location (.list changed)
          = list ToolResult.reader location (.list values) := by
        intro location
        apply list_congr
        exact hsame.imp fun _ _ hitem location => ToolResult.reader_congr hitem location
      unfold fieldOr firstField
      simp only [List.findSome?_cons, hvalues, hchanged, Option.map_some]
      exact hread _
  change (ofEntries [] others).titled title = (ofEntries [] entries).titled title
  unfold ofEntries
  rw [himage, htools]

end Report

/-- A result that is read agrees with the status of its document and with nothing else that the
document says of computed values, and neither do reports depend on such values.  So the verdict of
every report that is read agrees with its base image and with the counts of its tools. -/
theorem contradictions_have_no_effect :
    (∀ value result, ToolResult.ofData value = .ok result → ToolResult.Agrees value result)
      ∧ (∀ value other, SameBut ToolResult.computedKeys value other →
        ToolResult.ofData other = ToolResult.ofData value)
      ∧ (∀ entries others, Report.SameReport entries others →
        Report.ofData (.table others) = Report.ofData (.table entries))
      ∧ ∀ value report, Report.ofData value = .ok report →
        (report.passed = true
          ↔ report.baseImage.status = .valid ∧ report.validFoundCount = report.found.length) := by
  refine ⟨?_, ?_, ?_, ?_⟩
  · intro value result h
    rw [ToolResult.ofData_eq_ok_iff] at h
    exact ToolResult.agrees_of_status (ToolResult.status_of_reader h)
  · intro value other h
    unfold ToolResult.ofData
    rw [ToolResult.reader_congr h]
  · intro entries others h
    exact Report.ofData_congr h
  · intro value report _
    exact report.passed_eq_true_iff

/-- What a document says of a tool that was not found, as if it had been. -/
def claimedEntries : List (Text × Data) :=
  [("found", .bool true), ("valid", .bool false), ("version", .text "1.22"), ("message", .int 0)]

def notFoundEntries : List (Text × Data) := [("status", .text "not_found"), ("name", .text "Go")]

/-- The document of a report that claims to have passed without a base image. -/
def claimedReport : Data :=
  .table [("passed", .bool true), ("tools", .list [.table (notFoundEntries ++ claimedEntries)]),
    ("base_image", .table [("status", .text "missing"), ("expected", .text "alpine")])]

theorem contradictions_have_no_effect_claimedEntries :
    ToolResult.Agrees (.table (notFoundEntries ++ claimedEntries)) (.notFound "Go")
      ∧ ToolResult.ofData (.table (notFoundEntries ++ claimedEntries))
        = ToolResult.ofData (.table notFoundEntries)
      ∧ ∃ report, Report.ofData claimedReport = .ok report ∧ report.passed = false := by
  obtain ⟨hagrees, hsame, -, hpassed⟩ := contradictions_have_no_effect
  refine ⟨hagrees _ _ rfl, hsame _ _ ?_, ⟨⟨.missing, "alpine", none⟩, [.notFound "Go"]⟩, rfl, ?_⟩
  · refine ⟨_, _, rfl, rfl, ?_⟩
    intro key hkey
    have hclaimed : ∀ entry ∈ claimedEntries, entry.1 ∈ ToolResult.computedKeys := by decide
    apply lookup_append_of_ne
    rintro entry hmem rfl
    exact hkey (hclaimed entry hmem)
  · rw [Bool.eq_false_iff, Ne, hpassed claimedReport _ rfl]
    rintro ⟨hstatus, -⟩
    cases hstatus

end DockCheck
