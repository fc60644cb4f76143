import DockCheck.Proofs.Json.RoundTrip
import DockCheck.Proofs.Schema
import DockCheck.Report.Console
import Mathlib.Data.List.Forall2

/-!
# Reading a report that was written

A report that is written as JSON can be read again.  The document says more than the report holds:
whether a tool was found, its version and its message, and whether the check passed.
`ShowsComputed` says that these are what the report computes, and reading ignores them.

The main statement, `read_json`, goes through two round trips: `Json.read_write` from the text to
the data, and `ofData_toData` from the data to the report.
-/

namespace DockCheck

/-! ### Results of tools -/

namespace ToolResult

/-- A value says what is computed from a result. -/
structure ShowsComputed (value : Data) (result : ToolResult) : Prop where
  found : value.field? "found" = some (.bool result.isFound)
  valid : value.field? "valid" = some (.bool result.isValid)
  version : value.field? "version" = some (textOrNull result.version?)
  message : value.field? "message" = some (.text result.message)

lemma showsComputed_toData (result : ToolResult) : ShowsComputed result.toData result := by
  cases result <;> exact ⟨rfl, rfl, rfl, rfl⟩

/-- A result is read back from its data. -/
lemma reader_toData (location : List Schema.Step) (result : ToolResult) :
    reader location result.toData = .ok result := by
  cases result with
  | notFound name => rfl
  | valid name version => rfl
  | invalid name version allowed =>
    have hallowed := Schema.texts_map
      (location ++ [.field "invalid"] ++ [.field "allowed_versions"]) allowed
    change (Schema.Checked.ok (invalid name version)).and (Schema.texts _ _) = _
    rw [hallowed]
    rfl

lemma plain_textOrNull (room : Nat) (t : Option Text) : Json.Plain room (textOrNull t) := by
  cases t with
  | none => exact .null
  | some t => exact .text t

lemma plain_toData (room : Nat) (result : ToolResult) : Json.Plain (room + 2) result.toData := by
  have hversion := plain_textOrNull (room + 1) result.version?
  cases result with
  | notFound name =>
    refine .table (by simp [coreEntries]) ?_
    simp [coreEntries, Json.Plain.text, Json.Plain.bool, hversion]
  | valid name version =>
    refine .table (by simp [coreEntries]) ?_
    simp [coreEntries, Json.Plain.text, Json.Plain.bool, hversion]
  | invalid name version allowed =>
    have hallowed : Json.Plain (room + 1) (.list (allowed.map .text)) := by
      refine .list fun item hitem => ?_
      obtain ⟨t, -, rfl⟩ := List.mem_map.mp hitem
      exact .text t
    refine .table (by simp [coreEntries]) ?_
    simp [coreEntries, Json.Plain.text, Json.Plain.bool, hversion, hallowed]

end ToolResult

/-! ### Base images -/

namespace ImageCheck

/-- A value says what is computed from the check of a base image. -/
structure ShowsComputed (value : Data) (check : ImageCheck) : Prop where
  valid : value.field? "valid" = some (.bool check.valid)
  message : value.field? "message" = some (.text check.message)

/-- The check of a base image is read back from its data. -/
lemma model_toData (location : List Schema.Step) (check : ImageCheck) :
    Schema.model "BaseImageCheck" ofEntries location check.toData = .ok check := by
  obtain ⟨status, expected, image⟩ := check
  cases status <;> cases image <;> rfl

lemma plain_toData (room : Nat) (check : ImageCheck) : Json.Plain (room + 1) check.toData := by
  refine .table (by simp) ?_
  simp [Json.Plain.text, Json.Plain.bool, ToolResult.plain_textOrNull]

end ImageCheck

/-! ### Reports -/

namespace Report

/-- A document says what is computed from a report, and from each of its parts in order. -/
structure ShowsComputed (document : Data) (report : Report) : Prop where
  passed : document.field? "passed" = some (.bool report.passed)
  baseImage : ∃ value, document.field? "base_image" = some value
    ∧ ImageCheck.ShowsComputed value report.baseImage
  tools : ∃ values, document.field? "tools" = some (.list values)
    ∧ List.Forall₂ ToolResult.ShowsComputed values report.tools

lemma showsComputed_toData (report : Report) : ShowsComputed report.toData report where
  passed := rfl
  baseImage := ⟨report.baseImage.toData, rfl, rfl, rfl⟩
  tools := by
    refine ⟨report.tools.map (·.toData), rfl, ?_⟩
    rw [List.forall₂_map_left_iff, List.forall₂_same]
    exact fun result _ => result.showsComputed_toData

/-- A report is read back from its data. -/
lemma ofData_toData (report : Report) : ofData report.toData = .ok report := by
  have himage := ImageCheck.model_toData [.field "base_image"] report.baseImage
  have htools := Schema.list_map ToolResult.reader_toData [.field "tools"] report.tools
  -- The entry for the verdict is not asked for.
  have hentries : ofEntries [] [("base_image", report.baseImage.toData),
      ("tools", .list (report.tools.map (·.toData))), ("passed", .bool report.passed)]
      = ((Schema.Checked.ok mk).and (.ok report.baseImage)).and (.ok report.tools) := by
    rw [← himage, ← htools]
    rfl
  rw [ofData, toData, Schema.model, hentries]
  rfl

lemma plain_toData (room : Nat) (report : Report) : Json.Plain (room + 4) report.toData := by
  have htools : Json.Plain (room + 3) (.list (report.tools.map (·.toData))) := by
    refine .list fun item hitem => ?_
    obtain ⟨result, -, rfl⟩ := List.mem_map.mp hitem
    exact result.plain_toData room
  refine .table (by simp) ?_
  simp [Json.Plain.bool, ImageCheck.plain_toData, htools]

/-- A report that is written for a program is read back, text and data, and what the document says
beyond the report is what the report computes. -/
theorem read_json (report : Report) :
    ∃ document, Json.read report.json = .ok document
      ∧ ofData document = .ok report
      ∧ ShowsComputed document report := by
  have hgap : Json.IsGap ['\n'] := List.forall_mem_singleton.mpr rfl
  refine ⟨report.toData, ?_, report.ofData_toData, report.showsComputed_toData⟩
  exact Json.read_write (report.plain_toData _) (some 0) hgap

end Report

end DockCheck
