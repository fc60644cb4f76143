import DockCheck.Proofs.Faults
import DockCheck.Yaml

/-!
# Scalars without a value

A YAML document whose graph could be read has a value unless the graph has a fault.  Most faults
make the document malformed.  Those of a scalar do not if it stands for a truth value, a number or a
date and its content does not fit that (`ne_malformed_iff_of_scalarData_eq_error`).

The main statement, `Graph.exists_scalar_of_check_eq_error`, says that there are no other faults
that do not make the document malformed.
-/

namespace DockCheck.Yaml

/-! ### The faults of scalars -/

/-- Does the tag stand for values that are computed from their content: truth values, numbers or
dates? -/
def Tag.isComputed : Tag → Bool
  | .bool | .int | .float | .timestamp => true
  | _ => false

lemma failsWith_integer (base : Nat) (t : Text) : FailsWith (· ≠ .malformed) (integer base t) := by
  unfold integer
  cases Text.toInt base t with
  | error fault => exact .error nofun
  | ok n => exact .ok n

lemma failsWith_intOf (content : Text) : FailsWith (· ≠ .malformed) (intOf content) := by
  unfold intOf
  dsimp only
  split
  · exact .error nofun
  · exact .ok 0
  · exact (failsWith_integer 2 _).map _
  · exact (failsWith_integer 16 _).map _
  · exact .error nofun
  · exact (failsWith_integer 8 _).map _
  · split
    · exact (FailsWith.mapM (failsWith_integer 10) _).bind fun _ => .ok _
    · exact (failsWith_integer 10 _).map _

lemma failsWith_checkFloat (content : Text) : FailsWith (· ≠ .malformed) (checkFloat content) := by
  have hdecimal : ∀ t, FailsWith (· ≠ .malformed) (checkDecimal t) := by
    intro t
    unfold checkDecimal
    split
    · exact .ok ()
    · exact .error nofun
  unfold checkFloat
  dsimp only
  split
  · exact .error nofun
  · split
    · exact .ok ()
    · split
      · exact .forM hdecimal _
      · exact hdecimal _

lemma failsWith_checkTimestamp (content : Text) :
    FailsWith (· ≠ .malformed) (checkTimestamp content) := by
  unfold checkTimestamp
  split
  · exact .error nofun
  · split
    · exact .error nofun
    · exact .ok ()

/-- The fault of a scalar makes the document malformed unless its value is computed. -/
lemma ne_malformed_iff_of_scalarData_eq_error {tag : Tag} {content : Text} {fault : Fault}
    (h : scalarData tag content = .error fault) : fault ≠ .malformed ↔ tag.isComputed := by
  have hcomputed : tag.isComputed → FailsWith (· ≠ .malformed) (scalarData tag content) := by
    intro htag
    cases tag with
    | bool =>
      refine FailsWith.map ?_ _
      unfold boolOf
      dsimp only
      split
      · exact .ok _
      · exact .error nofun
    | int => exact (failsWith_intOf content).map _
    | float => exact (failsWith_checkFloat content).map _
    | timestamp => exact (failsWith_checkTimestamp content).map _
    | _ => cases htag
  have hother : ¬ tag.isComputed → FailsWith (· = .malformed) (scalarData tag content) := by
    intro htag
    cases tag with
    | bool | int | float | timestamp => exact absurd rfl htag
    | null | text => exact .ok _
    | binary =>
      refine FailsWith.map ?_ _
      unfold bytesOf
      dsimp only
      split
      · exact .ok _
      · exact .error rfl
    | _ => exact .error rfl
  by_cases htag : tag.isComputed
  · exact iff_of_true (hcomputed htag fault h) htag
  · exact iff_of_false (not_not.mpr (hother htag fault h)) htag

/-! ### The faults of graphs -/

/-- A scalar of the graph has the fault. -/
def Graph.HasScalarFault (graph : Graph) (fault : Fault) : Prop :=
  ∃ n content, graph.contentOf (graph.size + 1) n = .ok content
    ∧ scalarData (graph.tagOf n) content = .error fault

/-- The fault makes the document malformed, or is one of a scalar. -/
def Graph.Explains (graph : Graph) (fault : Fault) : Prop :=
  fault = .malformed ∨ graph.HasScalarFault fault

namespace Graph

variable (graph : Graph)

lemma failsWith_malformed {α : Type} :
    FailsWith graph.Explains (.error .malformed : Except Fault α) := .error (Or.inl rfl)

lemma failsWith_mergedEntries (fuel : Nat) (busy : List Nat) (n : Nat) :
    FailsWith graph.Explains (graph.mergedEntries fuel busy n) := by
  induction fuel generalizing busy n with
  | zero => exact .ok _
  | succ fuel ih =>
    unfold mergedEntries
    split
    · dsimp only
      split
      · exact .ok _
      · refine .bind (.mapM (fun entry => ?_) _) fun _ => .ok _
        split
        · exact ih _ _
        · split
          · exact (FailsWith.mapM (fun m => ih _ m) _).map _
          · exact graph.failsWith_malformed
        · exact graph.failsWith_malformed
    · exact graph.failsWith_malformed

lemma failsWith_contentOf (fuel n : Nat) :
    FailsWith graph.Explains (graph.contentOf fuel n) := by
  induction fuel generalizing n with
  | zero => exact graph.failsWith_malformed
  | succ fuel ih =>
    unfold contentOf
    split
    · exact .ok _
    · split
      · exact ih _
      · exact graph.failsWith_malformed
    · exact graph.failsWith_malformed

lemma failsWith_scalarOf (n : Nat) : FailsWith graph.Explains (graph.scalarOf n) := by
  unfold scalarOf
  cases hcontent : graph.contentOf (graph.size + 1) n with
  | error fault => exact .error (graph.failsWith_contentOf _ n fault hcontent)
  | ok content => exact fun fault h => Or.inr ⟨n, content, hcontent, h⟩

variable (search : Search)

lemma failsWith_make (n : Nat) : FailsWith graph.Explains (graph.make search n) := by
  unfold make
  split
  · exact .ok _
  · split
    · exact .ok _
    · exact (graph.failsWith_scalarOf n).map _

lemma failsWith_makeEntry (entry : Nat × Nat) :
    FailsWith graph.Explains (graph.makeEntry search entry) := by
  have hkey : FailsWith graph.Explains (graph.makeKey search entry.1) := by
    unfold makeKey
    dsimp only
    split
    · exact .ok _
    · split
      · exact graph.failsWith_malformed
      · exact graph.failsWith_make search _
  exact hkey.bind fun made => graph.failsWith_make made _

lemma failsWith_makeSingle (n : Nat) : FailsWith graph.Explains (graph.makeSingle search n) := by
  unfold makeSingle
  split
  · exact (graph.failsWith_make search _).bind fun made => graph.failsWith_make made _
  · exact graph.failsWith_malformed

lemma failsWith_fill (n : Nat) : FailsWith graph.Explains (graph.fill search n) := by
  have hentries : FailsWith graph.Explains (graph.entriesOf n) :=
    graph.failsWith_mergedEntries _ _ n
  unfold fill
  split
  · exact .foldlM graph.failsWith_make _ _
  · exact .foldlM graph.failsWith_makeSingle _ _
  · exact .foldlM graph.failsWith_makeSingle _ _
  · exact hentries.bind fun _ => .foldlM graph.failsWith_makeEntry _ _
  · exact hentries.bind fun _ => .foldlM graph.failsWith_makeEntry _ _
  · exact graph.failsWith_malformed

lemma failsWith_fillAll (fuel : Nat) : FailsWith graph.Explains (graph.fillAll fuel search) := by
  induction fuel generalizing search with
  | zero => exact .ok _
  | succ fuel ih =>
    unfold fillAll
    split
    · exact .ok _
    · exact (graph.failsWith_fill _ _).bind fun filled => ih filled

/-- A fault of a graph that does not make the document malformed is one of a scalar whose value is
computed from its content. -/
theorem exists_scalar_of_check_eq_error {graph : Graph} {fault : Fault}
    (h : graph.check = .error fault) (hfault : fault ≠ .malformed) :
    ∃ n content, (graph.tagOf n).isComputed
      ∧ graph.contentOf (graph.size + 1) n = .ok content
      ∧ scalarData (graph.tagOf n) content = .error fault := by
  have hcheck : FailsWith graph.Explains graph.check := by
    unfold check
    split
    · exact .ok _
    · exact (graph.failsWith_make _ _).bind fun made => graph.failsWith_fillAll made _
  obtain ⟨n, content, hcontent, hscalar⟩ := (hcheck fault h).resolve_left hfault
  have htag := (ne_malformed_iff_of_scalarData_eq_error hscalar).mp hfault
  exact ⟨n, content, htag, hcontent, hscalar⟩

end Graph

/-- A document without a value has no graph, or a graph with a fault. -/
lemma read_eq_error_iff {document : Text} {fault : Fault} :
    read document = .error fault
      ↔ graphOf (.ofStream (.ofText document)) = .error fault
        ∨ ∃ graph, graphOf (.ofStream (.ofText document)) = .ok graph
          ∧ graph.check = .error fault := by
  unfold read readStream
  cases graphOf (.ofStream (.ofText document)) with
  | error other => simp [Bind.bind, Except.bind]
  | ok graph =>
    cases hcheck : graph.check <;> simp [Bind.bind, Except.bind, Pure.pure, Except.pure, hcheck]

end DockCheck.Yaml
