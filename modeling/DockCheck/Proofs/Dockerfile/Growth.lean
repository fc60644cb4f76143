import DockCheck.Proofs.Dockerfile.Layout

/-!
# Lines that come behind a file

Lines that are put behind a file can add instructions to it.  They can also go on with its last
instruction, but only if that one is still open at the end of the file.

The main statement, `runInstructions_append`, says that no other instruction changes
(`IsContinued`).  If none is open, the added lines are read as a file of their own, and if one is,
those are that are left when it ends.
-/

namespace DockCheck.Dockerfile

variable {escape : Text} {before : List Text}

/-! ### Lists that go on -/

/-- The texts of a list stand in another one in their places, but for the last of them, which may go
on there. -/
structure IsContinued (old new : List Text) : Prop where
  length_le : old.length ≤ new.length
  getElem?_eq : ∀ i, i + 1 < old.length → new[i]? = old[i]?
  last : ∀ t, old.getLast? = some t → ∃ longer, new[old.length - 1]? = some longer ∧ t <+: longer

/-- The last text may go on, and others may come behind it. -/
lemma isContinued_concat {last longer : Text} (h : last <+: longer) (earlier more : List Text) :
    IsContinued (earlier ++ [last]) (earlier ++ longer :: more) where
  length_le := by
    rw [List.length_append, List.length_append, List.length_singleton, List.length_cons]
    omega
  getElem?_eq i hi := by
    have hlt : i < earlier.length := by simpa using hi
    rw [List.getElem?_append_left hlt, List.getElem?_append_left hlt]
  last t ht := by
    rw [List.getLast?_concat, Option.some.injEq] at ht
    refine ⟨longer, ?_, ht ▸ h⟩
    rw [List.length_append, List.length_singleton, Nat.add_sub_cancel,
      List.getElem?_append_right (Nat.le_refl _), Nat.sub_self, List.getElem?_cons_zero]

lemma isContinued_append (old more : List Text) : IsContinued old (old ++ more) := by
  rcases List.eq_nil_or_concat' old with rfl | ⟨earlier, last, rfl⟩
  · exact ⟨Nat.zero_le _, fun i hi => absurd hi (Nat.not_lt_zero _), nofun⟩
  · rw [List.append_assoc, List.singleton_append]
    exact isContinued_concat List.prefix_rfl earlier more

/-! ### Instructions that go on -/

/-- An instruction goes on if parts are added to it. -/
lemma joinParts_prefix_append (parts others : List Text) :
    joinParts parts <+: joinParts (parts ++ others) := by
  unfold joinParts
  rw [List.filter_append]
  exact Text.join_prefix_join_append _ _ _

/-- Behind a file that ends outside of every instruction, lines are read as a file of their own. -/
lemma runInstructions_append_of_isClosed (he : escape ≠ []) (h : IsClosed escape before)
    (after : List Text) :
    runInstructions escape (before ++ after)
      = runInstructions escape before ++ runInstructions escape after := by
  unfold IsClosed at h
  rw [runInstructions, runInstructions, run_append]
  generalize Assembly.run escape before = state at h ⊢
  obtain ⟨complete, pending⟩ := state
  dsimp only at h
  subst h
  exact Assembly.reverse_complete_close_foldl_step he complete after

/-- Behind a file that ends within its last instruction, lines first go on with that one, and those
that remain are read as a file of their own. -/
lemma exists_runInstructions_append_of_not_isClosed (he : escape ≠ [])
    (h : ¬ IsClosed escape before) (after : List Text) :
    ∃ earlier last longer, runInstructions escape before = earlier ++ [last] ∧ last <+: longer
      ∧ runInstructions escape (before ++ after)
        = earlier ++ longer :: runInstructions escape (remaining escape after) := by
  unfold IsClosed at h
  rw [runInstructions, runInstructions, run_append]
  generalize Assembly.run escape before = state at h ⊢
  obtain ⟨complete, pending⟩ := state
  obtain ⟨parts, rfl⟩ := Option.ne_none_iff_exists'.mp h
  refine ⟨complete.reverse, joinParts parts.reverse,
    joinParts (parts.reverse ++ contributions escape (following escape after)),
    List.reverse_cons, joinParts_prefix_append _ _, ?_⟩
  rw [close_foldl_step_open he, Assembly.reverse_complete_close_foldl_step he, List.reverse_cons,
    List.append_assoc, List.singleton_append]

/-- Lines that are put behind a file take no instruction away.  Each instruction of the file stays
in its place and as it is, but for the last one, which may go on.  If the file ends outside of every
instruction, those of the added lines come behind its own.  If it ends within one, that one takes
lines in until one of them ends it, and the instructions of the remaining lines come behind it. -/
theorem runInstructions_append (he : escape ≠ []) (before after : List Text) :
    let old := runInstructions escape before
    let new := runInstructions escape (before ++ after)
    IsContinued old new
      ∧ (IsClosed escape before → new = old ++ runInstructions escape after)
      ∧ (¬ IsClosed escape before → ∃ longer,
        new = old.dropLast ++ longer :: runInstructions escape (remaining escape after)) := by
  intro old new
  by_cases h : IsClosed escape before
  · have hnew : new = old ++ runInstructions escape after :=
      runInstructions_append_of_isClosed he h after
    refine ⟨?_, fun _ => hnew, fun hnot => absurd h hnot⟩
    rw [hnew]
    exact isContinued_append old _
  · obtain ⟨earlier, last, longer, hold, hlonger, hnew⟩ :=
      exists_runInstructions_append_of_not_isClosed he h after
    change old = _ at hold
    change new = _ at hnew
    rw [hold, hnew]
    refine ⟨isContinued_concat hlonger earlier _, fun hclosed => absurd hclosed h, fun _ => ?_⟩
    exact ⟨longer, by rw [List.dropLast_concat]⟩

/-- Behind a file that ends within its second instruction, a comment and a line go on with that one
and a third instruction comes behind.  Behind a file that ends with its first one, the same lines
hold one instruction. -/
theorem runInstructions_append_within_instruction :
    let whole : List Text := ["RUN a \\", "b"]
    let unfinished : List Text := ["RUN a \\", "b", "RUN c \\"]
    let after : List Text := ["# note", "d", "RUN e"]
    runInstructions "\\" unfinished = ["a b", "c"]
      ∧ runInstructions "\\" (unfinished ++ after) = ["a b", "c d", "e"]
      ∧ IsContinued (runInstructions "\\" unfinished) (runInstructions "\\" (unfinished ++ after))
      ∧ IsClosed "\\" whole
      ∧ runInstructions "\\" (whole ++ after)
        = runInstructions "\\" whole ++ runInstructions "\\" after := by
  intro whole unfinished after
  have he : ("\\" : Text) ≠ [] := by decide
  have hclosed : IsClosed "\\" whole := by
    unfold IsClosed
    decide +kernel
  obtain ⟨hcontinued, -, -⟩ := runInstructions_append he unfinished after
  obtain ⟨-, happend, -⟩ := runInstructions_append he whole after
  exact ⟨by decide +kernel, by decide +kernel, hcontinued, hclosed, happend hclosed⟩

end DockCheck.Dockerfile
