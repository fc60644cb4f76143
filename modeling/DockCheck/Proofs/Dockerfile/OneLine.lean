import DockCheck.Proofs.Dockerfile.Segments
import DockCheck.Proofs.Text.Trim

/-!
# Instructions on one line each

An instruction that goes on over several lines becomes one text, and that can stand on a line of its
own (`onOneLine`).  The collection keeps two things in order (`Assembly.IsTidy`): no part has white
space at its ends, and no instruction that is complete ends in the escape text.

The main statement, `runInstructions_map_onOneLine_iff`, says that a file with one line for each
instruction has the same instructions again, unless the last one ends in the escape text.  That
happens only where the file ends within it.
-/

namespace DockCheck

namespace Text

variable {p : Char → Bool} {separator ending part : Text} {parts : List Text}

/-- Parts of which none can be trimmed give a text that cannot. -/
lemma trim_join (hne : ∀ part ∈ parts, part ≠ []) (h : ∀ part ∈ parts, trim p part = part) :
    trim p (join separator parts) = join separator parts := by
  by_cases hnil : parts = []
  · subst hnil
    rfl
  refine trim_eq_self (fun c hc => ?_) fun c hc => ?_
  · obtain ⟨first, others, rfl⟩ := List.exists_cons_of_ne_nil hnil
    obtain ⟨rest, hrest⟩ := exists_join_cons separator first others
    rw [hrest, List.head?_append_of_ne_nil first (hne first List.mem_cons_self)] at hc
    exact (trim_eq_iff.mp (h first List.mem_cons_self)).starts c hc
  · obtain ⟨others, last, rfl⟩ := (List.eq_nil_or_concat' parts).resolve_left hnil
    obtain ⟨before, hbefore⟩ := exists_join_concat separator others last
    have hlast : last ∈ others ++ [last] := List.mem_append_right others List.mem_cons_self
    rw [hbefore, List.getLast?_append_of_ne_nil before (hne last hlast)] at hc
    exact (trim_eq_iff.mp (h last hlast)).ends c hc

/-- A text that ends a joined one and has not the separator in it ends the last part. -/
lemma suffix_of_suffix_join {separator : Char} (hseparator : separator ∉ ending)
    (h : ending <:+ join [separator] (parts ++ [part])) : ending <:+ part := by
  by_cases hnil : parts = []
  · subst hnil
    exact h
  have hjoin : join [separator] (parts ++ [part])
      = join [separator] parts ++ separator :: part := by
    rw [join_append [separator] hnil (List.cons_ne_nil part []), List.append_assoc]
    rfl
  rw [hjoin] at h
  rcases List.suffix_or_suffix_of_suffix h (List.suffix_append _ (separator :: part)) with h | h
  · rcases List.suffix_cons_iff.mp h with rfl | h
    · exact absurd List.mem_cons_self hseparator
    · exact h
  · exact absurd (h.subset List.mem_cons_self) hseparator

end Text

namespace Dockerfile

variable {escape line t body : Text} {texts parts : List Text}

/-- The line that holds nothing but the given instruction. -/
def onOneLine (t : Text) : Text := ("RUN " : Text) ++ t

/-- The text is an instruction if it stands on a line of its own: it has no white space at its ends
and does not end in the escape text. -/
def StandsAlone (escape t : Text) : Prop := Text.strip t = t ∧ ¬ escape <:+ t

/-! ### Parts and instructions -/

lemma strip_of_opened? (h : opened? escape line = some body) : Text.strip body = body := by
  unfold opened? at h
  split at h
  · split at h
    · cases h
      exact Text.strip_strip _
    · cases h
  · cases h

lemma strip_contribution (h : Text.strip t = t) :
    Text.strip (contribution escape t) = contribution escape t := by
  unfold contribution
  split
  · exact Text.strip_strip _
  · exact h

/-- A line that ends in the escape text contributes less than it says. -/
lemma length_contribution_lt (he : escape ≠ []) (h : escape <:+ t) :
    (contribution escape t).length < t.length := by
  have hpos : 0 < escape.length := List.length_pos_of_ne_nil he
  have hle : escape.length ≤ t.length := h.length_le
  have htrim : (Text.strip (t.rdrop escape.length)).length ≤ (t.rdrop escape.length).length :=
    Text.length_trim_le Text.isBlank _
  rw [contribution, if_pos h]
  rw [List.rdrop, List.length_take] at htrim
  rw [List.rdrop]
  omega

lemma strip_joinParts (h : ∀ part ∈ parts, Text.strip part = part) :
    Text.strip (joinParts parts) = joinParts parts := by
  unfold joinParts
  refine Text.trim_join (fun part hpart => ?_) fun part hpart => ?_
  · simpa using List.of_mem_filter hpart
  · exact h part (List.mem_of_mem_filter hpart)

/-- An instruction ends as the last of its parts does. -/
lemma suffix_of_suffix_joinParts {part : Text} (hspace : ' ' ∉ escape) (hne : part ≠ [])
    (h : escape <:+ joinParts (parts ++ [part])) : escape <:+ part := by
  have hfilter : [part].filter (fun part => !part.isEmpty) = [part] := by
    simpa using hne
  rw [joinParts, List.filter_append, hfilter] at h
  exact Text.suffix_of_suffix_join hspace h

/-- An instruction can stand alone if the last of its parts says something and can. -/
lemma standsAlone_joinParts {part : Text} (hspace : ' ' ∉ escape)
    (hparts : ∀ part ∈ parts, Text.strip part = part) (hne : part ≠ [])
    (hpart : StandsAlone escape part) : StandsAlone escape (joinParts (parts ++ [part])) := by
  have hall : ∀ other ∈ parts ++ [part], Text.strip other = other :=
    List.forall_mem_append.mpr ⟨hparts, List.forall_mem_singleton.mpr hpart.1⟩
  exact ⟨strip_joinParts hall,
    fun hsuffix => hpart.2 (suffix_of_suffix_joinParts hspace hne hsuffix)⟩

/-! ### The state between two lines -/

namespace Assembly

variable {state : Assembly}

/-- The complete instructions can stand alone, and the parts of the open one have no white space at
their ends. -/
structure IsTidy (escape : Text) (state : Assembly) : Prop where
  complete : ∀ t ∈ state.complete, StandsAlone escape t
  pending : ∀ parts, state.pending = some parts → ∀ part ∈ parts, Text.strip part = part

lemma isTidy_empty (escape : Text) : IsTidy escape empty := ⟨nofun, nofun⟩

/-- A line leaves a tidy state behind. -/
lemma IsTidy.step (he : escape ≠ []) (hspace : ' ' ∉ escape) (h : state.IsTidy escape)
    (line : Text) : (step escape state line).IsTidy escape := by
  obtain ⟨complete, pending⟩ := state
  cases pending with
  | none =>
    cases hopened : opened? escape line with
    | none =>
      rw [step_other hopened]
      exact h
    | some body =>
      have hbody : Text.strip body = body := strip_of_opened? hopened
      by_cases hescape : escape <:+ body
      · rw [step_block he hopened hescape]
        refine ⟨h.complete, ?_⟩
        rintro parts ⟨⟩ part hpart
        rw [List.mem_singleton.mp hpart]
        exact strip_contribution hbody
      · rw [step_single hopened hescape]
        exact ⟨List.forall_mem_cons.mpr ⟨⟨hbody, hescape⟩, h.complete⟩, nofun⟩
  | some parts =>
    have hparts : ∀ part ∈ parts, Text.strip part = part := h.pending parts rfl
    by_cases hkeep : KeepsOpen escape line
    · by_cases hidle : IsIdle line
      · rw [step_idle hidle]
        exact h
      · rw [step_continued he hidle (hkeep.resolve_left hidle)]
        refine ⟨h.complete, ?_⟩
        rintro parts ⟨⟩
        exact List.forall_mem_cons.mpr ⟨strip_contribution (Text.strip_strip line), hparts⟩
    · -- The last line of an instruction says something and does not end in the escape text.
      obtain ⟨hidle, hescape⟩ := not_or.mp hkeep
      have hne : Text.strip line ≠ [] := fun hblank => hidle (Or.inl hblank)
      have hline : contribution escape (Text.strip line) = Text.strip line := if_neg hescape
      have hearlier : ∀ part ∈ parts.reverse, Text.strip part = part :=
        fun part hpart => hparts part (List.mem_reverse.mp hpart)
      have halone : StandsAlone escape (joinParts (parts.reverse ++ [Text.strip line])) :=
        standsAlone_joinParts hspace hearlier hne ⟨Text.strip_strip line, hescape⟩
      rw [step_last hkeep, hline]
      exact ⟨List.forall_mem_cons.mpr ⟨halone, h.complete⟩, nofun⟩

/-- So do any number of lines. -/
lemma IsTidy.foldl_step (he : escape ≠ []) (hspace : ' ' ∉ escape) (h : state.IsTidy escape)
    (lines : List Text) : (lines.foldl (Assembly.step escape) state).IsTidy escape := by
  induction lines generalizing state with
  | nil => exact h
  | cons line lines ih => exact ih (h.step he hspace line)

end Assembly

/-- All instructions but the last can stand alone, and that one has no white space at its ends. -/
lemma standsAlone_of_mem_dropLast (he : escape ≠ []) (hspace : ' ' ∉ escape) (lines : List Text) :
    (∀ t ∈ (runInstructions escape lines).dropLast, StandsAlone escape t)
      ∧ ∀ t ∈ runInstructions escape lines, Text.strip t = t := by
  have htidy : (Assembly.run escape lines).IsTidy escape :=
    (Assembly.isTidy_empty escape).foldl_step he hspace lines
  rw [runInstructions]
  generalize Assembly.run escape lines = state at htidy
  obtain ⟨complete, pending⟩ := state
  have hcomplete : ∀ t ∈ complete.reverse, StandsAlone escape t :=
    fun t ht => htidy.complete t (List.mem_reverse.mp ht)
  cases pending with
  | none =>
    exact ⟨fun t ht => hcomplete t (List.dropLast_subset _ ht), fun t ht => (hcomplete t ht).1⟩
  | some parts =>
    have hparts : ∀ part ∈ parts.reverse, Text.strip part = part :=
      fun part hpart => htidy.pending parts rfl part (List.mem_reverse.mp hpart)
    simp only [Assembly.close, List.reverse_cons, List.dropLast_concat, List.mem_append,
      List.mem_singleton]
    refine ⟨hcomplete, ?_⟩
    rintro t (ht | rfl)
    · exact (hcomplete t ht).1
    · exact strip_joinParts hparts

/-! ### One line for each instruction -/

/-- Nothing is trimmed from the line of an instruction, unless that is empty. -/
lemma strip_onOneLine (h : Text.strip t = t) (hne : t ≠ []) :
    Text.strip (onOneLine t) = onOneLine t := by
  refine Text.trim_eq_self (fun c hc => ?_) fun c hc => ?_
  · cases hc
    decide
  · rw [onOneLine, List.getLast?_append_of_ne_nil _ hne] at hc
    exact (Text.trim_eq_iff.mp h).ends c hc

/-- The line of an instruction opens it with all that it says. -/
lemma opened?_onOneLine (h : Text.strip t = t) : opened? escape (onOneLine t) = some t := by
  by_cases hne : t = []
  · subst hne
    rfl
  have hrest : Text.strip (' ' :: t) = t := by
    have hspace : Text.isBlank ' ' := by decide
    rw [← h, Text.strip, Text.trimLeft, List.dropWhile_cons_of_pos hspace]
    exact Text.strip_strip t
  have hline : onOneLine t = 'R' :: 'U' :: 'N' :: ' ' :: t := rfl
  have hspace : (' ' :: t).head?.any Text.isBlank := by
    rw [List.head?_cons, Option.any_some]
    decide
  unfold opened?
  rw [strip_onOneLine h hne, hline]
  dsimp only
  rw [if_pos ⟨by decide, Or.inr (Or.inl hspace)⟩, hrest]

/-- Lines of instructions that can stand alone complete them one after the other. -/
lemma foldl_step_map_onOneLine (h : ∀ t ∈ texts, StandsAlone escape t) (complete : List Text) :
    (texts.map onOneLine).foldl (Assembly.step escape) ⟨complete, none⟩
      = ⟨texts.reverse ++ complete, none⟩ := by
  induction texts generalizing complete with
  | nil => rfl
  | cons t texts ih =>
    obtain ⟨⟨hstrip, hescape⟩, htexts⟩ := List.forall_mem_cons.mp h
    rw [List.map_cons, List.foldl_cons, Assembly.step_single (opened?_onOneLine hstrip) hescape,
      ih htexts, List.reverse_cons, List.append_assoc, List.singleton_append]

/-- Instructions that can stand alone are those of a file with one line for each. -/
lemma runInstructions_map_onOneLine (h : ∀ t ∈ texts, StandsAlone escape t) :
    runInstructions escape (texts.map onOneLine) = texts := by
  have hrun : Assembly.run escape (texts.map onOneLine) = ⟨texts.reverse ++ [], none⟩ :=
    foldl_step_map_onOneLine h []
  rw [runInstructions, hrun, List.append_nil]
  exact List.reverse_reverse texts

/-- If the last text ends in the escape text, its line loses that. -/
lemma runInstructions_map_onOneLine_concat (he : escape ≠ [])
    (h : ∀ t ∈ texts, StandsAlone escape t) (hstrip : Text.strip t = t) (hescape : escape <:+ t) :
    runInstructions escape ((texts ++ [t]).map onOneLine)
      = texts ++ [contribution escape t] := by
  have hrun : Assembly.run escape ((texts ++ [t]).map onOneLine)
      = ⟨texts.reverse ++ [], some [contribution escape t]⟩ := by
    rw [Assembly.run, List.map_append, List.foldl_append, Assembly.empty,
      foldl_step_map_onOneLine h]
    exact Assembly.step_block he (opened?_onOneLine hstrip) hescape
  rw [runInstructions, hrun, List.append_nil]
  simp [Assembly.close, joinParts_singleton]

/-- The instructions of a file have no white space at their ends, and of all of them only the last
one can end in the escape text.  If it does not, a file with one line for each instruction has the
same instructions again; and if it does, that file has not. -/
theorem runInstructions_map_onOneLine_iff (he : escape ≠ []) (hspace : ' ' ∉ escape)
    (lines : List Text) :
    let instructions := runInstructions escape lines
    (∀ t ∈ instructions, Text.strip t = t)
      ∧ (∀ t ∈ instructions.dropLast, ¬ escape <:+ t)
      ∧ (runInstructions escape (instructions.map onOneLine) = instructions
        ↔ ∀ t, instructions.getLast? = some t → ¬ escape <:+ t) := by
  intro instructions
  obtain ⟨halone, hstrip⟩ := standsAlone_of_mem_dropLast he hspace lines
  change ∀ t ∈ instructions.dropLast, StandsAlone escape t at halone
  change ∀ t ∈ instructions, Text.strip t = t at hstrip
  refine ⟨hstrip, fun t ht => (halone t ht).2, ?_⟩
  rcases List.eq_nil_or_concat' instructions with hnil | ⟨earlier, last, hlast⟩
  · rw [hnil]
    exact iff_of_true rfl nofun
  · rw [hlast] at halone hstrip ⊢
    rw [List.dropLast_concat] at halone
    have hlastStrip : Text.strip last = last :=
      hstrip last (List.mem_append_right earlier List.mem_cons_self)
    rw [List.getLast?_concat]
    by_cases hescape : escape <:+ last
    · refine iff_of_false (fun heq => ?_) fun hnot => hnot last rfl hescape
      rw [runInstructions_map_onOneLine_concat he halone hlastStrip hescape] at heq
      have hsame : contribution escape last = last := by simpa using heq
      have hlength := length_contribution_lt he hescape
      rw [hsame] at hlength
      exact Nat.lt_irrefl _ hlength
    · refine iff_of_true (runInstructions_map_onOneLine fun t ht => ?_) ?_
      · rcases List.mem_append.mp ht with ht | ht
        · exact halone t ht
        · rw [List.mem_singleton.mp ht]
          exact ⟨hlastStrip, hescape⟩
      · rintro t ⟨⟩
        exact hescape

/-- Of a doubled escape character one stays in the instruction, and an instruction may say nothing.
Both are read again from lines of their own. -/
theorem runInstructions_map_onOneLine_iff_doubled :
    let lines : List Text := ["RUN a \\\\", "# note", "b", "run", "RUN c"]
    let instructions := runInstructions "\\" lines
    ("\\" : Text) ≠ [] ∧ ' ' ∉ ("\\" : Text)
      ∧ instructions.map onOneLine = ["RUN a \\ b", "RUN ", "RUN c"]
      ∧ (∀ t ∈ instructions, Text.strip t = t)
      ∧ (∀ t ∈ instructions.dropLast, ¬ ("\\" : Text) <:+ t)
      ∧ runInstructions "\\" (instructions.map onOneLine) = instructions := by
  intro lines instructions
  have he : ("\\" : Text) ≠ [] := by decide
  have hspace : ' ' ∉ ("\\" : Text) := by decide
  have hlines : instructions = ["a \\ b", "", "c"] := by decide +kernel
  obtain ⟨hstrip, hescape, hagain⟩ := runInstructions_map_onOneLine_iff he hspace lines
  refine ⟨he, hspace, by decide +kernel, hstrip, hescape, hagain.mpr fun t ht => ?_⟩
  change instructions.getLast? = some t at ht
  rw [hlines] at ht
  cases ht
  decide

end Dockerfile

end DockCheck
