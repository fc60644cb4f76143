import DockCheck.Proofs.Pattern.Groups

/-!
# Captures are excerpts

What a match captures is an excerpt of the text that is searched, in whatever construct the group
stands.  The main statement is `Captures.isInfix`.

It rests on an invariant for each of the two ways of matching.  Along the ways of a node every spot
is one of the text, and what it holds lies in the text (`Node.Matches.isIn`): going back for a
look-behind leads to another spot of the same text, and a look-ahead keeps its captures but not its
spot.  A trace holds places only, and it is refused if a group ends before it begins, so that the
text between its two places is an excerpt (`isIn_of_captureIn?`).
-/

namespace DockCheck.Pattern

variable {t w word : Text} {spot middle reached : Spot}

/-- The capture lies in the text: it begins somewhere in it and ends there or later. -/
structure Capture.IsIn (t : Text) (capture : Capture) : Prop where
  start : capture.start <:+ t
  stop : capture.stop <:+ capture.start

/-- The word of a capture is what lies between its start and its end. -/
lemma Capture.IsIn.word_append {capture : Capture} (h : capture.IsIn t) :
    capture.word ++ capture.stop = capture.start := by
  obtain ⟨between, hbetween⟩ := h.stop
  have hword : capture.word = between := by
    rw [word, ← hbetween, List.length_append, Nat.add_sub_cancel, List.take_left]
  rw [hword, hbetween]

/-- The word of a capture in the text is an excerpt of it. -/
lemma Capture.IsIn.word_isInfix {capture : Capture} (h : capture.IsIn t) :
    capture.word <:+: t := by
  have hstart : capture.word <+: capture.start := ⟨capture.stop, h.word_append⟩
  exact hstart.isInfix.trans h.start.isInfix

/-! ### Captures along ways -/

namespace Spot

/-- The spot is one of the text, and so is all that is captured. -/
structure IsIn (t : Text) (spot : Spot) : Prop where
  cut : spot.behind.reverse ++ spot.ahead = t
  captures : ∀ entry ∈ spot.groups, entry.2.IsIn t

/-- At the places of a text nothing is captured yet. -/
lemma isIn_at (t : Text) (n : Nat) : (Spot.at t n).IsIn t where
  cut := by simp [Spot.at]
  captures := nofun

/-- What is passed over belongs to the text. -/
lemma IsIn.passes (h : spot.IsIn t) (hpasses : spot.Passes w reached)
    (hcaptures : ∀ entry ∈ reached.groups, entry.2.IsIn t) : reached.IsIn t where
  cut := by
    have hcut := h.cut
    rw [hpasses.ahead] at hcut
    rw [hpasses.behind, List.reverse_append, List.reverse_reverse, List.append_assoc, hcut]
  captures := hcaptures

lemma IsIn.goesOn (h : spot.IsIn t) (hpasses : spot.Passes w reached)
    (hgroups : reached.groups = spot.groups) : reached.IsIn t :=
  h.passes hpasses (hgroups ▸ h.captures)

/-- Going back leads to a spot of the same text. -/
lemma IsIn.back? {start : Spot} {n : Nat} (h : spot.IsIn t) (hback : spot.back? n = some start) :
    start.IsIn t := by
  refine ⟨?_, groups_of_back? hback ▸ h.captures⟩
  have hcut := h.cut
  clear h
  induction n generalizing spot with
  | zero =>
    cases hback
    exact hcut
  | succ n ih =>
    unfold Spot.back? at hback
    split at hback
    · cases hback
    · next c rest hbehind =>
      apply ih hback
      rw [hbehind, List.reverse_cons, List.append_assoc] at hcut
      exact hcut

/-- What is captured between two spots of the text lies in it. -/
lemma IsIn.capture (h : spot.IsIn t) (hmiddle : middle.IsIn t) (hpasses : spot.Passes w middle)
    (number : Nat) : (Spot.capture spot number middle).IsIn t := by
  refine ⟨hmiddle.cut, fun entry hentry => ?_⟩
  rcases List.mem_cons.mp hentry with rfl | hentry
  · exact ⟨⟨_, h.cut⟩, ⟨w, hpasses.ahead.symm⟩⟩
  · exact hmiddle.captures entry (List.mem_of_mem_filter hentry)

end Spot

namespace Node

variable {node : Node}

/-- A match leads from spots of a text to spots of the text, and captures excerpts of it. -/
theorem Matches.isIn (h : node.Matches spot reached) (hspot : spot.IsIn t) : reached.IsIn t := by
  induction node generalizing spot reached with
  | empty =>
    obtain rfl := matches_empty_iff.mp h
    exact hspot
  | char test =>
    obtain ⟨c, rest, hahead, -, rfl⟩ := matches_char_iff.mp h
    exact hspot.goesOn (Spot.passes_after hahead) rfl
  | anchor place =>
    obtain ⟨-, rfl⟩ := matches_anchor_iff.mp h
    exact hspot
  | seq first second ihf ihs =>
    obtain ⟨middle, hfirst, hsecond⟩ := matches_seq_iff.mp h
    exact ihs hsecond (ihf hfirst hspot)
  | alt first second ihf ihs =>
    rcases matches_alt_iff.mp h with hfirst | hsecond
    · exact ihf hfirst hspot
    · exact ihs hsecond hspot
  | group number body ih =>
    obtain ⟨middle, hbody, rfl⟩ := matches_group_iff.mp h
    obtain ⟨w, hpasses⟩ := hbody.passes
    exact hspot.capture (ih hbody hspot) hpasses number
  | backref number casing =>
    obtain ⟨w, hpasses⟩ := h.passes
    have hgroups : reached.groups = spot.groups := by
      rw [Matches, ways] at h
      split at h
      · simp at h
      · dsimp only at h
        split at h
        · rw [Ways.toList_single, List.mem_singleton] at h
          exact h ▸ spot.groups_advance _
        · simp at h
    exact hspot.goesOn hpasses hgroups
  | run greed low high test =>
    rw [Matches, ways, Ways.toList_ofList] at h
    obtain ⟨w, -, -, -, hpasses, hgroups⟩ := mem_drop_run_iff.mp (Greed.mem_of_mem_order h)
    exact hspot.goesOn hpasses hgroups
  | times greed low high body ih =>
    have hrounds := h.reflTransGen
    clear h
    induction hrounds with
    | refl => exact hspot
    | tail _ hround ihrounds => exact ih hround ihrounds
  | atomic body ih =>
    rw [Matches, ways, Ways.toList_commit] at h
    exact ih (List.mem_of_mem_take h) hspot
  | look back negated body ih =>
    unfold Matches ways at h
    split at h
    · next found hfound =>
      -- The captures of the body are kept, but the match goes on from where it was.
      rw [Ways.toList_single, List.mem_singleton] at h
      subst h
      obtain ⟨start, hstart, hfirst⟩ := Option.bind_eq_some_iff.mp hfound
      have hbody : body.Matches start found := Prefers.toMatches hfirst
      exact ⟨hspot.cut, (ih hbody (hspot.back? hstart)).captures⟩
    · rw [Ways.toList_single, List.mem_singleton] at h
      exact h ▸ hspot
    · simp at h
  | cond number yes no ihy ihn =>
    rw [Matches, ways] at h
    split at h
    · exact ihy h hspot
    · exact ihn h hspot

end Node

/-! ### Captures of traces -/

/-- A group with a place to begin and one to end that is not before it captures an excerpt. -/
lemma isIn_of_captureIn? {groups : Nat} {trace : Trace} {capture : Capture} (hgroups : 1 ≤ groups)
    (h : captureIn? groups t trace = .ok (some capture)) : capture.IsIn t := by
  unfold captureIn? at h
  dsimp only at h
  split at h
  · cases h
  · next hproper =>
    obtain ⟨⟨start, stop⟩, hspan, rfl⟩ := Option.map_eq_some_iff.mp (Except.ok.inj h)
    have hle : start ≤ stop := by
      by_contra hlt
      refine hproper (List.any_eq_true.mpr ⟨0, List.mem_range.mpr hgroups, ?_⟩)
      rw [Nat.zero_add, hspan]
      simpa using hlt
    exact ⟨List.drop_suffix start t, List.drop_suffix_drop_left t hle⟩

/-! ### Captures of a pattern -/

section Patterns

variable {pattern : Pattern} {capture : Capture}

/-- What the first group captures in a match lies in the text. -/
lemma isIn_of_outcomeAt {n : Nat} (h : pattern.outcomeAt t n = some (.ok (some capture))) :
    capture.IsIn t := by
  unfold outcomeAt at h
  split at h
  · obtain ⟨spot, hfirst, hgroup⟩ := Option.map_eq_some_iff.mp h
    have hmatches : pattern.body.Matches (Spot.at t n) spot := Node.Prefers.toMatches hfirst
    obtain ⟨before, after, hgroups, -⟩ := List.lookup_eq_some_iff.mp (Except.ok.inj hgroup)
    have hentry : (1, capture) ∈ spot.groups := by simp [hgroups]
    exact (hmatches.isIn (Spot.isIn_at t n)).captures _ hentry
  · obtain ⟨trace, -, hcapture⟩ := Option.map_eq_some_iff.mp h
    exact isIn_of_captureIn? pattern.captures hcapture

/-- What a pattern captures in a text is an excerpt of the text. -/
theorem Captures.isInfix (h : pattern.Captures t word) : word <:+: t := by
  obtain ⟨-, capture, ⟨n, -, houtcome, -⟩, rfl⟩ := h
  exact (isIn_of_outcomeAt houtcome).word_isInfix

end Patterns

end DockCheck.Pattern
