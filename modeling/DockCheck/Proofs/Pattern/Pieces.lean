import DockCheck.Proofs.Pattern.Leftmost
import DockCheck.Proofs.Pattern.Matches

/-!
# Matches within a piece of a text

A spot of a text is also one of every longer text: `spot.within before after` is the same spot with
more text around it.  Most nodes look at nothing but the characters that they pass over, and at the
one before them where they ask for the edge of a word.  Such a node is local (`Node.isLocal`), and
as long as no word goes on into it from the left, it has the same matches in a piece of a text as in
the text (`Node.Matches.within` and `Node.Matches.exists_within`).
-/

namespace DockCheck.Pattern

namespace Capture

/-- The same text of a group with more text after it. -/
def within (after : Text) (capture : Capture) : Capture :=
  ⟨capture.start ++ after, capture.stop ++ after⟩

end Capture

namespace Spot

variable {before after w : Text} {spot reached : Spot} {c : Char} {rest : Text}

/-- The same spot with more text around it. -/
def within (before after : Text) (spot : Spot) : Spot where
  position := spot.position + before.length
  behind := spot.behind ++ before.reverse
  ahead := spot.ahead ++ after
  groups := spot.groups.map fun entry => (entry.1, entry.2.within after)

@[simp] lemma ahead_within (before after : Text) (spot : Spot) :
    (spot.within before after).ahead = spot.ahead ++ after := rfl

@[simp] lemma position_within (before after : Text) (spot : Spot) :
    (spot.within before after).position = spot.position + before.length := rfl

/-- A place of a piece is a place of the text. -/
lemma within_at (before after : Text) {t : Text} {n : Nat} (h : n ≤ t.length) :
    (Spot.at t n).within before after = Spot.at (before ++ t ++ after) (before.length + n) := by
  have htake : (before ++ t ++ after).take (before.length + n) = before ++ t.take n := by
    rw [List.append_assoc, List.take_length_add_append, List.take_append_of_le_length h]
  have hdrop : (before ++ t ++ after).drop (before.length + n) = t.drop n ++ after := by
    rw [List.append_assoc, List.drop_length_add_append, List.drop_append_of_le_length h]
  rw [Spot.at, Spot.at, htake, hdrop, within, List.reverse_append, Nat.add_comm]
  rfl

lemma within_after (before after : Text) (spot : Spot) (c : Char) (rest : Text) :
    (spot.after c rest).within before after
      = (spot.within before after).after c (rest ++ after) := by
  simp [within, Spot.after]
  omega

lemma within_capture (before after : Text) (start : Spot) (number : Nat) (spot : Spot) :
    (Spot.capture start number spot).within before after
      = Spot.capture (start.within before after) number (spot.within before after) := by
  simp [within, Spot.capture, Capture.within, List.filter_map, Function.comp_def]

lemma Passes.within (h : spot.Passes w reached) (before after : Text) :
    (spot.within before after).Passes w (reached.within before after) := by
  refine ⟨?_, ?_, ?_⟩
  · rw [ahead_within, ahead_within, h.ahead, List.append_assoc]
  · simp only [Spot.within, h.behind, List.append_assoc]
  · rw [position_within, position_within, h.position]
    omega

/-- A spot that is reached without leaving the piece is one of the piece. -/
lemma Passes.exists_within (h : (spot.within before after).Passes w reached)
    (hinside : after.length ≤ reached.ahead.length)
    (hgroups : reached.groups = (spot.within before after).groups) :
    ∃ inner, reached = inner.within before after ∧ spot.Passes w inner
      ∧ inner.groups = spot.groups := by
  obtain ⟨hahead, hbehind, hposition⟩ := h
  rw [ahead_within] at hahead
  have hrest : ∃ rest, spot.ahead = w ++ rest ∧ reached.ahead = rest ++ after := by
    rcases List.append_eq_append_iff.mp hahead with ⟨v, rfl, hafter⟩ | ⟨rest, hspot, hreached⟩
    · -- The text passed over would have to end behind the piece.
      have hlength : after.length = v.length + reached.ahead.length := by
        rw [hafter, List.length_append]
      have hv : v = [] := List.length_eq_zero_iff.mp (by omega)
      subst hv
      exact ⟨[], by simp, by simpa using hafter.symm⟩
    · exact ⟨rest, hspot, hreached⟩
  obtain ⟨rest, hspot, hreached⟩ := hrest
  refine ⟨⟨spot.position + w.length, w.reverse ++ spot.behind, rest, spot.groups⟩, ?_,
    ⟨hspot, rfl, rfl⟩, rfl⟩
  obtain ⟨position, behind, ahead, groups⟩ := reached
  simp only [Spot.within] at *
  subst hbehind hposition hreached hgroups
  simp
  omega

/-- Where a word that begins at the piece does not go on into the text before it, the edges of words
before a character of the piece are those of the text. -/
lemma holds_wordEdge_within (hbefore : ∀ c ∈ before.getLast?, ¬ Text.isWord c)
    (hahead : spot.ahead ≠ []) (negated : Bool) :
    (spot.within before after).holds (.wordEdge false negated)
      = spot.holds (.wordEdge false negated) := by
  obtain ⟨position, behind, ahead, groups⟩ := spot
  obtain ⟨c, rest, rfl⟩ := List.exists_cons_of_ne_nil hahead
  cases behind with
  | cons b behind => simp [holds, within]
  | nil =>
    cases hlast : before.getLast? with
    | none =>
      have hnil : before = [] := List.getLast?_eq_none_iff.mp hlast
      simp [holds, within, hnil]
    | some b =>
      have hb : CharKind.word.holds false b = false := by
        simpa [CharKind.holds] using hbefore b hlast
      simp [holds, within, List.head?_reverse, hlast, hb]

end Spot

/-! ### Repetitions within a piece -/

section Repetitions

variable {round : Spot → Spot → Prop} {before after : Text} {n : Nat} {bound last : Option Nat}
  {spot reached : Spot}

lemma Iterated.within
    (hround : ∀ s m, round s m → round (s.within before after) (m.within before after))
    (h : Iterated round n spot reached) :
    Iterated round n (spot.within before after) (reached.within before after) := by
  induction h with
  | zero spot => exact .zero _
  | succ first _ ih => exact .succ (hround _ _ first) ih

lemma Rounds.within
    (hround : ∀ s m, round s m → round (s.within before after) (m.within before after))
    (h : Rounds round bound last spot reached) :
    Rounds round bound (last.map (· + before.length)) (spot.within before after)
      (reached.within before after) := by
  induction h with
  | stop bound last spot => exact .stop _ _ _
  | again hbound hlast first _ ih =>
    refine .again hbound ?_ (hround _ _ first) ih
    rw [Spot.position_within]
    intro heq
    obtain ⟨place, hplace, hsum⟩ := Option.map_eq_some_iff.mp heq
    exact hlast (by rw [hplace]; congr 1; omega)

variable (hpasses : ∀ s m, round s m → ∃ w, s.Passes w m)
  (hround : ∀ s m, round (s.within before after) m → after.length ≤ m.ahead.length →
    ∃ inner, m = inner.within before after ∧ round s inner)

include hpasses in
/-- The text ahead does not get longer from round to round. -/
lemma length_ahead_le_of_reflTransGen (h : Relation.ReflTransGen round spot reached) :
    reached.ahead.length ≤ spot.ahead.length := by
  induction h with
  | refl => exact Nat.le_refl _
  | tail _ hlast ih =>
    obtain ⟨w, hw⟩ := hpasses _ _ hlast
    have := hw.length_ahead
    omega

include hpasses hround

lemma Iterated.exists_within (h : Iterated round n (spot.within before after) reached)
    (hinside : after.length ≤ reached.ahead.length) :
    ∃ inner, reached = inner.within before after ∧ Iterated round n spot inner := by
  induction n generalizing spot with
  | zero =>
    cases h
    exact ⟨spot, rfl, .zero _⟩
  | succ n ih =>
    cases h with
    | succ first others =>
      have hle := length_ahead_le_of_reflTransGen hpasses others.reflTransGen
      obtain ⟨middle, rfl, hmiddle⟩ := hround spot _ first (by omega)
      obtain ⟨inner, rfl, hinner⟩ := ih others
      exact ⟨inner, rfl, .succ hmiddle hinner⟩

lemma Rounds.exists_within
    (h : Rounds round bound (last.map (· + before.length)) (spot.within before after) reached)
    (hinside : after.length ≤ reached.ahead.length) :
    ∃ inner, reached = inner.within before after ∧ Rounds round bound last spot inner := by
  generalize hstart : spot.within before after = start at h
  generalize hplace : last.map (· + before.length) = place at h
  induction h generalizing spot last with
  | stop bound place start => exact ⟨spot, hstart.symm, .stop _ _ _⟩
  | again hbound hlast first others ih =>
    subst hstart hplace
    have hle := length_ahead_le_of_reflTransGen hpasses others.reflTransGen
    obtain ⟨middle, rfl, hmiddle⟩ := hround spot _ first (by omega)
    have hplace : (some spot.position).map (· + before.length)
        = some (spot.within before after).position := rfl
    obtain ⟨inner, rfl, hinner⟩ := ih hinside rfl hplace
    refine ⟨inner, rfl, .again hbound (fun heq => hlast ?_) hmiddle hinner⟩
    rw [heq]
    rfl

end Repetitions

/-! ### Local nodes -/

namespace Node

/-- Does every match of the node pass over a character? -/
def consumes : Node → Bool
  | .char _ => true
  | .seq first second => first.consumes || second.consumes
  | .alt first second => first.consumes && second.consumes
  | .group _ body => body.consumes
  | .run _ low _ _ => 0 < low
  | _ => false

/-- Does the node look at nothing but the characters that it passes over, and at the one before them
where it asks for the edge of a word? -/
def isLocal : Node → Bool
  | .empty => true
  | .char _ => true
  | .seq first second =>
    match first with
    | .anchor (.wordEdge false _) => second.isLocal && second.consumes
    | _ => first.isLocal && second.isLocal
  | .alt first second => first.isLocal && second.isLocal
  | .group _ body => body.isLocal
  | .run greed _ _ _ => greed != .possessive
  | .times greed _ _ body => greed != .possessive && body.isLocal
  | _ => false

variable {node first second body : Node} {spot reached : Spot} {before after : Text}

lemma Matches.length_ahead_le (h : node.Matches spot reached) :
    reached.ahead.length ≤ spot.ahead.length := by
  obtain ⟨w, hw⟩ := h.passes
  have := hw.length_ahead
  omega

/-- A match of such a node passes over a character. -/
lemma Matches.length_ahead_lt (hnode : node.consumes) (h : node.Matches spot reached) :
    reached.ahead.length < spot.ahead.length := by
  induction node generalizing spot reached with
  | char test =>
    obtain ⟨c, rest, hahead, -, rfl⟩ := matches_char_iff.mp h
    simp [hahead, Spot.after]
  | seq first second ihf ihs =>
    obtain ⟨middle, hfirst, hsecond⟩ := matches_seq_iff.mp h
    rw [consumes, Bool.or_eq_true] at hnode
    rcases hnode with hnode | hnode
    · have := ihf hnode hfirst
      have := hsecond.length_ahead_le
      omega
    · have := hfirst.length_ahead_le
      have := ihs hnode hsecond
      omega
  | alt first second ihf ihs =>
    rw [consumes, Bool.and_eq_true] at hnode
    rcases matches_alt_iff.mp h with h | h
    · exact ihf hnode.1 h
    · exact ihs hnode.2 h
  | group number body ih =>
    obtain ⟨middle, hbody, rfl⟩ := matches_group_iff.mp h
    have hlt := ih hnode hbody
    exact hlt
  | run greed low high test =>
    rw [consumes, decide_eq_true_eq] at hnode
    rw [Matches, ways, Ways.toList_ofList] at h
    obtain ⟨w, hlow, -, -, hpasses, -⟩ := mem_drop_run_iff.mp (Greed.mem_of_mem_order h)
    have := hpasses.length_ahead
    omega
  | _ => exact absurd hnode Bool.false_ne_true

/-- A local sequence consists of two local nodes, or asks for the edge of a word before it goes
on. -/
lemma isLocal_seq_cases (h : (Node.seq first second).isLocal) :
    (first.isLocal ∧ second.isLocal)
      ∨ ∃ negated, first = .anchor (.wordEdge false negated) ∧ second.isLocal
        ∧ second.consumes := by
  unfold isLocal at h
  split at h
  · next negated => exact Or.inr ⟨negated, rfl, Bool.and_eq_true_iff.mp h⟩
  · exact Or.inl (Bool.and_eq_true_iff.mp h)

/-- A match in a piece is one in the text. -/
theorem Matches.within (hbefore : ∀ c ∈ before.getLast?, ¬ Text.isWord c) (after : Text)
    (hnode : node.isLocal) (h : node.Matches spot reached) :
    node.Matches (spot.within before after) (reached.within before after) := by
  induction node generalizing spot reached with
  | empty =>
    obtain rfl := matches_empty_iff.mp h
    exact matches_empty_iff.mpr rfl
  | char test =>
    obtain ⟨c, rest, hahead, hc, rfl⟩ := matches_char_iff.mp h
    refine matches_char_iff.mpr
      ⟨c, rest ++ after, ?_, hc, Spot.within_after before after spot c rest⟩
    rw [Spot.ahead_within, hahead, List.cons_append]
  | seq first second ihf ihs =>
    obtain ⟨middle, hfirst, hsecond⟩ := matches_seq_iff.mp h
    rcases isLocal_seq_cases hnode with ⟨hf, hs⟩ | ⟨negated, rfl, hs, hconsumes⟩
    · exact matches_seq_iff.mpr ⟨_, ihf hf hfirst, ihs hs hsecond⟩
    · obtain ⟨hedge, rfl⟩ := matches_anchor_iff.mp hfirst
      have hlt := hsecond.length_ahead_lt hconsumes
      have hahead : middle.ahead ≠ [] := List.ne_nil_of_length_pos (by omega)
      refine matches_seq_iff.mpr ⟨_, matches_anchor_iff.mpr ⟨?_, rfl⟩, ihs hs hsecond⟩
      rwa [Spot.holds_wordEdge_within hbefore hahead]
  | alt first second ihf ihs =>
    obtain ⟨hf, hs⟩ := Bool.and_eq_true_iff.mp hnode
    rcases matches_alt_iff.mp h with h | h
    · exact matches_alt_iff.mpr (Or.inl (ihf hf h))
    · exact matches_alt_iff.mpr (Or.inr (ihs hs h))
  | group number body ih =>
    obtain ⟨middle, hbody, rfl⟩ := matches_group_iff.mp h
    exact matches_group_iff.mpr ⟨_, ih hnode hbody, Spot.within_capture _ _ _ _ _⟩
  | run greed low high test =>
    have hgreed : greed ≠ .possessive := by simpa [isLocal] using hnode
    obtain ⟨w, hlow, hw, hbound, hpasses, hgroups⟩ := (matches_run_iff hgreed).mp h
    refine (matches_run_iff hgreed).mpr ⟨w, hlow, hw, hbound, hpasses.within _ _, ?_⟩
    simp only [Spot.within, hgroups]
  | times greed low high body ih =>
    obtain ⟨hgreed, hbody⟩ := Bool.and_eq_true_iff.mp hnode
    have hgreed : greed ≠ .possessive := by simpa using hgreed
    have hround : ∀ s m, body.Matches s m →
        body.Matches (s.within before after) (m.within before after) := fun s m => ih hbody
    obtain ⟨middle, hlow, hmore⟩ := (matches_times_iff hgreed).mp h
    exact (matches_times_iff hgreed).mpr ⟨_, hlow.within hround, hmore.within hround⟩
  | _ => exact absurd hnode Bool.false_ne_true

/-- A match in the text that does not leave the piece in which it begins is one in the piece. -/
theorem Matches.exists_within (hbefore : ∀ c ∈ before.getLast?, ¬ Text.isWord c)
    (hnode : node.isLocal) (h : node.Matches (spot.within before after) reached)
    (hinside : after.length ≤ reached.ahead.length) :
    ∃ inner, reached = inner.within before after ∧ node.Matches spot inner := by
  induction node generalizing spot reached with
  | empty => exact ⟨spot, matches_empty_iff.mp h, matches_empty_iff.mpr rfl⟩
  | char test =>
    obtain ⟨c, rest, hahead, hc, rfl⟩ := matches_char_iff.mp h
    obtain ⟨inner, hinner, hpasses, hgroups⟩ :=
      (Spot.passes_after hahead).exists_within hinside rfl
    have hspot : spot.ahead = c :: inner.ahead := hpasses.ahead
    refine ⟨inner, hinner, matches_char_iff.mpr ⟨c, inner.ahead, hspot, hc, ?_⟩⟩
    obtain ⟨position, behind, ahead, groups⟩ := inner
    obtain ⟨-, hbehind, hposition⟩ := hpasses
    simp only at hbehind hposition hgroups
    subst hbehind hposition hgroups
    rfl
  | seq first second ihf ihs =>
    obtain ⟨middle, hfirst, hsecond⟩ := matches_seq_iff.mp h
    have hle := hsecond.length_ahead_le
    rcases isLocal_seq_cases hnode with ⟨hf, hs⟩ | ⟨negated, rfl, hs, hconsumes⟩
    · obtain ⟨middle, rfl, hmiddle⟩ := ihf hf hfirst (by omega)
      obtain ⟨inner, rfl, hinner⟩ := ihs hs hsecond hinside
      exact ⟨inner, rfl, matches_seq_iff.mpr ⟨middle, hmiddle, hinner⟩⟩
    · obtain ⟨hedge, rfl⟩ := matches_anchor_iff.mp hfirst
      obtain ⟨inner, rfl, hinner⟩ := ihs hs hsecond hinside
      have hlt := hinner.length_ahead_lt hconsumes
      have hahead : spot.ahead ≠ [] := List.ne_nil_of_length_pos (by omega)
      rw [Spot.holds_wordEdge_within hbefore hahead] at hedge
      exact ⟨inner, rfl, matches_seq_iff.mpr ⟨spot, matches_anchor_iff.mpr ⟨hedge, rfl⟩, hinner⟩⟩
  | alt first second ihf ihs =>
    obtain ⟨hf, hs⟩ := Bool.and_eq_true_iff.mp hnode
    rcases matches_alt_iff.mp h with h | h
    · obtain ⟨inner, rfl, hinner⟩ := ihf hf h hinside
      exact ⟨inner, rfl, matches_alt_iff.mpr (Or.inl hinner)⟩
    · obtain ⟨inner, rfl, hinner⟩ := ihs hs h hinside
      exact ⟨inner, rfl, matches_alt_iff.mpr (Or.inr hinner)⟩
  | group number body ih =>
    obtain ⟨middle, hbody, rfl⟩ := matches_group_iff.mp h
    obtain ⟨inner, rfl, hinner⟩ := ih hnode hbody hinside
    exact ⟨_, (Spot.within_capture _ _ _ _ _).symm, matches_group_iff.mpr ⟨inner, hinner, rfl⟩⟩
  | run greed low high test =>
    have hgreed : greed ≠ .possessive := by simpa [isLocal] using hnode
    obtain ⟨w, hlow, hw, hbound, hpasses, hgroups⟩ := (matches_run_iff hgreed).mp h
    obtain ⟨inner, rfl, hinner, hsame⟩ := hpasses.exists_within hinside hgroups
    exact ⟨inner, rfl, (matches_run_iff hgreed).mpr ⟨w, hlow, hw, hbound, hinner, hsame⟩⟩
  | times greed low high body ih =>
    obtain ⟨hgreed, hbody⟩ := Bool.and_eq_true_iff.mp hnode
    have hgreed : greed ≠ .possessive := by simpa using hgreed
    have hpasses : ∀ s m, body.Matches s m → ∃ w, s.Passes w m := fun s m => Matches.passes
    have hround : ∀ s m, body.Matches (s.within before after) m → after.length ≤ m.ahead.length →
        ∃ inner, m = inner.within before after ∧ body.Matches s inner := fun s m => ih hbody
    obtain ⟨middle, hlow, hmore⟩ := (matches_times_iff hgreed).mp h
    have hle := length_ahead_le_of_reflTransGen hpasses hmore.reflTransGen
    obtain ⟨start, rfl, hstart⟩ := hlow.exists_within hpasses hround (by omega)
    have hnone : (none : Option Nat).map (· + before.length) = none := rfl
    obtain ⟨inner, rfl, hinner⟩ :=
      Rounds.exists_within hpasses hround (hnone.symm ▸ hmore) hinside
    exact ⟨inner, rfl, (matches_times_iff hgreed).mpr ⟨start, hstart, hinner⟩⟩
  | _ => exact absurd hnode Bool.false_ne_true

end Node

end DockCheck.Pattern
