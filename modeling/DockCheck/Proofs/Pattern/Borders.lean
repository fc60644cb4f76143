import DockCheck.Proofs.Pattern.Pieces
import DockCheck.Proofs.Pattern.Preferred

/-!
# The borders of matches

Which character can stand before the end of a match, and which one at its start, is known from the
tests in the node alone.  `Node.endsIn` and `Node.begins` read it off the tree, and each of them is
sound (`Node.Matches.follows` and `Node.Matches.exists_head`).

`Node.cut` divides a sequence before its first group, so that the start of the group is a border
between two matches.
-/

namespace DockCheck.Pattern

/-- The character before the spot has a property. -/
def Spot.Follows (P : Char → Prop) (spot : Spot) : Prop :=
  ∃ c, spot.behind.head? = some c ∧ P c

lemma Spot.Passes.follows {P : Char → Prop} {spot reached : Spot} {w : Text}
    (h : spot.Passes w reached) (hne : w ≠ []) (hw : ∀ c ∈ w, P c) : reached.Follows P := by
  have hhead : reached.behind.head? = some (w.getLast hne) := by
    rw [h.behind, List.head?_append, List.head?_reverse, List.getLast?_eq_some_getLast hne]
    rfl
  exact ⟨w.getLast hne, hhead, hw _ (List.getLast_mem hne)⟩

namespace Node

/-- Does every match of the node end after a character that passed a test with the property?  Of the
place where the match begins it is known that this is so if `before` holds. -/
def endsIn (p : CharTest → Bool) : Node → (before : Bool) → Bool
  | .empty, before => before
  | .char test, _ => p test
  | .anchor _, before => before
  | .seq first second, before => second.endsIn p (first.endsIn p before)
  | .alt first second, before => first.endsIn p before && second.endsIn p before
  | .group _ body, before => body.endsIn p before
  | .run _ low _ test, before => p test && (before || 0 < low)
  | .times _ _ _ body, before => before && body.endsIn p true
  | _, _ => false

/-- Does every match of the node begin with a character that passed a test with the property? -/
def begins (p : CharTest → Bool) : Node → Bool
  | .char test => p test
  | .seq first _ => first.begins p
  | .alt first second => first.begins p && second.begins p
  | .group _ body => body.begins p
  | .run _ low _ test => 0 < low && p test
  | _ => false

/-- Do all matches of the node leave the groups as they are? -/
def keepsGroups : Node → Bool
  | .empty => true
  | .char _ => true
  | .anchor _ => true
  | .seq first second => first.keepsGroups && second.keepsGroups
  | .alt first second => first.keepsGroups && second.keepsGroups
  | .run _ _ _ _ => true
  | .times _ _ _ body => body.keepsGroups
  | _ => false

variable {p : CharTest → Bool} {P : Char → Prop} {node : Node} {before : Bool}
  {spot reached : Spot}

/-- A match of such a node ends after a character with the property that the tests ask for. -/
theorem Matches.follows (hp : ∀ test c, p test → test.holds c → P c) (hnode : node.endsIn p before)
    (hbefore : before → spot.Follows P) (h : node.Matches spot reached) : reached.Follows P := by
  induction node generalizing before spot reached with
  | empty =>
    obtain rfl := matches_empty_iff.mp h
    exact hbefore hnode
  | char test =>
    obtain ⟨c, rest, -, hc, rfl⟩ := matches_char_iff.mp h
    exact ⟨c, rfl, hp test c hnode hc⟩
  | anchor place =>
    obtain ⟨-, rfl⟩ := matches_anchor_iff.mp h
    exact hbefore hnode
  | seq first second ihf ihs =>
    obtain ⟨middle, hfirst, hsecond⟩ := matches_seq_iff.mp h
    exact ihs hnode (fun hmiddle => ihf hmiddle hbefore hfirst) hsecond
  | alt first second ihf ihs =>
    obtain ⟨hf, hs⟩ := Bool.and_eq_true_iff.mp hnode
    rcases matches_alt_iff.mp h with h | h
    · exact ihf hf hbefore h
    · exact ihs hs hbefore h
  | group number body ih =>
    obtain ⟨middle, hbody, rfl⟩ := matches_group_iff.mp h
    have hmiddle : middle.Follows P := ih hnode hbefore hbody
    exact hmiddle
  | run greed low high test =>
    obtain ⟨htest, hlow⟩ := Bool.and_eq_true_iff.mp hnode
    rw [Matches, ways, Ways.toList_ofList] at h
    obtain ⟨w, hlength, hw, -, hpasses, hgroups⟩ :=
      mem_drop_run_iff.mp (Greed.mem_of_mem_order h)
    by_cases hempty : w = []
    · subst hempty
      have hlow0 : low = 0 := by simpa using hlength
      obtain rfl := Spot.eq_of_passes_nil hpasses hgroups
      exact hbefore (by simpa [hlow0] using hlow)
    · exact hpasses.follows hempty fun c hc => hp test c htest (hw c hc)
  | times greed low high body ih =>
    obtain ⟨hstart, hbody⟩ := Bool.and_eq_true_iff.mp hnode
    have hrounds := h.reflTransGen
    clear h
    induction hrounds with
    | refl => exact hbefore hstart
    | tail _ hround ihrounds => exact ih hbody (fun _ => ihrounds) hround
  | _ => exact absurd hnode Bool.false_ne_true

/-- A match of such a node begins with a character with the property that the tests ask for. -/
theorem Matches.exists_head (hp : ∀ test c, p test → test.holds c → P c) (hnode : node.begins p)
    (h : node.Matches spot reached) : ∃ c rest, spot.ahead = c :: rest ∧ P c := by
  induction node generalizing spot reached with
  | char test =>
    obtain ⟨c, rest, hahead, hc, -⟩ := matches_char_iff.mp h
    exact ⟨c, rest, hahead, hp test c hnode hc⟩
  | seq first second ihf _ =>
    obtain ⟨middle, hfirst, -⟩ := matches_seq_iff.mp h
    exact ihf hnode hfirst
  | alt first second ihf ihs =>
    obtain ⟨hf, hs⟩ := Bool.and_eq_true_iff.mp hnode
    rcases matches_alt_iff.mp h with h | h
    · exact ihf hf h
    · exact ihs hs h
  | group number body ih =>
    obtain ⟨middle, hbody, -⟩ := matches_group_iff.mp h
    exact ih hnode hbody
  | run greed low high test =>
    obtain ⟨hlow, htest⟩ := Bool.and_eq_true_iff.mp hnode
    rw [Matches, ways, Ways.toList_ofList] at h
    obtain ⟨w, hlength, hw, -, hpasses, -⟩ := mem_drop_run_iff.mp (Greed.mem_of_mem_order h)
    have hpos : 0 < w.length := lt_of_lt_of_le (by simpa using hlow) hlength
    obtain ⟨c, v, rfl⟩ := List.exists_cons_of_length_pos hpos
    exact ⟨c, v ++ reached.ahead, hpasses.ahead, hp test c htest (hw c List.mem_cons_self)⟩
  | _ => exact absurd hnode Bool.false_ne_true

/-- A match of such a node captures nothing. -/
theorem Matches.groups_eq (hnode : node.keepsGroups) (h : node.Matches spot reached) :
    reached.groups = spot.groups := by
  induction node generalizing spot reached with
  | empty => rw [matches_empty_iff.mp h]
  | char test =>
    obtain ⟨c, rest, -, -, rfl⟩ := matches_char_iff.mp h
    rfl
  | anchor place => rw [(matches_anchor_iff.mp h).2]
  | seq first second ihf ihs =>
    obtain ⟨hf, hs⟩ := Bool.and_eq_true_iff.mp hnode
    obtain ⟨middle, hfirst, hsecond⟩ := matches_seq_iff.mp h
    rw [ihs hs hsecond, ihf hf hfirst]
  | alt first second ihf ihs =>
    obtain ⟨hf, hs⟩ := Bool.and_eq_true_iff.mp hnode
    rcases matches_alt_iff.mp h with h | h
    · exact ihf hf h
    · exact ihs hs h
  | run greed low high test =>
    rw [Matches, ways, Ways.toList_ofList] at h
    obtain ⟨w, -, -, -, -, hgroups⟩ := mem_drop_run_iff.mp (Greed.mem_of_mem_order h)
    exact hgroups
  | times greed low high body ih =>
    have hrounds := h.reflTransGen
    clear h
    induction hrounds with
    | refl => rfl
    | tail _ hround ihrounds => rw [ih hnode hround, ihrounds]
  | _ => exact absurd hnode Bool.false_ne_true

/-! ### Cutting a sequence -/

/-- What a sequence matches before its first group, and what from there on. -/
def cut : Node → Node × Node
  | .seq first second =>
    match first with
    | .group _ _ => (.empty, .seq first second)
    | _ => (.seq first second.cut.1, second.cut.2)
  | node => (.empty, node)

/-- To match the two parts one after the other is to match the sequence. -/
lemma toList_ways_cut (node : Node) (spot : Spot) :
    ((Node.seq node.cut.1 node.cut.2).ways spot).toList = (node.ways spot).toList := by
  induction node generalizing spot with
  | seq first second _ ihs =>
    have hseq : ((Node.seq (.seq first second.cut.1) second.cut.2).ways spot).toList
        = ((Node.seq first second).ways spot).toList := by
      simp only [ways, Ways.toList_bind, List.flatMap_assoc]
      congr 1
      funext middle
      simpa only [ways, Ways.toList_bind] using ihs middle
    unfold cut
    split
    · simp [ways]
    · exact hseq
  | _ => simp [cut, ways]

lemma matches_cut_iff :
    node.Matches spot reached
      ↔ ∃ middle, node.cut.1.Matches spot middle ∧ node.cut.2.Matches middle reached := by
  rw [← matches_seq_iff, Matches, Matches, toList_ways_cut]

lemma Prefers.cut (h : node.Prefers spot reached) :
    ∃ middle, node.cut.1.Matches spot middle ∧ node.cut.2.Prefers middle reached := by
  rw [prefers_iff_head?, ← toList_ways_cut, ← prefers_iff_head?] at h
  exact h.seq

end Node

end DockCheck.Pattern
