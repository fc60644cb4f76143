import DockCheck.Proofs.Pattern.Leftmost
import DockCheck.Proofs.Pattern.Matches
import Mathlib.Data.Nat.Find

/-!
# Preferred matches

Of all matches of a node at a spot, the first to be tried is the one that counts: the node `Prefers`
it.  A greedy repetition prefers to go on, so that it ends only where its body does not match any
more (`Node.Prefers.greedy`).

For an orderly pattern, `firstGroup?_eq_some_iff` describes what is captured by the preferred match
at the leftmost place that has one, and `exists_firstGroup?_iff` says when there is such a place.
-/

namespace DockCheck.Pattern

namespace Node

/-- The match of the node at `spot` that is tried first ends at `reached`. -/
def Prefers (node : Node) (spot reached : Spot) : Prop := (node.ways spot).first? = some reached

variable {node first second body : Node} {spot reached : Spot} {test : CharTest} {low number : Nat}

lemma prefers_iff_head? :
    node.Prefers spot reached ↔ (node.ways spot).toList.head? = some reached := by
  rw [Prefers, Ways.first?_eq_head?]

lemma Prefers.toMatches (h : node.Prefers spot reached) : node.Matches spot reached :=
  List.mem_of_head? (prefers_iff_head?.mp h)

/-- Where a node matches, it prefers a match. -/
lemma Matches.exists_prefers (h : node.Matches spot reached) :
    ∃ preferred, node.Prefers spot preferred := by
  simp only [prefers_iff_head?]
  cases hways : (node.ways spot).toList with
  | nil =>
    rw [Matches, hways] at h
    cases h
  | cons preferred others => exact ⟨preferred, rfl⟩

/-- After some match of the first node, the second one prefers what the two prefer. -/
lemma Prefers.seq (h : (Node.seq first second).Prefers spot reached) :
    ∃ middle, first.Matches spot middle ∧ second.Prefers middle reached := by
  rw [prefers_iff_head?, ways, Ways.toList_bind, List.head?_flatMap] at h
  obtain ⟨middle, hfirst, hsecond⟩ := List.exists_of_findSome?_eq_some h
  exact ⟨middle, hfirst, prefers_iff_head?.mpr hsecond⟩

/-- If the second node always matches, both nodes prefer what the two prefer. -/
lemma Prefers.seq_of_total (htotal : ∀ middle, ∃ last, second.Matches middle last)
    (h : (Node.seq first second).Prefers spot reached) :
    ∃ middle, first.Prefers spot middle ∧ second.Prefers middle reached := by
  rw [prefers_iff_head?, ways, Ways.toList_bind, List.head?_flatMap] at h
  cases hways : (first.ways spot).toList with
  | nil => simp [hways] at h
  | cons middle others =>
    obtain ⟨last, hlast⟩ := htotal middle
    obtain ⟨preferred, hpreferred⟩ := hlast.exists_prefers
    rw [prefers_iff_head?] at hpreferred
    rw [hways, List.findSome?_cons, hpreferred] at h
    obtain rfl := Option.some.inj h
    exact ⟨middle, prefers_iff_head?.mpr (by rw [hways]; rfl), prefers_iff_head?.mpr hpreferred⟩

lemma Prefers.group (h : (Node.group number body).Prefers spot reached) :
    ∃ middle, body.Prefers spot middle ∧ reached = Spot.capture spot number middle := by
  simp only [prefers_iff_head?] at h ⊢
  rw [ways, Ways.toList_bind, List.head?_flatMap] at h
  cases hways : (body.ways spot).toList with
  | nil => simp [hways] at h
  | cons middle others =>
    refine ⟨middle, rfl, ?_⟩
    simpa [hways, eq_comm] using h

/-- A greedy run of characters ends only before a character that does not pass the test. -/
lemma Prefers.run (h : (Node.run .greedy low none test).Prefers spot reached) {c : Char}
    {rest : Text} (hahead : reached.ahead = c :: rest) : ¬ test.holds c := by
  intro hc
  rw [prefers_iff_head?, ways, Ways.toList_ofList, Greed.order, List.head?_reverse] at h
  -- The spot is the last of the run, and the one after `c` would be in the run, too.
  have hlast : (spot.run test none)[(spot.run test none).length - 1]? = some reached := by
    rw [← List.getLast?_eq_getElem?]
    rw [List.getLast?_drop] at h
    split at h
    · cases h
    · exact h
  obtain ⟨w, hlength, hw, -, hpasses, hgroups⟩ := Spot.getElem?_run_eq_some_iff.mp hlast
  have hnext : (spot.run test none)[w.length + 1]? = some (reached.after c rest) := by
    refine Spot.getElem?_run_eq_some_iff.mpr ⟨w ++ [c], by simp, ?_, by simp,
      hpasses.trans (Spot.passes_after hahead), hgroups⟩
    intro d hd
    rcases List.mem_append.mp hd with hd | hd
    · exact hw d hd
    · rwa [List.mem_singleton.mp hd]
  have hlt := (List.getElem?_eq_some_iff.mp hnext).1
  omega

/-- A greedy repetition goes on by what its body prefers, and ends only where the body does not
match any more. -/
lemma greedy_of_first?_repeatedMore
    (hbody : ∀ s m, body.Matches s m → m.ahead.length < s.ahead.length) {fuel : Nat}
    {last : Option Nat} (hfuel : spot.ahead.length < fuel) (hlast : last ≠ some spot.position)
    (h : (repeatedMore .greedy body.ways fuel none last spot).first? = some reached) :
    Relation.ReflTransGen body.Prefers spot reached ∧ ∀ next, ¬ body.Matches reached next := by
  induction fuel generalizing last spot with
  | zero => omega
  | succ fuel ih =>
    have hcond : ¬ (((none : Option Nat) == some 0) || (last == some spot.position)) = true := by
      simpa using hlast
    rw [repeatedMore, if_neg hcond, Ways.first?_eq_head?, Ways.toList_append, Ways.toList_bind]
      at h
    cases hways : (body.ways spot).toList with
    | nil =>
      simp only [hways, List.flatMap_nil, List.nil_append, Ways.toList_single, List.head?_cons,
        Option.some.injEq] at h
      subst h
      refine ⟨.refl, fun next hnext => ?_⟩
      rw [Matches, hways] at hnext
      cases hnext
    | cons middle others =>
      have hmiddle : body.Prefers spot middle := prefers_iff_head?.mpr (by rw [hways]; rfl)
      obtain ⟨w, hpasses⟩ := hmiddle.toMatches.passes
      have hshort := hbody spot middle hmiddle.toMatches
      have hlength := hpasses.length_ahead
      have hposition := hpasses.position
      have hmore : (repeatedMore .greedy body.ways fuel none (some spot.position) middle).first?
          = some reached := by
        have hself := self_mem_repeatedMore .greedy body.ways fuel none (some spot.position) middle
        rw [Ways.first?_eq_head?]
        rw [hways, List.flatMap_cons, List.append_assoc, List.head?_append] at h
        cases hhead : (repeatedMore .greedy body.ways fuel none (some spot.position)
            middle).toList with
        | nil =>
          rw [hhead] at hself
          cases hself
        | cons preferred rest => simpa [hhead] using h
      have hne : some spot.position ≠ some middle.position := by
        intro heq
        have := Option.some.inj heq
        omega
      obtain ⟨hrounds, hstuck⟩ := ih (by omega) hne hmore
      exact ⟨.head hmiddle hrounds, hstuck⟩

/-- A greedy repetition of a node that passes over characters goes on by what the node prefers, and
ends only where the node does not match any more. -/
lemma Prefers.greedy (hbody : ∀ s m, body.Matches s m → m.ahead.length < s.ahead.length)
    (h : (Node.times .greedy 0 none body).Prefers spot reached) :
    Relation.ReflTransGen body.Prefers spot reached ∧ ∀ next, ¬ body.Matches reached next := by
  have hlast : (none : Option Nat) ≠ some spot.position := nofun
  refine greedy_of_first?_repeatedMore hbody (Nat.lt_succ_self _) hlast ?_
  simpa [Prefers, ways, repeatedTimes, repeated, Ways.first?_eq_head?] using h

end Node

/-! ### Orderly patterns -/

section Orderly

variable {pattern : Pattern} {t : Text}

/-- An orderly pattern captures what its preferred match does at the leftmost place where it
matches. -/
lemma firstGroup?_eq_some_iff (horderly : pattern.body.isOrderly []) {capture : Capture} :
    pattern.firstGroup? t = .ok (some capture)
      ↔ ∃ n ≤ t.length, ∃ reached, pattern.body.Prefers (Spot.at t n) reached
        ∧ reached.group? 1 = some capture
        ∧ ∀ m < n, ∀ other, ¬ pattern.body.Matches (Spot.at t m) other := by
  have hplace : ∀ m, pattern.outcomeAt t m = none
      ↔ ∀ other, ¬ pattern.body.Matches (Spot.at t m) other := by
    intro m
    rw [outcomeAt, if_pos horderly, Option.map_eq_none_iff, Ways.first?_eq_head?,
      List.head?_eq_none_iff]
    exact List.eq_nil_iff_forall_not_mem
  rw [firstGroup?_eq_iff (by simp), HasLeftmost, placesIn, if_pos horderly]
  simp only [hplace]
  constructor
  · rintro ⟨n, hn, houtcome, hbefore⟩
    rw [outcomeAt, if_pos horderly, Option.map_eq_some_iff] at houtcome
    obtain ⟨reached, hreached, hcapture⟩ := houtcome
    exact ⟨n, Nat.le_of_lt_succ hn, reached, hreached, Except.ok.inj hcapture, hbefore⟩
  · rintro ⟨n, hn, reached, hreached, hcapture, hbefore⟩
    refine ⟨n, Nat.lt_succ_of_le hn, ?_, hbefore⟩
    rw [outcomeAt, if_pos horderly, Option.map_eq_some_iff]
    exact ⟨reached, hreached, congrArg Except.ok hcapture⟩

/-- If every match of an orderly pattern captures something, then a text has a capture exactly if
the pattern matches somewhere in it. -/
lemma exists_firstGroup?_iff (horderly : pattern.body.isOrderly [])
    (hcaptures : ∀ n reached, pattern.body.Prefers (Spot.at t n) reached →
      ∃ capture, reached.group? 1 = some capture) :
    (∃ capture, pattern.firstGroup? t = .ok (some capture))
      ↔ ∃ n ≤ t.length, ∃ reached, pattern.body.Matches (Spot.at t n) reached := by
  simp only [firstGroup?_eq_some_iff horderly]
  constructor
  · rintro ⟨capture, n, hn, reached, hreached, -⟩
    exact ⟨n, hn, reached, hreached.toMatches⟩
  · intro h
    classical
    obtain ⟨hn, other, hother⟩ := Nat.find_spec h
    obtain ⟨reached, hreached⟩ := hother.exists_prefers
    obtain ⟨capture, hcapture⟩ := hcaptures _ reached hreached
    refine ⟨capture, Nat.find h, hn, reached, hreached, hcapture, fun m hm other hother => ?_⟩
    exact Nat.find_min h hm ⟨Nat.le_trans (Nat.le_of_lt hm) hn, other, hother⟩

end Orderly

end DockCheck.Pattern
