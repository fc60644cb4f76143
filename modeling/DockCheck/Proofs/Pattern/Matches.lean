import DockCheck.Pattern.Node
import Mathlib.Logic.Relation
import Mathlib.Tactic.Common

/-!
# Matches

`Node.ways` enumerates the matches of a node at a spot in the order in which they are tried.  Where
the order does not count, `node.Matches spot reached` says that one of them ends at `reached`.  It
is described by one equivalence for each kind of node, in which a repetition is free of fuel: it is
a fixed number of rounds (`Iterated`) and then further `Rounds`.

The main statement, `Node.Matches.exists_passes`, says that every match passes over a text, and
which characters that text can have.
-/

namespace DockCheck.Pattern

lemma Capture.word_eq (word after : Text) : (Capture.mk (word ++ after) after).word = word := by
  simp [Capture.word]

/-! ### Passing over a text -/

/-- The spot `reached` comes after `spot` in the same text, and `w` stands between them. -/
structure Spot.Passes (spot : Spot) (w : Text) (reached : Spot) : Prop where
  ahead : spot.ahead = w ++ reached.ahead
  behind : reached.behind = w.reverse ++ spot.behind
  position : reached.position = spot.position + w.length

namespace Spot

variable {spot middle reached : Spot} {w v : Text} {c : Char} {rest : Text}

lemma Passes.refl (spot : Spot) : spot.Passes [] spot := ⟨rfl, rfl, rfl⟩

lemma Passes.trans (h : spot.Passes w middle) (h' : middle.Passes v reached) :
    spot.Passes (w ++ v) reached := by
  refine ⟨?_, ?_, ?_⟩
  · rw [h.ahead, h'.ahead, List.append_assoc]
  · rw [h'.behind, h.behind, List.reverse_append, List.append_assoc]
  · rw [h'.position, h.position, List.length_append, Nat.add_assoc]

/-- What is captured on the way does not count. -/
lemma Passes.withGroups (h : spot.Passes w reached) (groups : List (Nat × Capture)) :
    spot.Passes w { reached with groups := groups } :=
  ⟨h.ahead, h.behind, h.position⟩

lemma Passes.capture (h : spot.Passes w reached) (start : Spot) (number : Nat) :
    spot.Passes w (Spot.capture start number reached) :=
  ⟨h.ahead, h.behind, h.position⟩

lemma Passes.length_ahead (h : spot.Passes w reached) :
    spot.ahead.length = w.length + reached.ahead.length := by
  rw [h.ahead, List.length_append]

lemma passes_after (h : spot.ahead = c :: rest) : spot.Passes [c] (spot.after c rest) :=
  ⟨h, rfl, rfl⟩

/-- The spot that is reached over nothing, with nothing captured, is the same. -/
lemma eq_of_passes_nil (h : spot.Passes [] reached) (hgroups : reached.groups = spot.groups) :
    reached = spot := by
  obtain ⟨hahead, hbehind, hposition⟩ := h
  obtain ⟨position, behind, ahead, groups⟩ := reached
  obtain ⟨position', behind', ahead', groups'⟩ := spot
  simp_all

/-- A step passes over a character with the test. -/
lemma step?_eq_some_iff {test : CharTest} :
    spot.step? test = some reached
      ↔ ∃ c rest, spot.ahead = c :: rest ∧ test.holds c ∧ reached = spot.after c rest := by
  unfold step?
  cases spot.ahead with
  | nil => simp
  | cons c rest =>
    dsimp only
    constructor
    · intro h
      split at h
      · next hc => exact ⟨c, rest, rfl, hc, (Option.some.inj h).symm⟩
      · cases h
    · rintro ⟨d, others, heq, hd, rfl⟩
      cases heq
      exact if_pos hd

/-- A number of characters ahead is a spot that passes over some of them. -/
lemma exists_passes_advance (spot : Spot) (n : Nat) :
    ∃ w, spot.Passes w (spot.advance n) := by
  induction n generalizing spot with
  | zero => exact ⟨[], .refl spot⟩
  | succ n ih =>
    unfold advance
    split
    · exact ⟨[], .refl spot⟩
    · next c rest h =>
      obtain ⟨w, hw⟩ := ih (spot.after c rest)
      exact ⟨[c] ++ w, (passes_after h).trans hw⟩

/-! ### Runs of characters -/

/-- A run begins with the spot itself and goes on from the next one. -/
lemma run_eq (spot : Spot) (test : CharTest) (bound : Option Nat) :
    spot.run test bound
      = spot :: if bound = some 0 then [] else
          ((spot.step? test).map fun next => next.run test (bound.map (· - 1))).getD [] := by
  obtain ⟨position, behind, ahead, groups⟩ := spot
  simp only [run, step?, after]
  cases ahead with
  | nil => rcases bound with _ | (_ | most) <;> rfl
  | cons c rest =>
    by_cases hc : test.holds c
    · rcases bound with _ | (_ | most) <;> simp [runFrom, hc]
    · rcases bound with _ | (_ | most) <;> simp [runFrom, hc]

/-- The spots of a run, by the number of characters that are passed over. -/
lemma getElem?_run_eq_some_iff {test : CharTest} {bound : Option Nat} {n : Nat} :
    (spot.run test bound)[n]? = some reached
      ↔ ∃ w, w.length = n ∧ (∀ c ∈ w, test.holds c) ∧ (∀ most, bound = some most → n ≤ most)
        ∧ spot.Passes w reached ∧ reached.groups = spot.groups := by
  induction n generalizing spot bound with
  | zero =>
    rw [run_eq, List.getElem?_cons_zero, Option.some.injEq]
    constructor
    · rintro rfl
      exact ⟨[], rfl, by simp, by simp, .refl spot, rfl⟩
    · rintro ⟨w, hw, -, -, hpasses, hgroups⟩
      obtain rfl := List.length_eq_zero_iff.mp hw
      exact (eq_of_passes_nil hpasses hgroups).symm
  | succ n ih =>
    rw [run_eq, List.getElem?_cons_succ]
    constructor
    · intro h
      by_cases hzero : bound = some 0
      · simp [hzero] at h
      · rw [if_neg hzero] at h
        cases hstep : spot.step? test with
        | none => simp [hstep] at h
        | some next =>
          rw [hstep, Option.map_some, Option.getD_some, ih] at h
          obtain ⟨c, rest, hahead, hc, rfl⟩ := step?_eq_some_iff.mp hstep
          obtain ⟨w, rfl, hw, hbound, hpasses, hgroups⟩ := h
          refine ⟨c :: w, rfl, by simpa using ⟨hc, hw⟩, ?_, (passes_after hahead).trans hpasses,
            hgroups⟩
          rintro most rfl
          have hmost : w.length ≤ most - 1 := hbound (most - 1) rfl
          have hpos : most ≠ 0 := fun h => hzero (by rw [h])
          omega
    · rintro ⟨w, hlength, hw, hbound, hpasses, hgroups⟩
      obtain ⟨c, w, rfl⟩ := List.exists_cons_of_length_eq_add_one hlength
      have hzero : bound ≠ some 0 := fun h => absurd (hbound 0 h) (by omega)
      have hahead : spot.ahead = c :: (w ++ reached.ahead) := hpasses.ahead
      have hstep : spot.step? test = some (spot.after c (w ++ reached.ahead)) :=
        step?_eq_some_iff.mpr ⟨c, _, hahead, hw c List.mem_cons_self, rfl⟩
      rw [if_neg hzero, hstep, Option.map_some, Option.getD_some, ih]
      refine ⟨w, by simpa using hlength, fun d hd => hw d (List.mem_cons_of_mem c hd), ?_,
        ⟨rfl, ?_, ?_⟩, hgroups⟩
      · intro most hmost
        obtain ⟨more, rfl, rfl⟩ := Option.map_eq_some_iff.mp hmost
        have hmore : n + 1 ≤ more := hbound more rfl
        omega
      · rw [hpasses.behind]
        simp [after]
      · rw [hpasses.position]
        simp [after]
        omega

end Spot

/-! ### Repetitions -/

section Repetitions

/-- Exactly so many rounds, one after the other. -/
inductive Iterated (round : Spot → Spot → Prop) : Nat → Spot → Spot → Prop where
  | zero (spot : Spot) : Iterated round 0 spot spot
  | succ {n : Nat} {spot middle reached : Spot} (first : round spot middle)
    (others : Iterated round n middle reached) : Iterated round (n + 1) spot reached

/-- Any number of rounds up to a bound.  After a round that ended at `last`, where it began, there
are no more. -/
inductive Rounds (round : Spot → Spot → Prop) :
    (bound last : Option Nat) → Spot → Spot → Prop where
  | stop (bound last : Option Nat) (spot : Spot) : Rounds round bound last spot spot
  | again {bound last : Option Nat} {spot middle reached : Spot} (hbound : bound ≠ some 0)
    (hlast : last ≠ some spot.position) (first : round spot middle)
    (others : Rounds round (bound.map (· - 1)) (some spot.position) middle reached) :
    Rounds round bound last spot reached

open Relation (ReflTransGen)

variable {round round' : Spot → Spot → Prop} {n fuel : Nat} {bound last : Option Nat}
  {spot reached : Spot} {greed : Greed} {body : Spot → Ways Spot}

lemma Iterated.mono (hsub : ∀ s m, round s m → round' s m) (h : Iterated round n spot reached) :
    Iterated round' n spot reached := by
  induction h with
  | zero spot => exact .zero spot
  | succ first _ ih => exact .succ (hsub _ _ first) ih

lemma Rounds.mono (hsub : ∀ s m, round s m → round' s m)
    (h : Rounds round bound last spot reached) : Rounds round' bound last spot reached := by
  induction h with
  | stop bound last spot => exact .stop bound last spot
  | again hbound hlast first _ ih => exact .again hbound hlast (hsub _ _ first) ih

lemma Iterated.reflTransGen (h : Iterated round n spot reached) :
    ReflTransGen round spot reached := by
  induction h with
  | zero spot => exact .refl
  | succ first _ ih => exact .head first ih

lemma Rounds.reflTransGen (h : Rounds round bound last spot reached) :
    ReflTransGen round spot reached := by
  induction h with
  | stop bound last spot => exact .refl
  | again _ _ first _ ih => exact .head first ih

lemma mem_repeated_iff :
    reached ∈ (repeated body n spot).toList
      ↔ Iterated (fun s m => m ∈ (body s).toList) n spot reached := by
  induction n generalizing spot with
  | zero =>
    rw [repeated, Ways.toList_single, List.mem_singleton]
    constructor
    · rintro rfl
      exact .zero _
    · rintro ⟨⟩
      rfl
  | succ n ih =>
    simp only [repeated, Ways.toList_bind, List.mem_flatMap, ih]
    constructor
    · rintro ⟨middle, hfirst, hothers⟩
      exact .succ hfirst hothers
    · rintro (_ | ⟨hfirst, hothers⟩)
      exact ⟨_, hfirst, hothers⟩

/-- A repetition can stop at once. -/
lemma self_mem_repeatedMore (greed : Greed) (body : Spot → Ways Spot) (fuel : Nat)
    (bound last : Option Nat) (spot : Spot) :
    spot ∈ (repeatedMore greed body fuel bound last spot).toList := by
  cases fuel with
  | zero => simp [repeatedMore]
  | succ fuel =>
    rw [repeatedMore]
    split
    · simp
    · cases greed <;> simp

/-- With fuel, a repetition stops or goes on with another round. -/
lemma mem_repeatedMore_succ_iff :
    reached ∈ (repeatedMore greed body (fuel + 1) bound last spot).toList
      ↔ reached = spot ∨ (bound ≠ some 0 ∧ last ≠ some spot.position
        ∧ ∃ middle ∈ (body spot).toList,
          reached ∈ (repeatedMore greed body fuel (bound.map (· - 1)) (some spot.position)
            middle).toList) := by
  rw [repeatedMore]
  by_cases hstop : bound = some 0 ∨ last = some spot.position
  · have hcond : (bound == some 0 || last == some spot.position) = true := by simpa using hstop
    rw [if_pos hcond, Ways.toList_single, List.mem_singleton]
    refine ⟨Or.inl, ?_⟩
    rintro (h | ⟨hbound, hlast, -⟩)
    · exact h
    · exact absurd hstop (not_or.mpr ⟨hbound, hlast⟩)
  · have hcond : ¬ (bound == some 0 || last == some spot.position) = true := by simpa using hstop
    obtain ⟨hbound, hlast⟩ := not_or.mp hstop
    rw [if_neg hcond]
    cases greed <;> simp [hbound, hlast, or_comm]

/-- The ways of a repetition are what rounds lead to, if each round goes on in the text and the fuel
is more than the number of characters ahead. -/
lemma mem_repeatedMore_iff
    (hbody : ∀ s, ∀ m ∈ (body s).toList, ∃ w, s.Passes w m) (hfuel : spot.ahead.length < fuel) :
    reached ∈ (repeatedMore greed body fuel bound last spot).toList
      ↔ Rounds (fun s m => m ∈ (body s).toList) bound last spot reached := by
  induction fuel generalizing bound last spot with
  | zero => omega
  | succ fuel ih =>
    rw [mem_repeatedMore_succ_iff]
    constructor
    · rintro (rfl | ⟨hbound, hlast, middle, hfirst, hothers⟩)
      · exact .stop _ _ _
      · obtain ⟨w, hpasses⟩ := hbody spot middle hfirst
        by_cases hempty : w = []
        · -- The round has passed over nothing, so there are no more.
          subst hempty
          have hplace : middle.position = spot.position := hpasses.position
          have hstop : reached = middle := by
            cases fuel with
            | zero => simpa [repeatedMore] using hothers
            | succ fuel =>
              rw [mem_repeatedMore_succ_iff, hplace] at hothers
              simpa using hothers
          subst hstop
          exact .again hbound hlast hfirst (.stop _ _ _)
        · have hlength := hpasses.length_ahead
          have hpos : 0 < w.length := List.length_pos_iff.mpr hempty
          exact .again hbound hlast hfirst ((ih (by omega)).mp hothers)
    · rintro (_ | ⟨hbound, hlast, hfirst, hothers⟩)
      · exact Or.inl rfl
      · rename_i middle
        refine Or.inr ⟨hbound, hlast, middle, hfirst, ?_⟩
        obtain ⟨w, hpasses⟩ := hbody spot middle hfirst
        by_cases hempty : w = []
        · subst hempty
          have hplace : middle.position = spot.position := hpasses.position
          cases hothers with
          | stop => exact self_mem_repeatedMore _ _ _ _ _ _
          | again _ hlast _ _ => exact absurd (by rw [hplace]) hlast
        · have hlength := hpasses.length_ahead
          have hpos : 0 < w.length := List.length_pos_iff.mpr hempty
          exact (ih (by omega)).mpr hothers

/-- The ways of a repetition with a least number of rounds. -/
lemma mem_repeatedTimes_iff {low : Nat} {high : Option Nat}
    (hbody : ∀ s, ∀ m ∈ (body s).toList, ∃ w, s.Passes w m) :
    reached ∈ (repeatedTimes greed low high body spot).toList
      ↔ ∃ middle, Iterated (fun s m => m ∈ (body s).toList) low spot middle
        ∧ Rounds (fun s m => m ∈ (body s).toList) (high.map (· - low)) none middle reached := by
  simp only [repeatedTimes, Ways.toList_bind, List.mem_flatMap, mem_repeated_iff,
    mem_repeatedMore_iff hbody (Nat.lt_succ_self _)]

/-- Whatever the fuel, the ways of a repetition are what some number of rounds leads to. -/
lemma reflTransGen_of_mem_repeatedMore
    (h : reached ∈ (repeatedMore greed body fuel bound last spot).toList) :
    ReflTransGen (fun s m => m ∈ (body s).toList) spot reached := by
  induction fuel generalizing bound last spot with
  | zero =>
    rw [repeatedMore, Ways.toList_single, List.mem_singleton] at h
    rw [h]
  | succ fuel ih =>
    rw [mem_repeatedMore_succ_iff] at h
    rcases h with rfl | ⟨-, -, middle, hfirst, hothers⟩
    · exact .refl
    · exact .head hfirst (ih hothers)

lemma reflTransGen_of_mem_repeatedTimes {low : Nat} {high : Option Nat}
    (h : reached ∈ (repeatedTimes greed low high body spot).toList) :
    ReflTransGen (fun s m => m ∈ (body s).toList) spot reached := by
  simp only [repeatedTimes, Ways.toList_bind, List.mem_flatMap, mem_repeated_iff] at h
  obtain ⟨middle, hlow, hmore⟩ := h
  exact hlow.reflTransGen.trans (reflTransGen_of_mem_repeatedMore hmore)

end Repetitions

/-! ### Matches of nodes -/

namespace Greed

lemma mem_of_mem_order {greed : Greed} {spots : List Spot} {spot : Spot}
    (h : spot ∈ greed.order spots) : spot ∈ spots := by
  cases greed with
  | greedy => exact List.mem_reverse.mp h
  | lazy => exact h
  | possessive => exact List.mem_of_getLast? (Option.mem_toList.mp h)

/-- What is not possessive tries all ends. -/
lemma mem_order_iff {greed : Greed} (hgreed : greed ≠ .possessive) {spots : List Spot}
    {spot : Spot} : spot ∈ greed.order spots ↔ spot ∈ spots := by
  cases greed with
  | greedy => exact List.mem_reverse
  | lazy => exact Iff.rfl
  | possessive => exact absurd rfl hgreed

end Greed

namespace Node

/-- The node has a match at `spot` that ends at `reached`. -/
def Matches (node : Node) (spot reached : Spot) : Prop := reached ∈ (node.ways spot).toList

variable {node first second body yes no : Node} {spot reached : Spot} {test : CharTest}
  {greed : Greed} {low number : Nat} {high : Option Nat}

lemma matches_empty_iff : Node.empty.Matches spot reached ↔ reached = spot := by
  simp [Matches, ways]

lemma matches_char_iff :
    (Node.char test).Matches spot reached
      ↔ ∃ c rest, spot.ahead = c :: rest ∧ test.holds c ∧ reached = spot.after c rest := by
  rw [← Spot.step?_eq_some_iff, Matches, ways]
  cases spot.step? test <;> simp [eq_comm]

lemma matches_anchor_iff {place : Anchor} :
    (Node.anchor place).Matches spot reached ↔ spot.holds place ∧ reached = spot := by
  rw [Matches, ways]
  by_cases h : spot.holds place <;> simp [h]

lemma matches_seq_iff :
    (Node.seq first second).Matches spot reached
      ↔ ∃ middle, first.Matches spot middle ∧ second.Matches middle reached := by
  simp [Matches, ways]

lemma matches_alt_iff :
    (Node.alt first second).Matches spot reached
      ↔ first.Matches spot reached ∨ second.Matches spot reached := by
  simp [Matches, ways]

lemma matches_group_iff :
    (Node.group number body).Matches spot reached
      ↔ ∃ middle, body.Matches spot middle ∧ reached = Spot.capture spot number middle := by
  simp [Matches, ways]

lemma mem_drop_run_iff {bound : Option Nat} :
    reached ∈ (spot.run test bound).drop low
      ↔ ∃ w, low ≤ w.length ∧ (∀ c ∈ w, test.holds c)
        ∧ (∀ most, bound = some most → w.length ≤ most)
        ∧ spot.Passes w reached ∧ reached.groups = spot.groups := by
  rw [List.mem_iff_getElem?]
  simp only [List.getElem?_drop, Spot.getElem?_run_eq_some_iff]
  constructor
  · rintro ⟨i, w, hlength, hw, hbound, hpasses⟩
    exact ⟨w, by omega, hw, fun most h => hlength ▸ hbound most h, hpasses⟩
  · rintro ⟨w, hlow, hw, hbound, hpasses⟩
    exact ⟨w.length - low, w, by omega, hw, fun most h => by have := hbound most h; omega, hpasses⟩

/-- A run passes over characters with the test, in a number that is permitted. -/
lemma matches_run_iff (hgreed : greed ≠ .possessive) :
    (Node.run greed low high test).Matches spot reached
      ↔ ∃ w, low ≤ w.length ∧ (∀ c ∈ w, test.holds c)
        ∧ (∀ most, high = some most → w.length ≤ most)
        ∧ spot.Passes w reached ∧ reached.groups = spot.groups := by
  rw [Matches, ways, Ways.toList_ofList, Greed.mem_order_iff hgreed, mem_drop_run_iff]

/-- A repetition leads from round to round. -/
lemma Matches.reflTransGen (h : (Node.times greed low high body).Matches spot reached) :
    Relation.ReflTransGen body.Matches spot reached := by
  cases greed with
  | greedy => exact reflTransGen_of_mem_repeatedTimes h
  | lazy => exact reflTransGen_of_mem_repeatedTimes h
  | possessive =>
    rw [Matches, ways, Ways.toList_commit] at h
    have hrounds := reflTransGen_of_mem_repeatedTimes (List.mem_of_mem_take h)
    refine Relation.ReflTransGen.mono (fun s m hround => ?_) _ _ hrounds
    rw [Ways.toList_commit] at hround
    exact List.mem_of_mem_take hround

/-! ### What a match passes over -/

/-- Do all tests of characters in the node have a property?  A node that asks for the text of a
group again has none. -/
def everyTest (p : CharTest → Bool) : Node → Bool
  | .empty => true
  | .char test => p test
  | .anchor _ => true
  | .seq first second => first.everyTest p && second.everyTest p
  | .alt first second => first.everyTest p && second.everyTest p
  | .group _ body => body.everyTest p
  | .backref _ _ => false
  | .run _ _ _ test => p test
  | .times _ _ _ body => body.everyTest p
  | .atomic body => body.everyTest p
  | .look _ _ _ => true
  | .cond _ yes no => yes.everyTest p && no.everyTest p

/-- A match passes over a text.  If all tests of the node hold only for characters with a property,
then the characters of the text have it. -/
theorem Matches.exists_passes {p : CharTest → Bool} {P : Char → Prop}
    (hp : ∀ test c, p test → test.holds c → P c) (h : node.Matches spot reached) :
    ∃ w, spot.Passes w reached ∧ (node.everyTest p → ∀ c ∈ w, P c) := by
  induction node generalizing spot reached with
  | empty =>
    obtain rfl := matches_empty_iff.mp h
    exact ⟨[], .refl _, by simp⟩
  | char test =>
    obtain ⟨c, rest, hahead, hc, rfl⟩ := matches_char_iff.mp h
    exact ⟨[c], Spot.passes_after hahead, fun htest => by simpa using hp test c htest hc⟩
  | anchor place =>
    obtain ⟨-, rfl⟩ := matches_anchor_iff.mp h
    exact ⟨[], .refl _, by simp⟩
  | seq first second ihf ihs =>
    obtain ⟨middle, hfirst, hsecond⟩ := matches_seq_iff.mp h
    obtain ⟨w, hw, hwP⟩ := ihf hfirst
    obtain ⟨v, hv, hvP⟩ := ihs hsecond
    refine ⟨w ++ v, hw.trans hv, fun htests c hc => ?_⟩
    rw [everyTest, Bool.and_eq_true] at htests
    rcases List.mem_append.mp hc with hc | hc
    · exact hwP htests.1 c hc
    · exact hvP htests.2 c hc
  | alt first second ihf ihs =>
    rcases matches_alt_iff.mp h with hfirst | hsecond
    · obtain ⟨w, hw, hwP⟩ := ihf hfirst
      exact ⟨w, hw, fun htests => hwP (Bool.and_eq_true_iff.mp htests).1⟩
    · obtain ⟨w, hw, hwP⟩ := ihs hsecond
      exact ⟨w, hw, fun htests => hwP (Bool.and_eq_true_iff.mp htests).2⟩
  | group number body ih =>
    obtain ⟨middle, hbody, rfl⟩ := matches_group_iff.mp h
    obtain ⟨w, hw, hwP⟩ := ih hbody
    exact ⟨w, hw.capture _ _, hwP⟩
  | backref number casing =>
    rw [Matches, ways] at h
    cases hgroup : spot.group? number with
    | none => simp [hgroup] at h
    | some capture =>
      rw [hgroup] at h
      dsimp only at h
      split at h
      · rw [Ways.toList_single, List.mem_singleton] at h
        obtain ⟨w, hw⟩ := spot.exists_passes_advance capture.word.length
        exact ⟨w, h ▸ hw, fun htests => absurd htests Bool.false_ne_true⟩
      · simp at h
  | run greed low high test =>
    rw [Matches, ways, Ways.toList_ofList] at h
    obtain ⟨w, -, hw, -, hpasses, -⟩ := mem_drop_run_iff.mp (Greed.mem_of_mem_order h)
    exact ⟨w, hpasses, fun htest c hc => hp test c htest (hw c hc)⟩
  | times greed low high body ih =>
    have hrounds := h.reflTransGen
    clear h
    induction hrounds with
    | refl => exact ⟨[], .refl _, by simp⟩
    | tail _ hround ihrounds =>
      obtain ⟨w, hw, hwP⟩ := ihrounds
      obtain ⟨v, hv, hvP⟩ := ih hround
      refine ⟨w ++ v, hw.trans hv, fun htests c hc => ?_⟩
      rcases List.mem_append.mp hc with hc | hc
      · exact hwP htests c hc
      · exact hvP htests c hc
  | atomic body ih =>
    rw [Matches, ways, Ways.toList_commit] at h
    exact ih (List.mem_of_mem_take h)
  | look back negated body ih =>
    unfold Matches ways at h
    split at h
    · next found _ =>
      rw [Ways.toList_single, List.mem_singleton] at h
      exact ⟨[], h ▸ (Spot.Passes.refl spot).withGroups _, by simp⟩
    · rw [Ways.toList_single, List.mem_singleton] at h
      exact ⟨[], h ▸ .refl spot, by simp⟩
    · simp at h
  | cond number yes no ihy ihn =>
    rw [Matches, ways] at h
    split at h
    · obtain ⟨w, hw, hwP⟩ := ihy h
      exact ⟨w, hw, fun htests => hwP (Bool.and_eq_true_iff.mp htests).1⟩
    · obtain ⟨w, hw, hwP⟩ := ihn h
      exact ⟨w, hw, fun htests => hwP (Bool.and_eq_true_iff.mp htests).2⟩

/-- Every match goes on in the text. -/
lemma Matches.passes (h : node.Matches spot reached) : ∃ w, spot.Passes w reached := by
  obtain ⟨w, hw, -⟩ := h.exists_passes (p := fun _ => true) (P := fun _ => True) (by simp)
  exact ⟨w, hw⟩

/-- A repetition is a least number of rounds and then further ones. -/
lemma matches_times_iff (hgreed : greed ≠ .possessive) :
    (Node.times greed low high body).Matches spot reached
      ↔ ∃ middle, Iterated body.Matches low spot middle
        ∧ Rounds body.Matches (high.map (· - low)) none middle reached := by
  have hbody : ∀ s, ∀ m ∈ (body.ways s).toList, ∃ w, s.Passes w m := fun s m h => Matches.passes h
  cases greed with
  | greedy => exact mem_repeatedTimes_iff hbody
  | lazy => exact mem_repeatedTimes_iff hbody
  | possessive => exact absurd rfl hgreed

/-- A repetition that may be left out matches nothing. -/
lemma matches_times_self (hgreed : greed ≠ .possessive) (high : Option Nat) (body : Node)
    (spot : Spot) : (Node.times greed 0 high body).Matches spot spot :=
  (matches_times_iff hgreed).mpr ⟨spot, .zero spot, .stop _ _ spot⟩

end Node

end DockCheck.Pattern
