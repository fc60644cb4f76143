import DockCheck.Proofs.Pattern.Leftmost
import DockCheck.Proofs.Pattern.Numbering
import DockCheck.Proofs.Pattern.Preferred

/-!
# The groups that take part in a match

A match captures texts for some of the groups of a pattern and leaves the others out.  The main
statement, `TakesPart.mem_groupNumbers`, says that there are no others: a group that takes part in a
match is one of the groups of the tree, which are those that were counted when the pattern was read.

There are two ways of matching, and so two invariants.  Along the ways of a node every spot holds
captures of its groups only (`Node.Matches.capturesOnly`).  With traces the same holds of the marks,
which may outlive the attempt that set them: an attempt that starts with marks of the groups only
ends with such marks, whatever it is told to do next (`Node.setsOnly_attempt`).
-/

namespace DockCheck.Pattern

/-! ### Captures along ways -/

namespace Spot

/-- Going back changes no captures. -/
lemma groups_of_back? {spot start : Spot} {n : Nat} (h : spot.back? n = some start) :
    start.groups = spot.groups := by
  induction n generalizing spot with
  | zero =>
    cases h
    rfl
  | succ n ih =>
    unfold back? at h
    split at h
    · cases h
    · rw [ih h]

/-- Going ahead changes no captures. -/
lemma groups_advance (spot : Spot) (n : Nat) : (spot.advance n).groups = spot.groups := by
  induction n generalizing spot with
  | zero => rfl
  | succ n ih =>
    unfold advance
    split
    · rfl
    · exact ih _

end Spot

/-- All that is captured at `reached` was captured at `spot` or belongs to one of the numbers. -/
def CapturesOnly (numbers : List Nat) (spot reached : Spot) : Prop :=
  ∀ entry ∈ reached.groups, entry ∈ spot.groups ∨ entry.1 ∈ numbers

namespace CapturesOnly

variable {numbers others : List Nat} {spot middle reached : Spot}

lemma of_groups_eq (h : reached.groups = spot.groups) : CapturesOnly numbers spot reached :=
  fun _ hentry => Or.inl (h ▸ hentry)

lemma trans (h : CapturesOnly numbers spot middle) (h' : CapturesOnly numbers middle reached) :
    CapturesOnly numbers spot reached := by
  intro entry hentry
  rcases h' entry hentry with hmiddle | hnumber
  · exact h entry hmiddle
  · exact Or.inr hnumber

lemma mono (h : CapturesOnly numbers spot reached) (hsub : numbers ⊆ others) :
    CapturesOnly others spot reached :=
  fun entry hentry => (h entry hentry).imp_right fun hnumber => hsub hnumber

end CapturesOnly

namespace Node

variable {node : Node} {spot reached : Spot}

/-- A match captures texts of the groups of the node only. -/
theorem Matches.capturesOnly (h : node.Matches spot reached) :
    CapturesOnly node.groupNumbers spot reached := by
  induction node generalizing spot reached with
  | empty =>
    obtain rfl := matches_empty_iff.mp h
    exact .of_groups_eq rfl
  | char test =>
    obtain ⟨c, rest, -, -, rfl⟩ := matches_char_iff.mp h
    exact .of_groups_eq rfl
  | anchor place =>
    obtain ⟨-, rfl⟩ := matches_anchor_iff.mp h
    exact .of_groups_eq rfl
  | seq first second ihf ihs =>
    obtain ⟨middle, hfirst, hsecond⟩ := matches_seq_iff.mp h
    exact ((ihf hfirst).mono (List.subset_append_left _ _)).trans
      ((ihs hsecond).mono (List.subset_append_right _ _))
  | alt first second ihf ihs =>
    rcases matches_alt_iff.mp h with hfirst | hsecond
    · exact (ihf hfirst).mono (List.subset_append_left _ _)
    · exact (ihs hsecond).mono (List.subset_append_right _ _)
  | group number body ih =>
    obtain ⟨middle, hbody, rfl⟩ := matches_group_iff.mp h
    intro entry hentry
    rcases List.mem_cons.mp hentry with rfl | hentry
    · exact Or.inr List.mem_cons_self
    · have hmiddle := ih hbody entry (List.mem_of_mem_filter hentry)
      exact hmiddle.imp_right fun hnumber => List.mem_cons_of_mem _ hnumber
  | backref number casing =>
    rw [Matches, ways] at h
    split at h
    · simp at h
    · dsimp only at h
      split at h
      · rw [Ways.toList_single, List.mem_singleton] at h
        exact .of_groups_eq (h ▸ spot.groups_advance _)
      · simp at h
  | run greed low high test =>
    rw [Matches, ways, Ways.toList_ofList] at h
    obtain ⟨w, -, -, -, -, hgroups⟩ := mem_drop_run_iff.mp (Greed.mem_of_mem_order h)
    exact .of_groups_eq hgroups
  | times greed low high body ih =>
    have hrounds := h.reflTransGen
    clear h
    induction hrounds with
    | refl => exact .of_groups_eq rfl
    | tail _ hround ihrounds => exact ihrounds.trans (ih hround)
  | atomic body ih =>
    rw [Matches, ways, Ways.toList_commit] at h
    exact ih (List.mem_of_mem_take h)
  | look back negated body ih =>
    unfold Matches ways at h
    split at h
    · next found hfound =>
      rw [Ways.toList_single, List.mem_singleton] at h
      subst h
      obtain ⟨start, hstart, hfirst⟩ := Option.bind_eq_some_iff.mp hfound
      have hbody : body.Matches start found := Prefers.toMatches hfirst
      have hcaptures := ih hbody
      intro entry hentry
      exact (Spot.groups_of_back? hstart) ▸ hcaptures entry hentry
    · rw [Ways.toList_single, List.mem_singleton] at h
      exact .of_groups_eq (h ▸ rfl)
    · simp at h
  | cond number yes no ihy ihn =>
    rw [Matches, ways] at h
    split at h
    · exact (ihy h).mono (List.subset_append_left _ _)
    · exact (ihn h).mono (List.subset_append_right _ _)

end Node

/-! ### Marks of traces -/

/-- Only groups with these numbers have marks. -/
def MarksOnly (numbers : List Nat) (marks : List (Option Nat)) : Prop :=
  ∀ index place, marks[index]? = some (some place) →
    ∃ number ∈ numbers, index = 2 * number - 2 ∨ index = 2 * number - 1

/-- The trace, if there is one, has marks of these groups only. -/
def EndsWithMarks (numbers : List Nat) (final : Option Trace) : Prop :=
  ∀ trace, final = some trace → MarksOnly numbers trace.marks

/-- From such marks, the retreat ends with such marks. -/
def Retreat.SetsOnly (numbers : List Nat) (retreat : Retreat) : Prop :=
  ∀ trace, MarksOnly numbers trace.marks → EndsWithMarks numbers (retreat trace)

/-- From such marks, what is left to do ends with such marks if the retreat does. -/
def Onward.SetsOnly (numbers : List Nat) (onward : Onward) : Prop :=
  ∀ spot trace retreat, MarksOnly numbers trace.marks → Retreat.SetsOnly numbers retreat →
    EndsWithMarks numbers (onward spot trace retreat)

/-- Whatever is left to do after it, the attempt sets marks of these groups only. -/
def Attempt.SetsOnly (numbers : List Nat) (attempt : Attempt) : Prop :=
  ∀ onward, Onward.SetsOnly numbers onward → ∀ spot trace retreat, MarksOnly numbers trace.marks →
    Retreat.SetsOnly numbers retreat → EndsWithMarks numbers (attempt spot trace onward retreat)

section Marks

variable {numbers : List Nat} {trace left : Trace} {saved marks : List (Option Nat)}

lemma MarksOnly.take (h : MarksOnly numbers marks) (n : Nat) :
    MarksOnly numbers (marks.take n) := by
  intro index place hplace
  rw [List.getElem?_take] at hplace
  split at hplace
  · exact h index place hplace
  · cases hplace

/-- The marks that are brought back are such marks, and so are those that stay. -/
lemma MarksOnly.restore (h : MarksOnly numbers left.marks) (hsaved : MarksOnly numbers saved)
    (repeating : Bool) : MarksOnly numbers (left.restore repeating saved).marks := by
  unfold Trace.restore
  cases repeating with
  | false => exact h.take _
  | true => exact hsaved

/-- A mark is the one that was set last, or it was there before. -/
lemma Trace.getElem?_mark {index i place other : Nat}
    (h : (trace.mark index place).marks[i]? = some (some other)) :
    i = index ∨ trace.marks[i]? = some (some other) := by
  have hlength : ((trace.marks ++ List.replicate (index - trace.marks.length) none).take
      index).length = index := by
    simp
    omega
  rw [Trace.mark] at h
  dsimp only at h
  rcases lt_trichotomy i index with hlt | heq | hgt
  · rw [List.getElem?_append_left (by omega), List.getElem?_take_of_lt hlt] at h
    right
    rw [List.getElem?_append] at h
    split at h
    · exact h
    · simp [List.getElem?_replicate] at h
  · exact Or.inl heq
  · rw [List.getElem?_append_right (by omega), hlength] at h
    obtain ⟨k, hk⟩ : ∃ k, i - index = k + 1 := ⟨i - index - 1, by omega⟩
    rw [hk, List.getElem?_cons_succ, List.getElem?_drop] at h
    right
    rwa [show index + 1 + k = i by omega] at h

lemma MarksOnly.mark (h : MarksOnly numbers trace.marks) {number index : Nat}
    (hnumber : number ∈ numbers) (hindex : index = 2 * number - 2 ∨ index = 2 * number - 1)
    (place : Nat) : MarksOnly numbers (trace.mark index place).marks := by
  intro i other hother
  rcases Trace.getElem?_mark hother with rfl | hbefore
  · exact ⟨number, hnumber, hindex⟩
  · exact h i other hbefore

end Marks

/-! ### Repetitions

Repetitions note places all the time.  A note leaves the marks as they are, so that a retreat which
notes a place first is no other case than the retreat itself. -/

section Repetitions

variable {numbers : List Nat} {greed : Greed} {low n : Nat} {high bound last next : Option Nat}
  {test : CharTest} {repeating : Bool} {body after : Attempt} {onward : Onward}
  {finish retreat : Retreat} {saved : List (Option Nat)}

lemma setsOnly_tryEach (hsaved : MarksOnly numbers saved) (honward : onward.SetsOnly numbers)
    (hfinish : finish.SetsOnly numbers) (spots : List Spot) :
    Retreat.SetsOnly numbers (tryEach repeating saved onward finish spots) := by
  induction spots with
  | nil => exact hfinish
  | cons spot spots ih =>
    intro trace htrace
    refine honward spot _ _ htrace fun left hleft => ?_
    exact ih _ (hleft.restore hsaved repeating)

lemma setsOnly_attemptRun :
    Attempt.SetsOnly numbers (attemptRun greed low high test repeating next) := by
  intro onward honward spot trace retreat htrace hretreat
  unfold attemptRun
  split
  · exact hretreat trace htrace
  extract_lets place ends counted all
  split
  · exact hretreat _ htrace
  · extract_lets final follows fallback
    have hfallback : Retreat.SetsOnly numbers fallback := fun left hleft => hretreat _ hleft
    split
    · exact honward _ _ _ htrace hretreat
    · exact setsOnly_tryEach htrace honward hretreat _ _ htrace
    · exact setsOnly_tryEach htrace honward hfallback _ _ htrace

lemma setsOnly_attemptExactly (hbody : body.SetsOnly numbers) (hafter : after.SetsOnly numbers)
    (n : Nat) : Attempt.SetsOnly numbers (attemptExactly body after n) := by
  induction n with
  | zero => exact hafter
  | succ n ih =>
    intro onward honward spot trace retreat htrace hretreat
    refine hbody _ ?_ spot _ _ htrace fun left hleft => hretreat _ hleft
    exact ih onward honward

lemma setsOnly_attemptMore (hbody : body.SetsOnly numbers) (fuel : Nat) (bound last : Option Nat) :
    Attempt.SetsOnly numbers (attemptMore greed repeating body fuel bound last) := by
  induction fuel generalizing bound last with
  | zero => exact fun onward honward => honward
  | succ fuel ih =>
    intro onward honward spot trace retreat htrace hretreat
    unfold attemptMore
    extract_lets place here closed again leave
    have hagain : ∀ left, MarksOnly numbers left.marks → ∀ retreat,
        Retreat.SetsOnly numbers retreat → EndsWithMarks numbers (again left retreat) := by
      intro left hleft retreat hretreat
      exact hbody _ (ih _ _ onward honward) spot left retreat hleft hretreat
    have hleave : Retreat.SetsOnly numbers leave := by
      intro left hleft
      exact honward _ _ _ hleft fun left hleft => hretreat _ hleft
    split
    · refine honward _ _ _ htrace fun left hleft => ?_
      have hback : MarksOnly numbers (left.restore repeating here.marks).marks :=
        hleft.restore htrace repeating
      dsimp only
      split
      · exact hretreat _ hback
      · refine hagain _ ?_ _ fun left hleft => hretreat _ hleft
        exact hback
    · split
      · exact hleave _ htrace
      · refine hagain _ ?_ _ fun left _ => hleave _ ?_
        · exact htrace
        · exact htrace

lemma setsOnly_attemptForGood (hbody : body.SetsOnly numbers) (fuel : Nat)
    (bound last : Option Nat) :
    Attempt.SetsOnly numbers (attemptForGood body fuel bound last) := by
  induction fuel generalizing bound last with
  | zero => exact fun onward honward => honward
  | succ fuel ih =>
    intro onward honward spot trace retreat htrace hretreat
    unfold attemptForGood
    split
    · exact honward _ _ _ htrace hretreat
    · refine hbody _ ?_ spot trace _ htrace fun left hleft => honward _ _ _ htrace hretreat
      intro reached left _ hleft _
      exact ih _ _ onward honward reached _ retreat hleft hretreat

lemma setsOnly_attemptExactlyForGood (hbody : body.SetsOnly numbers)
    (hafter : after.SetsOnly numbers) (start n : Nat) :
    Attempt.SetsOnly numbers (attemptExactlyForGood body after start n) := by
  induction n with
  | zero => exact hafter
  | succ n ih =>
    intro onward honward spot trace retreat htrace hretreat
    refine hbody _ ?_ spot trace _ htrace fun left hleft => hretreat _ hleft
    intro reached left _ hleft _
    exact ih onward honward reached _ retreat hleft hretreat

lemma setsOnly_attemptTimes (hbody : body.SetsOnly numbers) :
    Attempt.SetsOnly numbers (attemptTimes greed low high body repeating) := by
  intro onward honward spot trace retreat htrace hretreat
  unfold attemptTimes
  dsimp only
  split
  · exact setsOnly_attemptExactlyForGood hbody (setsOnly_attemptForGood hbody _ _ _) _ _ onward
      honward spot _ retreat htrace hretreat
  · exact setsOnly_attemptExactly hbody (setsOnly_attemptMore hbody _ _ _) _ onward honward spot
      trace retreat htrace hretreat

end Repetitions

/-! ### Nodes -/

namespace Node

variable {numbers : List Nat}

/-- An attempt sets marks of the groups of the node only. -/
theorem setsOnly_attempt (node : Node) (hnode : node.groupNumbers ⊆ numbers) (repeating : Bool)
    (next : Option Nat) : Attempt.SetsOnly numbers (node.attempt repeating next) := by
  induction node generalizing repeating next with
  | empty => exact fun onward honward => honward
  | char test =>
    intro onward honward spot trace retreat htrace hretreat
    unfold attempt
    split
    · exact honward _ _ _ htrace hretreat
    · exact hretreat _ htrace
  | anchor place =>
    intro onward honward spot trace retreat htrace hretreat
    unfold attempt
    split
    · exact honward _ _ _ htrace hretreat
    · exact hretreat _ htrace
  | seq first second ihf ihs =>
    obtain ⟨hfirst, hsecond⟩ := List.append_subset.mp hnode
    intro onward honward spot trace retreat htrace hretreat
    exact ihf hfirst _ _ _ (ihs hsecond _ _ onward honward) spot trace retreat htrace hretreat
  | alt first second ihf ihs =>
    obtain ⟨hfirst, hsecond⟩ := List.append_subset.mp hnode
    intro onward honward spot trace retreat htrace hretreat
    unfold attempt
    extract_lets place others
    have hothers : Retreat.SetsOnly numbers others := by
      intro left hleft
      dsimp only [others]
      split
      · exact ihs hsecond _ _ onward honward spot left retreat hleft hretreat
      split
      · exact hretreat _ hleft
      · exact ihs hsecond _ _ onward honward spot _ _ hleft fun left hleft =>
          hretreat _ (hleft.restore htrace repeating)
    split
    · exact hothers _ htrace
    · exact ihf hfirst _ _ onward honward spot _ _ htrace fun left hleft =>
        hothers _ (hleft.restore htrace repeating)
  | group number body ih =>
    obtain ⟨hnumber, hbody⟩ := List.cons_subset.mp hnode
    intro onward honward spot trace retreat htrace hretreat
    refine ih hbody _ _ _ ?_ spot _ retreat (htrace.mark hnumber (Or.inl rfl) _) hretreat
    intro reached left back hleft hback
    exact honward reached _ back (hleft.mark hnumber (Or.inr rfl) _) hback
  | backref number casing =>
    intro onward honward spot trace retreat htrace hretreat
    unfold attempt
    split
    · exact hretreat _ htrace
    · dsimp only
      split
      · exact honward _ _ _ htrace hretreat
      · exact hretreat _ htrace
  | run greed low high test => exact setsOnly_attemptRun
  | times greed low high body ih => exact setsOnly_attemptTimes (ih hnode _ _)
  | atomic body ih =>
    intro onward honward spot trace retreat htrace hretreat
    refine ih hnode _ _ _ ?_ spot _ _ htrace fun left hleft => hretreat _ hleft
    intro reached left _ hleft _
    exact honward reached _ retreat hleft hretreat
  | look back negated body ih =>
    intro onward honward spot trace retreat htrace hretreat
    unfold attempt
    split
    · exact hretreat _ htrace
    · exact honward _ _ _ htrace hretreat
    · refine ih hnode _ _ _ ?_ _ _ retreat htrace hretreat
      intro reached left _ hleft _
      exact honward spot _ retreat hleft hretreat
    · refine ih hnode _ _ _ ?_ _ _ _ htrace fun left hleft =>
        honward _ _ _ (hleft.restore htrace repeating) hretreat
      exact fun reached left _ hleft _ => hretreat _ hleft
  | cond number yes no ihy ihn =>
    obtain ⟨hyes, hno⟩ := List.append_subset.mp hnode
    intro onward honward spot trace retreat htrace hretreat
    unfold attempt
    split
    · exact ihy hyes _ _ onward honward spot trace retreat htrace hretreat
    · exact ihn hno _ _ onward honward spot trace retreat htrace hretreat

/-- The trace of a match has marks of the groups of the node only. -/
lemma marksOnly_of_traceAt {node : Node} {spot : Spot} {trace : Trace}
    (h : node.traceAt spot = some trace) : MarksOnly node.groupNumbers trace.marks := by
  refine node.setsOnly_attempt (List.Subset.refl _) false none _ ?_ spot _ _ ?_ ?_ trace h
  · rintro reached left _ hleft _ trace ⟨⟩
    exact hleft
  · simp [MarksOnly]
  · exact fun left _ => nofun

end Node

/-! ### Matches of a pattern -/

section Patterns

variable {pattern : Pattern} {t word : Text} {n number : Nat}

/-- The groups of a pattern are numbered from 1 on, as many as were counted. -/
lemma groupNumbers_body (pattern : Pattern) :
    pattern.body.groupNumbers = List.range' 1 pattern.groups :=
  compile_groupNumbers pattern.compiled

lemma mem_groupNumbers_body_iff :
    number ∈ pattern.body.groupNumbers ↔ 1 ≤ number ∧ number ≤ pattern.groups := by
  rw [groupNumbers_body, List.mem_range'_1]
  omega

/-- In the match that begins after the first `n` characters of a text, the group has a text. -/
def TakesPart (pattern : Pattern) (t : Text) (n number : Nat) : Prop :=
  if pattern.body.isOrderly [] then
    ∃ spot, pattern.body.Prefers (Spot.at t n) spot ∧ (spot.group? number).isSome
  else ∃ trace, pattern.body.traceAt (Spot.at t n) = some trace ∧ (trace.span? number).isSome

/-- Only groups of the pattern take part in its matches. -/
theorem TakesPart.mem_groupNumbers (h : pattern.TakesPart t n number) (hnumber : 1 ≤ number) :
    number ∈ pattern.body.groupNumbers := by
  unfold TakesPart at h
  split at h
  · obtain ⟨spot, hprefers, hgroup⟩ := h
    obtain ⟨capture, hcapture⟩ := Option.isSome_iff_exists.mp hgroup
    obtain ⟨before, after, hgroups, -⟩ := List.lookup_eq_some_iff.mp hcapture
    have hentry : (number, capture) ∈ spot.groups := by simp [hgroups]
    exact (hprefers.toMatches.capturesOnly _ hentry).resolve_left nofun
  · obtain ⟨trace, htrace, hspan⟩ := h
    have hmark : ∃ start, trace.marks[2 * number - 2]? = some (some start) := by
      unfold Trace.span? at hspan
      split at hspan
      · next start stop hstart hstop => exact ⟨start, Option.join_eq_some_iff.mp hstart⟩
      · cases hspan
    obtain ⟨start, hstart⟩ := hmark
    obtain ⟨other, hother, hindex⟩ := Node.marksOnly_of_traceAt htrace _ start hstart
    have hpos := (mem_groupNumbers_body_iff.mp hother).1
    obtain rfl : number = other := by omega
    exact hother

/-- The leftmost match of the pattern in a text begins after the first `n` characters. -/
structure IsLeftmost (pattern : Pattern) (t : Text) (n : Nat) : Prop where
  lt : n < pattern.placesIn t
  isMatch : ∃ outcome, pattern.outcomeAt t n = some outcome
  first : ∀ m < n, pattern.outcomeAt t m = none

/-- A pattern captures a word only if its first group takes part in the leftmost match. -/
theorem Captures.exists_takesPart (h : pattern.Captures t word) :
    ∃ n, pattern.IsLeftmost t n ∧ pattern.TakesPart t n 1 := by
  obtain ⟨-, capture, ⟨n, hlt, houtcome, hfirst⟩, -⟩ := h
  refine ⟨n, ⟨hlt, ⟨_, houtcome⟩, hfirst⟩, ?_⟩
  unfold outcomeAt at houtcome
  unfold TakesPart
  split at houtcome
  · next horderly =>
    obtain ⟨spot, hspot, hgroup⟩ := Option.map_eq_some_iff.mp houtcome
    rw [if_pos horderly]
    refine ⟨spot, hspot, ?_⟩
    rw [Except.ok.inj hgroup]
    rfl
  · next hnot =>
    obtain ⟨trace, htrace, hcapture⟩ := Option.map_eq_some_iff.mp houtcome
    rw [if_neg hnot]
    refine ⟨trace, htrace, ?_⟩
    unfold captureIn? at hcapture
    dsimp only at hcapture
    split at hcapture
    · cases hcapture
    · obtain ⟨span, hspan, -⟩ := Option.map_eq_some_iff.mp (Except.ok.inj hcapture)
      simp [hspan]

end Patterns

end DockCheck.Pattern
