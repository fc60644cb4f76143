import DockCheck.Proofs.Pattern.Leftmost
import Mathlib.Data.List.Forall2

/-!
# Texts that a pattern does not tell apart

Two texts are alike by a relation on characters if they are so character by character.  If a pattern
makes no test that tells related characters apart (`Blurs`, `Node.testsOnly`), then its ways to
match two texts that are alike are so, too: `Node.respects_ways` says that they lead to spots in the
same places, in the same order.  So an orderly pattern of this kind captures nothing in both texts,
or words that are alike (`capture?_alike`).
-/

namespace DockCheck

/-- The heads of lists that correspond do so. -/
lemma rel_head?_of_forall₂ {α β : Type} {R : α → β → Prop} {l : List α} {others : List β}
    (h : List.Forall₂ R l others) : Option.Rel R l.head? others.head? := by
  cases h with
  | nil => exact .none
  | cons hab _ => exact .some hab

/-- Of two values that correspond there are both or neither. -/
lemma none_or_some_of_rel {α β : Type} {R : α → β → Prop} {found : Option α} {other : Option β}
    (h : Option.Rel R found other) :
    (found = none ∧ other = none) ∨ ∃ a b, found = some a ∧ other = some b ∧ R a b := by
  cases h with
  | none => exact Or.inl ⟨rfl, rfl⟩
  | some hab => exact Or.inr ⟨_, _, rfl, rfl, hab⟩

/-- What is found from values that correspond does so, too. -/
lemma rel_bind {α β γ δ : Type} {R : α → β → Prop} {S : γ → δ → Prop} {found : Option α}
    {other : Option β} {f : α → Option γ} {g : β → Option δ} (h : Option.Rel R found other)
    (hfg : ∀ a b, R a b → Option.Rel S (f a) (g b)) :
    Option.Rel S (found.bind f) (other.bind g) := by
  cases h with
  | none => exact .none
  | some hab => exact hfg _ _ hab

namespace Pattern

/-- Related characters are told apart by none of the tests that `p` admits, and neither as parts of
words nor as line feeds. -/
structure Blurs (R : Char → Char → Prop) (p : CharTest → Bool) : Prop where
  holds_eq {test : CharTest} {c d : Char} (htest : p test) (h : R c d) :
    test.holds c = test.holds d
  isWord_eq (ascii : Bool) {c d : Char} (h : R c d) :
    CharKind.word.holds ascii c = CharKind.word.holds ascii d
  feed_iff {c d : Char} (h : R c d) : c = '\n' ↔ d = '\n'

/-- Are all tests of characters in the node among those that `p` admits, those of nodes that only
look included?  A node that asks for the text of a group again makes another one. -/
def Node.testsOnly (p : CharTest → Bool) : Node → Bool
  | .empty => true
  | .char test => p test
  | .anchor _ => true
  | .seq first second => first.testsOnly p && second.testsOnly p
  | .alt first second => first.testsOnly p && second.testsOnly p
  | .group _ body => body.testsOnly p
  | .backref _ _ => false
  | .run _ _ _ test => p test
  | .times _ _ _ body => body.testsOnly p
  | .atomic body => body.testsOnly p
  | .look _ _ body => body.testsOnly p
  | .cond _ yes no => yes.testsOnly p && no.testsOnly p

variable {R : Char → Char → Prop} {p : CharTest → Bool}

/-- Captures of texts that are alike, in the same place. -/
structure Capture.Alike (R : Char → Char → Prop) (capture other : Capture) : Prop where
  start : List.Forall₂ R capture.start other.start
  stop : List.Forall₂ R capture.stop other.stop

lemma Capture.Alike.word {capture other : Capture} (h : capture.Alike R other) :
    List.Forall₂ R capture.word other.word := by
  unfold Capture.word
  rw [← h.start.length_eq, ← h.stop.length_eq]
  exact List.forall₂_take _ h.start

/-- Entries for the same group whose captures are alike. -/
def EntryAlike (R : Char → Char → Prop) (entry other : Nat × Capture) : Prop :=
  entry.1 = other.1 ∧ entry.2.Alike R other.2

namespace Spot

/-- Spots in the same place of texts that are alike, with groups that are. -/
structure Alike (R : Char → Char → Prop) (spot other : Spot) : Prop where
  position : spot.position = other.position
  behind : List.Forall₂ R spot.behind other.behind
  ahead : List.Forall₂ R spot.ahead other.ahead
  groups : List.Forall₂ (EntryAlike R) spot.groups other.groups

lemma alike_at {t u : Text} (h : List.Forall₂ R t u) (n : Nat) :
    (Spot.at t n).Alike R (Spot.at u n) where
  position := rfl
  behind := List.rel_reverse (List.forall₂_take n h)
  ahead := List.forall₂_drop n h
  groups := .nil

variable {spot other : Spot}

lemma Alike.withGroups (h : spot.Alike R other) {groups others : List (Nat × Capture)}
    (hgroups : List.Forall₂ (EntryAlike R) groups others) :
    { spot with groups := groups }.Alike R { other with groups := others } :=
  ⟨h.position, h.behind, h.ahead, hgroups⟩

lemma Alike.after (h : spot.Alike R other) {c d : Char} {rest others : Text} (hcd : R c d)
    (hrest : List.Forall₂ R rest others) :
    (spot.after c rest).Alike R (other.after d others) :=
  ⟨congrArg (· + 1) h.position, .cons hcd h.behind, hrest, h.groups⟩

lemma Alike.group? (h : spot.Alike R other) (number : Nat) :
    Option.Rel (Capture.Alike R) (spot.group? number) (other.group? number) := by
  have hgroups := h.groups
  unfold Spot.group?
  generalize spot.groups = groups, other.groups = others at hgroups
  induction hgroups with
  | nil => exact .none
  | @cons entry otherEntry _ _ hentry _ ih =>
    rw [List.lookup_cons, List.lookup_cons, ← hentry.1]
    cases number == entry.1 with
    | true => exact .some hentry.2
    | false => exact ih

lemma Alike.capture {start otherStart : Spot} (hstart : start.Alike R otherStart) (number : Nat)
    (h : spot.Alike R other) :
    (Spot.capture start number spot).Alike R (Spot.capture otherStart number other) := by
  refine h.withGroups (.cons ⟨rfl, hstart.ahead, h.ahead⟩ ?_)
  refine List.rel_filter (fun entry otherEntry hentry => ?_) h.groups
  simp [hentry.1]

/-- The next character passes a test at both spots or at none. -/
lemma Alike.step? (hR : Blurs R p) (h : spot.Alike R other) {test : CharTest} (htest : p test) :
    Option.Rel (Alike R) (spot.step? test) (other.step? test) := by
  have hahead := h.ahead
  unfold Spot.step?
  cases hspot : spot.ahead with
  | nil =>
    rw [hspot] at hahead
    rw [List.forall₂_nil_left_iff.mp hahead]
    exact .none
  | cons c rest =>
    rw [hspot] at hahead
    obtain ⟨d, others, hcd, hrest, hother⟩ := List.forall₂_cons_left_iff.mp hahead
    rw [hother]
    dsimp only
    rw [hR.holds_eq htest hcd]
    cases test.holds d with
    | true => exact .some (h.after hcd hrest)
    | false => exact .none

/-- A place has what is asked of it at both spots or at none. -/
lemma Alike.holds_eq (hR : Blurs R p) (h : spot.Alike R other) (place : Anchor) :
    spot.holds place = other.holds place := by
  obtain ⟨position, behind, ahead, groups⟩ := spot
  obtain ⟨position', behind', ahead', groups'⟩ := other
  have hfeed : ∀ {c d : Char}, R c d → (c == '\n') = (d == '\n') := fun hcd =>
    Bool.eq_iff_iff.mpr (by simpa using hR.feed_iff hcd)
  obtain ⟨-, hbehind, hahead, -⟩ := h
  dsimp only at hbehind hahead
  have hlast : (ahead == ['\n']) = (ahead' == ['\n']) := by
    cases hahead with
    | nil => rfl
    | cons hcd hrest =>
      cases hrest with
      | nil => simp [hfeed hcd]
      | cons _ _ => simp
  cases place with
  | textStart => cases hbehind <;> rfl
  | textEnd => cases hahead <;> rfl
  | lastLineEnd =>
    simp only [Spot.holds, hlast]
    cases hahead <;> rfl
  | lineStart =>
    cases hbehind with
    | nil => rfl
    | cons hcd _ => simp [Spot.holds, hfeed hcd]
  | lineEnd =>
    cases hahead with
    | nil => rfl
    | cons hcd _ => simp [Spot.holds, hfeed hcd]
  | wordEdge ascii negated =>
    have hword : ∀ {t u : Text}, List.Forall₂ R t u →
        t.head?.any (CharKind.word.holds ascii) = u.head?.any (CharKind.word.holds ascii)
          ∧ t.isEmpty = u.isEmpty := by
      intro t u htu
      cases htu with
      | nil => exact ⟨rfl, rfl⟩
      | cons hcd _ => exact ⟨hR.isWord_eq ascii hcd, rfl⟩
    simp only [Spot.holds, (hword hbehind).1, (hword hbehind).2, (hword hahead).1,
      (hword hahead).2]

/-- The spots that are reached by passing over characters are alike. -/
lemma forall₂_runFrom (hR : Blurs R p) {test : CharTest} (htest : p test)
    {groups others : List (Nat × Capture)} (hgroups : List.Forall₂ (EntryAlike R) groups others)
    {ahead otherAhead : Text} (hahead : List.Forall₂ R ahead otherAhead) (bound : Option Nat)
    (position : Nat) {behind otherBehind : Text} (hbehind : List.Forall₂ R behind otherBehind) :
    List.Forall₂ (Alike R) (runFrom test groups bound position behind ahead)
      (runFrom test others bound position otherBehind otherAhead) := by
  induction hahead generalizing bound position behind otherBehind with
  | nil =>
    have hspot : List.Forall₂ (Alike R) [⟨position, behind, [], groups⟩]
        [⟨position, otherBehind, [], others⟩] := .cons ⟨rfl, hbehind, .nil, hgroups⟩ .nil
    match bound with
    | some 0 | some (_ + 1) | none => simpa only [runFrom] using hspot
  | @cons c d rest otherRest hcd hrest ih =>
    have hspot : Alike R ⟨position, behind, c :: rest, groups⟩
        ⟨position, otherBehind, d :: otherRest, others⟩ :=
      ⟨rfl, hbehind, .cons hcd hrest, hgroups⟩
    have hfurther : List.Forall₂ (Alike R)
        (if test.holds c then
          runFrom test groups (bound.map (· - 1)) (position + 1) (c :: behind) rest else [])
        (if test.holds d then
          runFrom test others (bound.map (· - 1)) (position + 1) (d :: otherBehind) otherRest
          else []) := by
      rw [hR.holds_eq htest hcd]
      split
      · exact ih _ _ (.cons hcd hbehind)
      · exact .nil
    match bound with
    | some 0 => simpa only [runFrom] using .cons hspot .nil
    | some (_ + 1) | none => simpa only [runFrom] using .cons hspot hfurther

lemma Alike.run (hR : Blurs R p) (h : spot.Alike R other) {test : CharTest} (htest : p test)
    (bound : Option Nat) : List.Forall₂ (Alike R) (spot.run test bound) (other.run test bound) := by
  unfold Spot.run
  rw [← h.position]
  exact forall₂_runFrom hR htest h.groups h.ahead bound spot.position h.behind

/-- The spots some characters before are alike, or there are none. -/
lemma Alike.back? (h : spot.Alike R other) (n : Nat) :
    Option.Rel (Alike R) (spot.back? n) (other.back? n) := by
  induction n generalizing spot other with
  | zero => exact .some h
  | succ n ih =>
    obtain ⟨position, behind, ahead, groups⟩ := spot
    obtain ⟨position', behind', ahead', groups'⟩ := other
    obtain ⟨hposition, hbehind, hahead, hgroups⟩ := h
    dsimp only at hposition hbehind hahead hgroups
    subst hposition
    cases hbehind with
    | nil => exact .none
    | cons hcd hbehind => exact ih ⟨rfl, hbehind, .cons hcd hahead, hgroups⟩

end Spot

open Spot (Alike)

/-! ### Ways from spots that are alike -/

/-- From spots that are alike, the ways lead to spots that are, in the same order. -/
def Respects (R : Char → Char → Prop) (ways : Spot → Ways Spot) : Prop :=
  ∀ spot other, spot.Alike R other →
    List.Forall₂ (Alike R) (ways spot).toList (ways other).toList

namespace Respects

variable {body : Spot → Ways Spot}

lemma commit (hbody : Respects R body) : Respects R fun spot => (body spot).commit := by
  intro spot other h
  rw [Ways.toList_commit, Ways.toList_commit]
  exact List.forall₂_take 1 (hbody spot other h)

lemma first? (hbody : Respects R body) {spot other : Spot} (h : spot.Alike R other) :
    Option.Rel (Alike R) (body spot).first? (body other).first? := by
  rw [Ways.first?_eq_head?, Ways.first?_eq_head?]
  exact rel_head?_of_forall₂ (hbody spot other h)

lemma bind {next : Spot → Ways Spot} (hbody : Respects R body) (hnext : Respects R next) :
    Respects R fun spot => (body spot).bind next := by
  intro spot other h
  rw [Ways.toList_bind, Ways.toList_bind]
  exact List.rel_flatMap (hbody spot other h) hnext

lemma append {later : Spot → Ways Spot} (hbody : Respects R body) (hlater : Respects R later) :
    Respects R fun spot => (body spot).append fun _ => later spot := by
  intro spot other h
  rw [Ways.toList_append, Ways.toList_append]
  exact List.rel_append (hbody spot other h) (hlater spot other h)

lemma single : Respects R Ways.single := by
  intro spot other h
  exact .cons h .nil

lemma repeated (hbody : Respects R body) (n : Nat) : Respects R (Pattern.repeated body n) := by
  induction n with
  | zero => exact single
  | succ n ih => exact hbody.bind ih

/-- A repetition stops at both spots or at none, as they are in the same place. -/
lemma repeatedMore (hbody : Respects R body) (greed : Greed) (fuel : Nat)
    (bound last : Option Nat) : Respects R (Pattern.repeatedMore greed body fuel bound last) := by
  induction fuel generalizing bound last with
  | zero => exact single
  | succ fuel ih =>
    intro spot other h
    have hfurther := hbody.bind (ih (bound.map (· - 1)) (some spot.position)) spot other h
    unfold Pattern.repeatedMore
    rw [← h.position]
    split
    · exact single spot other h
    · cases greed with
      | lazy => exact .cons h hfurther
      | greedy | possessive =>
        dsimp only
        rw [Ways.toList_append, Ways.toList_append]
        exact List.rel_append hfurther (single spot other h)

lemma repeatedTimes (hbody : Respects R body) (greed : Greed) (low : Nat) (high : Option Nat) :
    Respects R (Pattern.repeatedTimes greed low high body) := by
  refine (hbody.repeated low).bind fun spot other h => ?_
  rw [h.ahead.length_eq]
  exact hbody.repeatedMore greed _ _ none spot other h

end Respects

/-- The order in which ends are tried is the same for ends that are alike. -/
lemma Greed.forall₂_order (greed : Greed) {spots others : List Spot}
    (h : List.Forall₂ (Alike R) spots others) :
    List.Forall₂ (Alike R) (greed.order spots) (greed.order others) := by
  cases greed with
  | greedy => exact List.rel_reverse h
  | lazy => exact h
  | possessive =>
    have hlast := rel_head?_of_forall₂ (List.rel_reverse h)
    rw [List.head?_reverse, List.head?_reverse] at hlast
    unfold Greed.order
    obtain ⟨hspots, hothers⟩ | ⟨spot, other, hspots, hothers, hspot⟩ := none_or_some_of_rel hlast
    · rw [hspots, hothers]
      exact .nil
    · rw [hspots, hothers]
      exact .cons hspot .nil

namespace Node

/-- A node goes on in the same ways from spots that are alike, if it makes only tests that do not
tell them apart. -/
theorem respects_ways (hR : Blurs R p) {node : Node} (h : node.testsOnly p) :
    Respects R node.ways := by
  induction node with
  | empty => exact .single
  | char test =>
    intro spot other hspot
    unfold ways
    obtain ⟨hnone, hother⟩ | ⟨next, otherNext, hnext, hother, halike⟩ :=
      none_or_some_of_rel (hspot.step? hR h)
    · rw [hnone, hother]
      exact .nil
    · rw [hnext, hother]
      exact .cons halike .nil
  | anchor place =>
    intro spot other hspot
    unfold ways
    rw [hspot.holds_eq hR place]
    split
    · exact .cons hspot .nil
    · exact .nil
  | seq first second ihf ihs =>
    rw [testsOnly, Bool.and_eq_true] at h
    exact (ihf h.1).bind (ihs h.2)
  | alt first second ihf ihs =>
    rw [testsOnly, Bool.and_eq_true] at h
    exact (ihf h.1).append (ihs h.2)
  | group number body ih =>
    intro spot other hspot
    unfold ways
    rw [Ways.toList_bind, Ways.toList_bind]
    refine List.rel_flatMap (ih h spot other hspot) fun reached otherReached hreached => ?_
    exact .cons (hspot.capture number hreached) .nil
  | backref number casing => cases h
  | run greed low high test =>
    intro spot other hspot
    unfold ways
    rw [Ways.toList_ofList, Ways.toList_ofList]
    exact greed.forall₂_order (List.forall₂_drop low (hspot.run hR h high))
  | times greed low high body ih =>
    cases greed with
    | greedy => exact (ih h).repeatedTimes .greedy low high
    | lazy => exact (ih h).repeatedTimes .lazy low high
    | possessive => exact ((ih h).commit.repeatedTimes .greedy low high).commit
  | atomic body ih => exact (ih h).commit
  | look back negated body ih =>
    intro spot other hspot
    have hfirst : Option.Rel (Alike R)
        ((spot.back? (back.getD 0)).bind fun start => (body.ways start).first?)
        ((other.back? (back.getD 0)).bind fun start => (body.ways start).first?) :=
      rel_bind (hspot.back? (back.getD 0)) fun start otherStart hstart => (ih h).first? hstart
    unfold ways
    obtain ⟨hnone, hother⟩ | ⟨reached, otherReached, hreached, hother, halike⟩ :=
      none_or_some_of_rel hfirst
    · rw [hnone, hother]
      cases negated with
      | true => exact .cons hspot .nil
      | false => exact .nil
    · rw [hreached, hother]
      cases negated with
      | true => exact .nil
      | false => exact .cons (hspot.withGroups halike.groups) .nil
  | cond number yes no ihy ihn =>
    rw [testsOnly, Bool.and_eq_true] at h
    intro spot other hspot
    unfold ways
    obtain ⟨hnone, hother⟩ | ⟨capture, otherCapture, hcapture, hother, -⟩ :=
      none_or_some_of_rel (hspot.group? number)
    · rw [hnone, hother]
      exact ihn h.2 spot other hspot
    · rw [hcapture, hother]
      exact ihy h.1 spot other hspot

/-- The leftmost matches in texts that are alike are so. -/
lemma search_alike (hR : Blurs R p) {node : Node} (h : node.testsOnly p) {t u : Text}
    (htu : List.Forall₂ R t u) : Option.Rel (Alike R) (node.search t) (node.search u) := by
  rw [search_eq_findSome?, search_eq_findSome?, ← htu.length_eq]
  induction List.range (t.length + 1) with
  | nil => exact .none
  | cons n places ih =>
    rw [List.findSome?_cons, List.findSome?_cons]
    obtain ⟨hnone, hother⟩ | ⟨reached, otherReached, hreached, hother, halike⟩ :=
      none_or_some_of_rel ((respects_ways hR h).first? (Spot.alike_at htu n))
    · rw [hnone, hother]
      exact ih
    · rw [hreached, hother]
      exact .some halike

end Node

/-- What an orderly pattern captures in texts that are alike is so. -/
lemma capture?_alike (hR : Blurs R p) {pattern : Pattern} (horderly : pattern.body.isOrderly [])
    (h : pattern.body.testsOnly p) {t u : Text} (htu : List.Forall₂ R t u) :
    ∃ found other, pattern.capture? t = .ok found ∧ pattern.capture? u = .ok other
      ∧ Option.Rel (List.Forall₂ R) found other := by
  rw [capture?_eq_map, capture?_eq_map, firstGroup?_of_isOrderly horderly,
    firstGroup?_of_isOrderly horderly]
  refine ⟨_, _, rfl, rfl, ?_⟩
  have hgroup : Option.Rel (Capture.Alike R)
      ((pattern.body.search t).bind fun spot => spot.group? 1)
      ((pattern.body.search u).bind fun spot => spot.group? 1) :=
    rel_bind (Node.search_alike hR h htu) fun spot other hspot => hspot.group? 1
  obtain ⟨hnone, hother⟩ | ⟨capture, otherCapture, hcapture, hother, hcaptures⟩ :=
    none_or_some_of_rel hgroup
  · rw [hnone, hother]
    exact .none
  rw [hcapture, hother]
  simp only [Option.map_some]
  have hword := hcaptures.word
  generalize capture.word = word, otherCapture.word = otherWord at hword
  cases hword with
  | nil => exact .none
  | cons hcd hrest => exact .some (.cons hcd hrest)

end Pattern

end DockCheck
