import DockCheck.Pattern
import Mathlib.Tactic.Common

/-!
# Leftmost matches

A search tries a pattern at one place of a text after the other.  `Pattern.outcomeAt` is what the
pattern gives when it is tried at one place only, and `Pattern.HasLeftmost` says what it gives at
the first place where it matches at all.  Both cover the two ways of matching: an orderly pattern
follows its ways, any other one leaves a trace.

The main statements are `capture?_eq_some_iff` and `capture?_eq_error_iff`: a pattern captures a
word exactly if its leftmost match does, and a search has no outcome exactly if the leftmost match
has a group that ends before it begins.
-/

namespace DockCheck.Pattern

/-- The first of the numbers below `bound` to which a function gives a value. -/
lemma findSome?_range_eq_some_iff {α : Type} {f : Nat → Option α} {bound : Nat} {a : α} :
    (List.range bound).findSome? f = some a
      ↔ ∃ n < bound, f n = some a ∧ ∀ m < n, f m = none := by
  induction bound with
  | zero => simp
  | succ bound ih =>
    rw [List.range_succ, List.findSome?_append, Option.or_eq_some_iff, ih]
    constructor
    · rintro (⟨n, hn, ha, hbefore⟩ | ⟨hnone, hlast⟩)
      · exact ⟨n, Nat.lt_succ_of_lt hn, ha, hbefore⟩
      · refine ⟨bound, Nat.lt_succ_self bound, by simpa using hlast, fun m hm => ?_⟩
        exact List.findSome?_eq_none_iff.mp hnone m (List.mem_range.mpr hm)
    · rintro ⟨n, hn, ha, hbefore⟩
      rcases Nat.lt_succ_iff_lt_or_eq.mp hn with hlt | rfl
      · exact Or.inl ⟨n, hlt, ha, hbefore⟩
      · refine Or.inr ⟨?_, by simpa using ha⟩
        exact List.findSome?_eq_none_iff.mpr fun m hm => hbefore m (List.mem_range.mp hm)

/-- A search along numbers tries zero first. -/
lemma findSome?_range_succ {α : Type} (f : Nat → Option α) (n : Nat) :
    (List.range (n + 1)).findSome? f = (f 0).or ((List.range n).findSome? fun i => f (i + 1)) := by
  rw [List.range_succ_eq_map, List.findSome?_cons, List.findSome?_map]
  cases f 0 <;> rfl

/-! ### Places of a text -/

/-- The spot of a text after its first `n` characters, before anything is captured. -/
def Spot.at (t : Text) (n : Nat) : Spot := ⟨n, (t.take n).reverse, t.drop n, []⟩

lemma Spot.at_append (behind ahead : Text) :
    Spot.at (behind.reverse ++ ahead) behind.length = ⟨behind.length, behind, ahead, []⟩ := by
  have h : behind.reverse.length = behind.length := List.length_reverse
  rw [Spot.at, ← h, List.take_left, List.drop_left, List.reverse_reverse]

/-- The next place is reached by passing over a character. -/
lemma Spot.at_succ {t : Text} {n : Nat} (h : n < t.length) :
    (Spot.at t n).ahead = t[n] :: t.drop (n + 1)
      ∧ (Spot.at t n).after t[n] (t.drop (n + 1)) = Spot.at t (n + 1) := by
  refine ⟨List.drop_eq_getElem_cons h, ?_⟩
  rw [Spot.at, Spot.at, Spot.after, List.take_add_one, List.getElem?_eq_getElem h,
    Option.toList_some, List.reverse_append]
  rfl

namespace Node

/-! ### Searches along the places -/

/-- A search that follows ways tries the places from the current one to the end of the text. -/
lemma searchFrom_eq_findSome? (node : Node) (behind ahead : Text) :
    node.searchFrom behind.length behind ahead
      = (List.range (ahead.length + 1)).findSome? fun i =>
          (node.ways (Spot.at (behind.reverse ++ ahead) (behind.length + i))).first? := by
  induction ahead generalizing behind with
  | nil =>
    have h := Spot.at_append behind []
    rw [List.append_nil] at h
    simp [searchFrom, find?_some, h]
  | cons c rest ih =>
    have hnext := ih (c :: behind)
    rw [List.length_cons, List.reverse_cons, List.append_assoc, List.singleton_append] at hnext
    have hplace : ∀ i, behind.length + 1 + i = behind.length + (i + 1) := by omega
    rw [searchFrom, find?_some, hnext, List.length_cons, findSome?_range_succ _ (rest.length + 1)]
    simp only [hplace, Nat.add_zero, Spot.at_append]
    cases (node.ways ⟨behind.length, behind, c :: rest, []⟩).first? <;> rfl

/-- The leftmost match along ways is the first of the ways at the first place that has one. -/
lemma search_eq_findSome? (node : Node) (t : Text) :
    node.search t
      = (List.range (t.length + 1)).findSome? fun n => (node.ways (Spot.at t n)).first? := by
  simpa [search] using node.searchFrom_eq_findSome? [] t

/-- The trace of a match that begins at the spot. -/
def traceAt (node : Node) (spot : Spot) : Option Trace :=
  node.attempt false none spot ⟨spot.position, []⟩
    (fun reached left _ => some (left.note reached.position)) (fun _ => none)

lemma searchTracedFrom_zero (node : Node) (spot : Spot) :
    node.searchTracedFrom 0 spot = node.traceAt spot := by
  unfold searchTracedFrom traceAt
  dsimp only
  split <;> simp_all

lemma searchTracedFrom_succ (node : Node) (n : Nat) {spot : Spot} {c : Char} {rest : Text}
    (h : spot.ahead = c :: rest) :
    node.searchTracedFrom (n + 1) spot
      = (node.traceAt spot).or (node.searchTracedFrom n (spot.after c rest)) := by
  unfold traceAt
  rw [searchTracedFrom.eq_def]
  dsimp only
  split <;> simp_all

/-- A search that leaves traces tries the current place and as many after it as are asked for. -/
lemma searchTracedFrom_eq_findSome? (node : Node) {t : Text} {k n : Nat} (h : k + n ≤ t.length) :
    node.searchTracedFrom n (Spot.at t k)
      = (List.range (n + 1)).findSome? fun i => node.traceAt (Spot.at t (k + i)) := by
  induction n generalizing k with
  | zero => simp [searchTracedFrom_zero]
  | succ n ih =>
    obtain ⟨hahead, hafter⟩ := Spot.at_succ (t := t) (n := k) (by omega)
    have hplace : ∀ i, k + 1 + i = k + (i + 1) := by omega
    rw [searchTracedFrom_succ node n hahead, hafter, ih (by omega), findSome?_range_succ _ (n + 1)]
    simp only [hplace, Nat.add_zero]

/-- The number of places, from the start of the text on, at which a search that leaves traces
looks for a match. -/
def tracedPlaces (node : Node) (t : Text) : Nat :=
  let least := (node.leastIn []).1
  if t.length < least then 0
  else if least ≤ 1 || node.hasKnownStart then t.length + 1
  else t.length - least + 2

/-- The leftmost match that leaves a trace is the one at the first of these places that has one. -/
lemma searchTraced_eq_findSome? (node : Node) (t : Text) :
    node.searchTraced t
      = (List.range (node.tracedPlaces t)).findSome? fun n => node.traceAt (Spot.at t n) := by
  have hstart : Spot.start t = Spot.at t 0 := rfl
  simp only [searchTraced, tracedPlaces, hstart]
  by_cases hshort : t.length < (node.leastIn []).1
  · simp [hshort]
  · by_cases hall : (decide ((node.leastIn []).1 ≤ 1) || node.hasKnownStart) = true
    · rw [if_neg hshort, if_neg hshort, if_pos hall, if_pos hall,
        node.searchTracedFrom_eq_findSome? (by omega)]
      simp
    · have hleast : ¬ (node.leastIn []).1 ≤ 1 := by
        intro hle
        simp [hle] at hall
      rw [if_neg hshort, if_neg hshort, if_neg hall, if_neg hall,
        node.searchTracedFrom_eq_findSome? (by omega)]
      simp

end Node

/-! ### Leftmost matches of a pattern -/

/-- The number of places of a text, from its start on, at which a match is looked for. -/
def placesIn (pattern : Pattern) (t : Text) : Nat :=
  if pattern.body.isOrderly [] then t.length + 1 else pattern.body.tracedPlaces t

/-- What the first group captures in the match that begins after the first `n` characters of a
text, if there is a match there. -/
def outcomeAt (pattern : Pattern) (t : Text) (n : Nat) :
    Option (Except SearchFault (Option Capture)) :=
  if pattern.body.isOrderly [] then
    (pattern.body.ways (Spot.at t n)).first?.map fun spot => .ok (spot.group? 1)
  else (pattern.body.traceAt (Spot.at t n)).map (captureIn? pattern.groups t)

/-- The leftmost match of the pattern in a text has the given outcome for the first group. -/
def HasLeftmost (pattern : Pattern) (t : Text) (outcome : Except SearchFault (Option Capture)) :
    Prop :=
  ∃ n < pattern.placesIn t,
    pattern.outcomeAt t n = some outcome ∧ ∀ m < n, pattern.outcomeAt t m = none

/-- The leftmost match of the pattern in a text captures a word that is not empty. -/
def Captures (pattern : Pattern) (t word : Text) : Prop :=
  word ≠ [] ∧ ∃ capture : Capture, pattern.HasLeftmost t (.ok (some capture)) ∧ capture.word = word

/-- The leftmost match of the pattern in a text has a group that ends before it begins. -/
def Breaks (pattern : Pattern) (t : Text) : Prop := ∃ fault, pattern.HasLeftmost t (.error fault)

lemma firstGroup?_eq_getD (pattern : Pattern) (t : Text) :
    pattern.firstGroup? t
      = ((List.range (pattern.placesIn t)).findSome? (pattern.outcomeAt t)).getD (.ok none) := by
  unfold firstGroup? placesIn
  by_cases horderly : pattern.body.isOrderly [] = true
  · have houtcome : pattern.outcomeAt t
        = Option.map (fun spot => .ok (spot.group? 1))
          ∘ fun n => (pattern.body.ways (Spot.at t n)).first? := by
      funext n
      simp [outcomeAt, horderly]
    rw [if_pos horderly, if_pos horderly, houtcome, Node.search_eq_findSome?,
      ← List.map_findSome?]
    cases (List.range (t.length + 1)).findSome? fun n => (pattern.body.ways (Spot.at t n)).first?
      <;> rfl
  · have houtcome : pattern.outcomeAt t
        = Option.map (captureIn? pattern.groups t)
          ∘ fun n => pattern.body.traceAt (Spot.at t n) := by
      funext n
      simp [outcomeAt, horderly]
    rw [if_neg horderly, if_neg horderly, houtcome, Node.searchTraced_eq_findSome?,
      ← List.map_findSome?]
    cases (List.range (pattern.body.tracedPlaces t)).findSome? fun n =>
      pattern.body.traceAt (Spot.at t n) <;> rfl

/-- What the first group captures is decided by the leftmost match, and nothing is captured where
there is no match. -/
lemma firstGroup?_eq_iff {pattern : Pattern} {t : Text}
    {outcome : Except SearchFault (Option Capture)} (h : outcome ≠ .ok none) :
    pattern.firstGroup? t = outcome ↔ pattern.HasLeftmost t outcome := by
  rw [HasLeftmost, ← findSome?_range_eq_some_iff, firstGroup?_eq_getD]
  cases (List.range (pattern.placesIn t)).findSome? (pattern.outcomeAt t) with
  | none => simp [h.symm]
  | some found => simp

/-- A search keeps what the first group captures, unless that is empty. -/
lemma capture?_eq_map (pattern : Pattern) (t : Text) :
    pattern.capture? t
      = (pattern.firstGroup? t).map fun found =>
          (found.map Capture.word).filter fun word => !word.isEmpty := by
  unfold capture?
  cases pattern.firstGroup? t with
  | error fault => rfl
  | ok found =>
    cases found with
    | none => rfl
    | some capture =>
      change Except.ok (if capture.word.isEmpty then none else some capture.word) = _
      cases h : capture.word.isEmpty <;> simp [Except.map, Option.filter, h]

/-- A search gives a word exactly if the leftmost match captures it. -/
theorem capture?_eq_some_iff {pattern : Pattern} {t word : Text} :
    pattern.capture? t = .ok (some word) ↔ pattern.Captures t word := by
  have hleftmost : ∀ capture : Capture, pattern.HasLeftmost t (.ok (some capture))
      ↔ pattern.firstGroup? t = .ok (some capture) :=
    fun capture => (firstGroup?_eq_iff (by simp)).symm
  simp only [Captures, hleftmost, capture?_eq_map]
  cases pattern.firstGroup? t with
  | error fault => simp [Except.map]
  | ok found =>
    cases found with
    | none => simp [Except.map]
    | some capture =>
      simp only [Except.map, Option.map_some, Except.ok.injEq, Option.filter_eq_some_iff,
        Option.some.injEq, Bool.not_eq_true', List.isEmpty_eq_false_iff]
      constructor
      · rintro ⟨rfl, hne⟩
        exact ⟨hne, capture, rfl, rfl⟩
      · rintro ⟨hne, other, rfl, rfl⟩
        exact ⟨rfl, hne⟩

/-- A search has no outcome exactly if the leftmost match has a group that ends too early. -/
theorem capture?_eq_error_iff {pattern : Pattern} {t : Text} :
    pattern.capture? t = .error .spanReversed ↔ pattern.Breaks t := by
  have hleftmost : pattern.Breaks t ↔ ∃ fault, pattern.firstGroup? t = .error fault :=
    exists_congr fun fault => (firstGroup?_eq_iff (by simp)).symm
  rw [hleftmost, capture?_eq_map]
  cases pattern.firstGroup? t with
  | error fault =>
    cases fault
    exact ⟨fun _ => ⟨_, rfl⟩, fun _ => rfl⟩
  | ok found => simp [Except.map]

/-- A search whose outcome is nothing neither captures a word nor breaks. -/
theorem capture?_eq_none_iff {pattern : Pattern} {t : Text} :
    pattern.capture? t = .ok none ↔ (∀ word, ¬ pattern.Captures t word) ∧ ¬ pattern.Breaks t := by
  simp only [← capture?_eq_some_iff, ← capture?_eq_error_iff]
  cases pattern.capture? t with
  | error fault => cases fault; simp
  | ok found => cases found <;> simp

/-- The search with an orderly pattern always has an outcome. -/
theorem not_breaks_of_isOrderly {pattern : Pattern} (h : pattern.body.isOrderly []) (t : Text) :
    ¬ pattern.Breaks t := by
  rintro ⟨fault, n, -, houtcome, -⟩
  simp [outcomeAt, h] at houtcome

end DockCheck.Pattern
