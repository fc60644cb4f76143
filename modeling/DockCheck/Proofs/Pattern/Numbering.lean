import DockCheck.Proofs.Pattern.Reading
import Mathlib.Data.List.Basic

/-!
# The numbers of groups

A pattern is read with the number of its groups.  The main statement, `compile_groupNumbers`, says
that these are the groups of the tree, numbered from 1 on in the order in which they begin.

What has been read is `Numbered` by the groups that began in the course of it.  The parts in common
that alternatives give up, and the characters that a set replaces, hold no groups
(`Part.IsPlain`), so that putting alternatives together keeps the numbers.
-/

namespace DockCheck.Pattern

/-- The numbers of the groups in a node, in the order in which the groups begin. -/
@[simp]
def Node.groupNumbers : Node → List Nat
  | .empty => []
  | .char _ => []
  | .anchor _ => []
  | .seq first second => first.groupNumbers ++ second.groupNumbers
  | .alt first second => first.groupNumbers ++ second.groupNumbers
  | .group number body => number :: body.groupNumbers
  | .backref _ _ => []
  | .run _ _ _ _ => []
  | .times _ _ _ body => body.groupNumbers
  | .atomic body => body.groupNumbers
  | .look _ _ body => body.groupNumbers
  | .cond _ yes no => yes.groupNumbers ++ no.groupNumbers

/-- The numbers of the groups in a sequence of parts. -/
def numbersOf (parts : List Part) : List Nat := parts.flatMap fun part => part.node.groupNumbers

/-- A part for one place or one character holds no groups. -/
def Part.IsPlain (part : Part) : Prop :=
  part.kind = .anchor ∨ part.kind = .unit → part.node.groupNumbers = []

@[simp]
lemma Part.isPlain_repetition (node : Node) (width : Width) :
    (Part.mk node width .repetition).IsPlain := by
  simp [IsPlain]

@[simp]
lemma Part.isPlain_other (node : Node) (width : Width) : (Part.mk node width .other).IsPlain := by
  simp [IsPlain]

/-- The parts hold the groups that began when there were `n` already, up to the last of `k`, each
with its number. -/
structure Numbered (n k : Nat) (parts : List Part) : Prop where
  numbers : ∃ count, k = n + count ∧ numbersOf parts = List.range' (n + 1) count
  plain : ∀ part ∈ parts, part.IsPlain

section Parts

variable {n m k : Nat} {parts others : List Part} {part : Part}

@[simp]
lemma numbersOf_nil : numbersOf [] = [] := rfl

@[simp]
lemma numbersOf_cons (part : Part) (parts : List Part) :
    numbersOf (part :: parts) = part.node.groupNumbers ++ numbersOf parts := rfl

@[simp]
lemma numbersOf_append (parts others : List Part) :
    numbersOf (parts ++ others) = numbersOf parts ++ numbersOf others :=
  List.flatMap_append

@[simp]
lemma groupNumbers_nodeOf (parts : List Part) : (nodeOf parts).groupNumbers = numbersOf parts := by
  fun_induction nodeOf parts with
  | case1 => rfl
  | case2 part => simp
  | case3 part parts hne ih => simp [ih]

/-- A repetition holds the groups of what it repeats. -/
lemma groupNumbers_repetition (greed : Greed) (low : Nat) (high : Option Nat) (body : Node) :
    (body.repetition greed low high).groupNumbers = body.groupNumbers := by
  cases body <;> rfl

lemma Numbered.nil (n : Nat) : Numbered n n [] := ⟨⟨0, rfl, rfl⟩, by simp⟩

lemma Numbered.append (h : Numbered n m parts) (h' : Numbered m k others) :
    Numbered n k (parts ++ others) := by
  obtain ⟨⟨first, rfl, hfirst⟩, hplain⟩ := h
  obtain ⟨⟨second, rfl, hsecond⟩, hplain'⟩ := h'
  refine ⟨⟨first + second, by omega, ?_⟩, ?_⟩
  · have hstart : n + first + 1 = n + 1 + first := by omega
    rw [numbersOf_append, hfirst, hsecond, hstart, List.range'_append_1]
  · rintro part hmem
    rcases List.mem_append.mp hmem with hmem | hmem
    · exact hplain part hmem
    · exact hplain' part hmem

/-- The groups of several parts can be those of one. -/
lemma Numbered.gather (front : List Part) (h : Numbered n k (front ++ parts))
    (hnumbers : part.node.groupNumbers = numbersOf parts) (hplain : part.IsPlain) :
    Numbered n k (front ++ [part]) := by
  refine ⟨by simpa [hnumbers] using h.numbers, ?_⟩
  rintro other hmem
  rcases List.mem_append.mp hmem with hmem | hmem
  · exact h.plain other (List.mem_append_left parts hmem)
  · rwa [List.mem_singleton.mp hmem]

lemma Numbered.single (h : Numbered n k parts) (hnumbers : part.node.groupNumbers = numbersOf parts)
    (hplain : part.IsPlain) : Numbered n k [part] :=
  gather [] h hnumbers hplain

/-- Parts without groups begin none. -/
lemma Numbered.of_groupNumbers_eq_nil (h : ∀ part ∈ parts, part.node.groupNumbers = []) :
    Numbered n n parts :=
  ⟨⟨0, rfl, List.flatMap_eq_nil_iff.mpr h⟩, fun part hmem _ => h part hmem⟩

lemma Numbered.leaf (h : part.node.groupNumbers = []) : Numbered n n [part] :=
  of_groupNumbers_eq_nil (by simpa using h)

/-- A group with the next number comes before those in it. -/
lemma Numbered.group (h : Numbered (n + 1) k parts) (width : Width) :
    Numbered n k [⟨.group (n + 1) (nodeOf parts), width, .other⟩] := by
  obtain ⟨⟨count, rfl, hcount⟩, -⟩ := h
  refine ⟨⟨count + 1, by omega, ?_⟩, by simp⟩
  simp [hcount, List.range'_succ]

end Parts

/-! ### Alternatives -/

section Alternatives

variable {n k : Nat} {alternatives : List (List Part)} {parts : List Part} {part : Part}

/-- A part that can be taken out of an alternative holds no groups. -/
lemma groupNumbers_of_commonPart? (h : commonPart? parts = some part)
    (hplain : ∀ part ∈ parts, part.IsPlain) : part.node.groupNumbers = [] := by
  unfold commonPart? at h
  split at h
  · split at h
    · next hkind =>
      cases h
      exact hplain part List.mem_cons_self (by simpa using hkind)
    · cases h
  · cases h

/-- A part without groups with which all alternatives begin can be left out. -/
lemma numbersOf_flatten_tails (hpart : part.node.groupNumbers = [])
    (hhead : ∀ alternative ∈ alternatives, alternative.head? = some part) :
    numbersOf (alternatives.map List.tail).flatten = numbersOf alternatives.flatten := by
  induction alternatives with
  | nil => rfl
  | cons alternative alternatives ih =>
    obtain ⟨tail, rfl⟩ := List.head?_eq_some_iff.mp (hhead alternative List.mem_cons_self)
    have htails := ih fun other hmem => hhead other (List.mem_cons_of_mem _ hmem)
    simp [hpart, htails]

/-- What alternatives have in common holds no groups, and what is left of them holds all. -/
lemma numbersOf_factor (fuel : Nat) (hplain : ∀ part ∈ alternatives.flatten, part.IsPlain) :
    (∀ part ∈ (factor fuel alternatives).1, part.node.groupNumbers = [])
      ∧ numbersOf (factor fuel alternatives).2.flatten = numbersOf alternatives.flatten := by
  fun_induction factor fuel alternatives with
  | case1 => simp
  | case2 => simp
  | case3 fuel alternatives part hcommon hall parts others hfactor ih =>
    obtain ⟨first, hfirst, hpart⟩ := Option.bind_eq_some_iff.mp hcommon
    have hmem : first ∈ alternatives := List.mem_of_mem_head? hfirst
    have hnone : part.node.groupNumbers = [] :=
      groupNumbers_of_commonPart? hpart fun p hp =>
        hplain p (List.mem_flatten_of_mem hmem hp)
    have htails : numbersOf (alternatives.map List.tail).flatten = numbersOf alternatives.flatten :=
      numbersOf_flatten_tails hnone (by simpa using hall)
    rw [hfactor, htails] at ih
    obtain ⟨hparts, hothers⟩ := ih fun p hp => by
      obtain ⟨tail, htail, hp⟩ := List.mem_flatten.mp hp
      obtain ⟨alternative, halternative, rfl⟩ := List.mem_map.mp htail
      exact hplain p (List.mem_flatten_of_mem halternative (List.mem_of_mem_tail hp))
    exact ⟨by simpa using ⟨hnone, hparts⟩, hothers⟩
  | case4 => simp

/-- An alternative that amounts to a set holds no groups. -/
lemma numbersOf_of_listedItems? {items : List SetItem} (h : listedItems? parts = some items) :
    numbersOf parts = [] := by
  unfold listedItems? at h
  split at h
  · rfl
  · rfl
  · cases h

lemma numbersOf_of_mapM_listedItems? {items : List (List SetItem)}
    (h : alternatives.mapM listedItems? = some items) : numbersOf alternatives.flatten = [] := by
  induction alternatives generalizing items with
  | nil => rfl
  | cons alternative alternatives ih =>
    rw [List.mapM_cons] at h
    obtain ⟨first, hfirst, h⟩ := Option.bind_eq_some_iff.mp h
    obtain ⟨rest, hrest, -⟩ := Option.bind_eq_some_iff.mp h
    simp [numbersOf_of_listedItems? hfirst, ih hrest]

lemma groupNumbers_alternatively (alternatives : List (List Part)) :
    (alternatively alternatives).groupNumbers = numbersOf alternatives.flatten := by
  fun_induction alternatively alternatives with
  | case1 => rfl
  | case2 parts first second h =>
    rw [List.flatten_singleton, ← groupNumbers_nodeOf, h]
    rfl
  | case3 parts => simp
  | case4 parts others hne ih => simp [ih]

/-- Putting alternatives together keeps the groups. -/
lemma Numbered.alternation (h : Numbered n k alternatives.flatten) (casing : Casing) :
    Numbered n k (alternation casing alternatives) := by
  unfold Pattern.alternation
  split
  · simpa using h
  · have hfactor := numbersOf_factor alternatives.flatten.length h.plain
    generalize factor alternatives.flatten.length alternatives = found at hfactor
    obtain ⟨common, others⟩ := found
    obtain ⟨hcommon, hothers⟩ := hfactor
    dsimp only
    split
    · next items hitems =>
      refine (Numbered.of_groupNumbers_eq_nil hcommon).append (h.single ?_ fun _ => rfl)
      rw [← hothers, numbersOf_of_mapM_listedItems? hitems]
      rfl
    · refine (Numbered.of_groupNumbers_eq_nil hcommon).append (h.single ?_ (by simp))
      rw [groupNumbers_alternatively, hothers]

end Alternatives

/-! ### Pieces -/

lemma partsOf_cons (piece : Piece) (pieces : List Piece) :
    partsOf (piece :: pieces) = partsOf pieces ++ piece.parts := by
  simp [partsOf]

namespace Reading

variable {n m : Nat}

/-- A part that stands for an escape holds no groups. -/
lemma counts_partOfMeaning (options : Options) (meaning : Meaning) :
    Counts n (partOfMeaning options meaning) fun part k => Numbered n k [part] := by
  cases meaning with
  | code code => exact .pure (.leaf rfl)
  | kind kind negated => exact .pure (.leaf rfl)
  | anchor place => exact .pure (.leaf rfl)
  | group number => exact .get fun _ _ => .pure (.leaf rfl)

lemma counts_readSet (options : Options) (start : Nat) :
    Counts n (readSet options start) fun part k => Numbered n k [part] := by
  refine (keeps_accept _).bind fun _ => .get fun _ _ => ?_
  refine (keeps_readSetItems _ _ _ _).bind fun _ => ?_
  split <;> exact .pure (.leaf rfl)

/-- Repeating the latest piece keeps the groups. -/
lemma counts_repeatLatest (options : Options) (bounds : Bounds) (place : Nat) {pieces : List Piece}
    (h : Numbered n m (partsOf pieces)) :
    Counts m (repeatLatest options bounds place pieces) fun found k =>
      Numbered n k (partsOf found) := by
  cases pieces with
  | nil => exact .failAt _ _
  | cons piece pieces =>
    rw [partsOf_cons] at h
    unfold repeatLatest
    dsimp -zeta only
    split
    · exact .failAt _ _
    · exact .failAt _ _
    refine keeps_readGreed.bind fun greed => ?_
    extract_lets node width finish
    have hfinish : ∀ u, Counts m (finish u) fun found k => Numbered n k (partsOf found) := by
      intro u
      refine .pure ?_
      rw [partsOf_cons]
      refine h.gather _ ?_ (by simp)
      simp [node, groupNumbers_repetition]
    split
    · exact (keeps_putAside _ _).bind hfinish
    · exact hfinish ()

/-! ### Bodies -/

/-- The groups that have begun are those of the piece, if there is one. -/
def NumberedPiece (n : Nat) (piece : Option Piece) (k : Nat) : Prop :=
  Numbered n k (piece.elim [] Piece.parts)

/-- With so much fuel, the groups that begin in the course of reading parts are those of what has
been read. -/
structure CountsParts (fuel : Nat) : Prop where
  body (n : Nat) (own : Option Options) (opening : Bool) :
    Counts n (readBody fuel own opening) fun parts k => Numbered n k parts
  alternatives (n : Nat) (own : Option Options) (opening : Bool) :
    Counts n (readAlternatives fuel own opening) fun alternatives k =>
      Numbered n k alternatives.flatten
  pieces (n m : Nat) (own : Option Options) (opening : Bool) (pieces : List Piece)
    (h : Numbered n m (partsOf pieces)) :
    Counts m (readPieces fuel own opening pieces) fun found k => Numbered n k (partsOf found)
  group (n : Nat) (options : Options) (start : Nat) (opening : Bool) :
    Counts n (readGroup fuel options start opening) (NumberedPiece n)

variable {fuel : Nat}

lemma CountsParts.body_succ (h : CountsParts fuel) (n : Nat) (own : Option Options)
    (opening : Bool) :
    Counts n (readBody (fuel + 1) own opening) fun parts k => Numbered n k parts := by
  unfold readBody
  refine (h.alternatives n own opening).bind fun alternatives k hk => ?_
  refine .get fun progress hprogress => .pure ?_
  exact hk.alternation _

lemma CountsParts.alternatives_succ (h : CountsParts fuel) (n : Nat) (own : Option Options)
    (opening : Bool) :
    Counts n (readAlternatives (fuel + 1) own opening) fun alternatives k =>
      Numbered n k alternatives.flatten := by
  unfold readAlternatives
  refine (h.pieces n n own opening [] (.nil n)).bind fun pieces m hpieces => ?_
  refine (keeps_accept _).bind fun _ => ?_
  split
  · refine (h.alternatives m own false).bind fun alternatives k halternatives => .pure ?_
    exact hpieces.append halternatives
  · exact .pure (by simpa using hpieces)

lemma CountsParts.pieces_succ (h : CountsParts fuel) {n m : Nat} (own : Option Options)
    (opening : Bool) {pieces : List Piece} (hpieces : Numbered n m (partsOf pieces)) :
    Counts m (readPieces (fuel + 1) own opening pieces) fun found k =>
      Numbered n k (partsOf found) := by
  unfold readPieces
  refine .get fun progress _ => ?_
  extract_lets options start next
  split
  · exact .pure hpieces
  split
  · exact .pure hpieces
  refine keeps_take.bind fun _ => ?_
  have hpiece : ∀ piece k, Numbered m k piece.parts →
      Counts k (readPieces fuel own opening (piece :: pieces)) fun found k =>
        Numbered n k (partsOf found) := by
    intro piece k hk
    refine h.pieces n k own opening _ ?_
    rw [partsOf_cons]
    exact hpieces.append hk
  split
  · exact h.pieces n m own opening pieces hpieces
  split
  · exact .get fun _ _ => (keeps_skipLine _).bind fun _ => h.pieces n m own opening pieces hpieces
  have hnext : ∀ part k, Numbered m k [part] → Counts k (next part) fun found k =>
      Numbered n k (partsOf found) := fun part k => hpiece (.single start part) k
  have hplain : ∀ part : Part, part.node.groupNumbers = [] → Counts m (next part) fun found k =>
      Numbered n k (partsOf found) :=
    fun part hpart => hnext part m (.leaf hpart)
  split
  · exact (keeps_readEscape _ _).bind fun _ => (counts_partOfMeaning _ _).bind hnext
  · exact .fail _ _
  · exact (counts_readSet _ _).bind hnext
  · refine (h.group m options start _).bind fun piece k hk => ?_
    cases piece with
    | none => exact h.pieces n k own opening pieces (by simpa using hpieces.append hk)
    | some piece => exact hpiece piece k hk
  · exact hplain _ rfl
  · exact hplain _ rfl
  · exact hplain _ rfl
  · extract_lets own'
    have hown : own'.node.groupNumbers = [] := rfl
    split
    · refine (keeps_readBounds _).bind fun _ => ?_
      split
      · refine (counts_repeatLatest _ _ _ hpieces).bind fun found k hfound => ?_
        exact h.pieces n k own opening found hfound
      · exact hplain _ hown
    · exact hplain _ hown

lemma CountsParts.group_succ (h : CountsParts fuel) (n : Nat) (options : Options) (start : Nat)
    (opening : Bool) :
    Counts n (readGroup (fuel + 1) options start opening) (NumberedPiece n) := by
  unfold readGroup
  refine (keeps_readOpening start).bind fun found => ?_
  cases found <;> dsimp -zeta only
  case comment => exact .pure (.nil n)
  case options on =>
    refine Keeps.bind (.modify fun _ => rfl) fun _ => ?_
    split
    · exact .pure (.nil n)
    · exact .failAt _ _
  case reference group =>
    exact (counts_partOfMeaning _ _).bind fun part k hk => .pure hk
  case look behind negated =>
    -- A lookbehind notes where its groups begin; what follows is the same for both directions.
    refine .get fun progress hgroups => ?_
    extract_lets outer finish
    have hfinish : ∀ u, Counts n (finish u) (NumberedPiece n) := by
      intro u
      refine (h.body n (some options) false).bind fun body k hbody => ?_
      refine Keeps.bind (.modify fun _ => rfl) fun _ => (keeps_close _).bind fun _ => ?_
      have hpiece : ∀ back width, NumberedPiece n
          (some (.single start ⟨.look back negated (nodeOf body), width, .other⟩)) k :=
        fun back width => hbody.single (by simp) (by simp)
      split
      · exact Keeps.bind (.map (keeps_backOf _ _)) fun _ => .pure (hpiece _ _)
      · exact Keeps.bind (.pure rfl) fun _ => .pure (hpiece _ _)
    split
    · exact Keeps.bind (.modify fun _ => rfl) hfinish
    · exact hfinish ()
  case condition group =>
    refine (h.pieces n n (some options) false [] (.nil n)).bind fun pieces m hpieces => ?_
    extract_lets yes finish
    refine (keeps_accept _).bind fun _ => ?_
    have hfinish : ∀ no k, Numbered m k no → Counts k (finish no) (NumberedPiece n) := by
      intro no k hno
      refine (keeps_close _).bind fun _ => .pure ?_
      exact (hpieces.append hno).single (by simp [yes]) (by simp)
    split
    · refine (h.pieces m m (some options) false [] (.nil m)).bind fun others k hno => ?_
      extract_lets no
      refine keeps_peek.bind fun _ => ?_
      split
      · exact .of_fails fun _ => .fail _ _
      · exact hfinish _ _ hno
    · exact hfinish _ _ (.nil m)
  case body capture name atomic on off =>
    -- The body follows, within a group that has just begun or within none.
    extract_lets finish
    have hcaptured : Counts (n + 1) (finish (some (n + 1))) (NumberedPiece n) := by
      refine (h.body _ _ _).bind fun body k hbody => (keeps_close _).bind fun _ => ?_
      exact Keeps.bind (.modify fun _ => rfl) fun _ => .pure (hbody.group _)
    have hnone : Counts n (finish none) (NumberedPiece n) := by
      refine (h.body _ _ _).bind fun body k hbody => (keeps_close _).bind fun _ => ?_
      dsimp only
      split
      · exact .pure (hbody.single (by simp) (by simp))
      split
      · exact .pure hbody
      · exact .pure (hbody.single (by simp) (by simp))
    split
    · rw [bind_map_left]
      refine (counts_beginGroup name).bind ?_
      rintro _ _ ⟨rfl, rfl⟩
      exact hcaptured
    · rw [pure_bind]
      exact hnone

/-- However much fuel there is, what has been read holds the groups that have begun. -/
lemma countsParts (fuel : Nat) : CountsParts fuel := by
  induction fuel with
  | zero =>
    exact
      { body := fun _ _ _ => .fail _ _
        alternatives := fun _ _ _ => .fail _ _
        pieces := fun _ _ _ _ _ _ => .fail _ _
        group := fun _ _ _ _ => .fail _ _ }
  | succ fuel ih =>
    exact
      { body := ih.body_succ
        alternatives := ih.alternatives_succ
        pieces := fun _ _ own opening _ h => ih.pieces_succ own opening h
        group := ih.group_succ }

/-- The groups of a whole pattern are numbered from 1 up to their number. -/
def Numbers (found : Node × Nat) (_ : Nat) : Prop :=
  found.1.groupNumbers = List.range' 1 found.2

lemma counts_readPattern : Counts 0 readPattern Numbers := by
  unfold readPattern
  refine keeps_refuseLone.bind fun _ => .get fun before _ => ?_
  refine ((countsParts _).body 0 none true).bind fun body k hbody => ?_
  refine .get fun progress hprogress => ?_
  extract_lets result address aside asked rest
  have hresult : ∀ u, Counts k (result u) Numbers := by
    intro u
    obtain ⟨⟨count, hcount, hnumbers⟩, -⟩ := hbody
    refine .pure ?_
    rw [Numbers, groupNumbers_nodeOf, hnumbers, hprogress, hcount, Nat.zero_add, Nat.zero_add]
  -- Each check stops or goes on to the next one.
  have haddress : ∀ u, Counts k (address u) Numbers := by
    intro u
    dsimp only [address]
    split
    · exact .of_fails fun _ => .throw _
    · exact hresult ()
  have haside : ∀ u, Counts k (aside u) Numbers := by
    intro u
    dsimp only [aside]
    split
    · exact .of_fails fun _ => .throw _
    · exact haddress ()
  have hasked : ∀ u, Counts k (asked u) Numbers := by
    intro u
    dsimp only [asked]
    split
    · exact .of_fails fun _ => .failAt _ _
    · exact haside ()
  have hrest : ∀ u, Counts k (rest u) Numbers := by
    intro u
    dsimp only [rest]
    split
    · exact .of_fails fun _ => .fail _ _
    · exact hasked ()
  split
  · exact .of_fails fun _ => .throw _
  · exact hrest ()

end Reading

/-- The groups of a pattern are numbered from 1 on, in the order in which they begin. -/
theorem compile_groupNumbers {source : Text} {body : Node} {groups : Nat}
    (h : compile source = .ok (body, groups)) : body.groupNumbers = List.range' 1 groups := by
  unfold compile at h
  cases hread : Reading.readPattern.run ⟨symbols source, 0, {}, 0, [], [], none, [], [], false⟩ with
  | error fault =>
    rw [hread] at h
    cases h
  | ok found =>
    obtain ⟨found, reached⟩ := found
    rw [hread] at h
    cases h
    exact Reading.counts_readPattern _ _ _ rfl hread

end DockCheck.Pattern
