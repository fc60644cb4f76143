import DockCheck.Pattern.Node

/-!
# Searching

`Node.ways` says in which ways a node matches.  `Node.find?` looks for the first of them from which
one can go on, without a list of them all: it is given what to do where a match ends, and tries the
next way where that comes to nothing.  `Node.search` finds the leftmost match.  The main statement,
`Node.find?_eq_findSome?`, says that the two agree.
-/

namespace DockCheck.Pattern

/-- A search for a match that begins at a spot, given what to do where it ends. -/
abbrev Finder := Spot → (Spot → Option Spot) → Option Spot

/-- Goes on by `body` exactly `n` times. -/
def findRepeated (body : Finder) : Nat → Finder
  | 0, spot, onward => onward spot
  | n + 1, spot, onward => body spot fun reached => findRepeated body n reached onward

/-- Goes on by `body` any number of times up to `bound`, as `repeatedMore` does. -/
def findMore (greed : Greed) (body : Finder) : (fuel : Nat) → (bound last : Option Nat) → Finder
  | 0, _, _, spot, onward => onward spot
  | fuel + 1, bound, last, spot, onward =>
    if bound == some 0 || last == some spot.position then onward spot
    else
      let further (reached : Spot) :=
        findMore greed body fuel (bound.map (· - 1)) (some spot.position) reached onward
      match greed with
      | .lazy => (onward spot).or (body spot further)
      | _ => (body spot further).or (onward spot)

/-- Goes on by `body` at least `low` times. -/
def findTimes (greed : Greed) (low : Nat) (high : Option Nat) (body : Finder) : Finder :=
  fun spot onward =>
    findRepeated body low spot fun reached =>
      findMore greed body (reached.ahead.length + 1) (high.map (· - low)) none reached onward

namespace Node

/-- Looks for the first way in which a node matches at a spot and from which one can go on. -/
def find? : Node → Finder
  | .empty, spot, onward => onward spot
  | .char test, spot, onward => (spot.step? test).bind onward
  | .anchor place, spot, onward => if spot.holds place then onward spot else none
  | .seq first second, spot, onward => first.find? spot fun reached => second.find? reached onward
  | .alt first second, spot, onward => (first.find? spot onward).or (second.find? spot onward)
  | .group number body, spot, onward =>
    body.find? spot fun reached => onward (Spot.capture spot number reached)
  | .backref number casing, spot, onward =>
    match spot.group? number with
    | none => none
    | some capture =>
      let word := capture.word
      if casing.agree word (spot.ahead.take word.length) then onward (spot.advance word.length)
      else none
  | .run greed low high test, spot, onward =>
    (greed.order ((spot.run test high).drop low)).findSome? onward
  | .times greed low high body, spot, onward =>
    match greed with
    | .possessive =>
      (findTimes .greedy low high (fun s onward => (body.find? s some).bind onward) spot some).bind
        onward
    | _ => findTimes greed low high body.find? spot onward
  | .atomic body, spot, onward => (body.find? spot some).bind onward
  | .look back negated body, spot, onward =>
    match (spot.back? (back.getD 0)).bind fun start => body.find? start some, negated with
    | some reached, false => onward { spot with groups := reached.groups }
    | none, true => onward spot
    | _, _ => none
  | .cond number yes no, spot, onward =>
    if (spot.group? number).isSome then yes.find? spot onward else no.find? spot onward

/-- The first way in which the node matches at the leftmost spot where it matches at all, among
the spot after `position` characters of the text and those after it. -/
def searchFrom (node : Node) (position : Nat) (behind : Text) : Text → Option Spot
  | [] => node.find? ⟨position, behind, [], []⟩ some
  | c :: rest =>
    match node.find? ⟨position, behind, c :: rest, []⟩ some with
    | some reached => some reached
    | none => node.searchFrom (position + 1) (c :: behind) rest

/-- The leftmost match of the node in a text. -/
def search (node : Node) (t : Text) : Option Spot := node.searchFrom 0 [] t

end Node

/-! ### Agreement with the ways -/

/-- A search among the members of several lists is one in each of them in turn. -/
theorem findSome?_flatMap {α β γ : Type} (l : List α) (f : α → List β) (g : β → Option γ) :
    (l.flatMap f).findSome? g = l.findSome? fun a => (f a).findSome? g := by
  induction l with
  | nil => rfl
  | cons a rest ih =>
    simp only [List.flatMap_cons, List.findSome?_append, List.findSome?_cons, ih]
    cases (f a).findSome? g <;> rfl

/-- Does a finder try the given ways, one after the other? -/
def Finder.Follows (finder : Finder) (ways : Spot → Ways Spot) : Prop :=
  ∀ spot onward, finder spot onward = (ways spot).toList.findSome? onward

namespace Finder.Follows

variable {body : Finder} {ways : Spot → Ways Spot}

/-- A finder that follows ways finds the first of them if one can always go on. -/
theorem first? (h : Follows body ways) (spot : Spot) : body spot some = (ways spot).first? := by
  rw [h, Ways.first?_eq_head?]
  cases (ways spot).toList <;> rfl

/-- To go on from the first way alone is to follow that. -/
theorem commit (h : Follows body ways) :
    Follows (fun spot onward => (body spot some).bind onward) fun spot => (ways spot).commit := by
  intro spot onward
  simp only [h.first?]
  cases ways spot <;> simp [Ways.first?, Ways.commit]

/-- A fixed number of repetitions follows the ways of its body. -/
theorem repeated (h : Follows body ways) (n : Nat) :
    Follows (findRepeated body n) (Pattern.repeated ways n) := by
  induction n with
  | zero => intro spot onward; simp [findRepeated, Pattern.repeated]
  | succ n ih =>
    intro spot onward
    simp only [findRepeated, Pattern.repeated, Ways.toList_bind, findSome?_flatMap, h spot]
    congr 1
    funext reached
    exact ih reached onward

/-- A repetition follows the ways of its body, however many times are left. -/
theorem more (h : Follows body ways) (greed : Greed) (fuel : Nat) (bound last : Option Nat) :
    Follows (findMore greed body fuel bound last) (repeatedMore greed ways fuel bound last) := by
  induction fuel generalizing bound last with
  | zero => intro spot onward; simp [findMore, repeatedMore]
  | succ fuel ih =>
    intro spot onward
    simp only [findMore, repeatedMore]
    split
    · simp
    · have further : body spot (fun reached =>
          findMore greed body fuel (bound.map (· - 1)) (some spot.position) reached onward)
          = ((ways spot).bind (repeatedMore greed ways fuel (bound.map (· - 1))
              (some spot.position))).toList.findSome? onward := by
        rw [h, Ways.toList_bind, findSome?_flatMap]
        congr 1
        funext reached
        exact ih _ _ reached onward
      cases greed <;> simp [further, List.findSome?_append, List.findSome?_cons] <;>
        cases onward spot <;> simp

/-- A repetition with a least number of times follows the ways of its body. -/
theorem times (h : Follows body ways) (greed : Greed) (low : Nat) (high : Option Nat) :
    Follows (findTimes greed low high body) (repeatedTimes greed low high ways) := by
  intro spot onward
  simp only [findTimes, repeatedTimes, Ways.toList_bind, findSome?_flatMap, h.repeated low spot]
  congr 1
  funext reached
  exact h.more greed _ _ _ reached onward

end Finder.Follows

/-- A node is searched by trying its ways one after the other. -/
theorem Node.find?_follows (node : Node) : Finder.Follows node.find? node.ways := by
  induction node with
  | empty => intro spot onward; simp [Node.find?, Node.ways]
  | char test =>
    intro spot onward
    simp only [Node.find?, Node.ways]
    cases spot.step? test <;> simp
  | anchor place =>
    intro spot onward
    simp only [Node.find?, Node.ways]
    split <;> simp
  | seq first second hf hs =>
    intro spot onward
    simp only [Node.find?, Node.ways, Ways.toList_bind, findSome?_flatMap, hf spot]
    congr 1
    funext reached
    exact hs reached onward
  | alt first second hf hs =>
    intro spot onward
    simp [Node.find?, Node.ways, hf spot, hs spot, List.findSome?_append]
  | group number body h =>
    intro spot onward
    simp [Node.find?, Node.ways, findSome?_flatMap, h spot]
  | backref number casing =>
    intro spot onward
    simp only [Node.find?, Node.ways]
    cases spot.group? number with
    | none => rfl
    | some capture =>
      dsimp only
      split <;> simp
  | run greed low high test => intro spot onward; simp [Node.find?, Node.ways]
  | times greed low high body h =>
    intro spot onward
    cases greed
    · exact h.times .greedy low high spot onward
    · exact h.times .lazy low high spot onward
    · exact (h.commit.times .greedy low high).commit spot onward
  | atomic body h => exact h.commit
  | look back negated body h =>
    intro spot onward
    simp only [Node.find?, Node.ways, h.first?]
    cases (spot.back? (back.getD 0)).bind fun start => (body.ways start).first? <;>
      cases negated <;> simp
  | cond number yes no hy hn =>
    intro spot onward
    simp only [Node.find?, Node.ways]
    split
    · exact hy spot onward
    · exact hn spot onward

/-- A search for a way from which one can go on tries the ways in their order. -/
theorem Node.find?_eq_findSome? (node : Node) (spot : Spot) (onward : Spot → Option Spot) :
    node.find? spot onward = (node.ways spot).toList.findSome? onward :=
  node.find?_follows spot onward

/-- The first match at a spot is the first of the ways there. -/
theorem Node.find?_some (node : Node) (spot : Spot) :
    node.find? spot some = (node.ways spot).first? :=
  node.find?_follows.first? spot

end DockCheck.Pattern
