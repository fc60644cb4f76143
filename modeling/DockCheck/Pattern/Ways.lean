/-!
# Ways to match

A pattern can match at one place in several ways, and which of them counts is decided by the
order in which they are tried.  `Ways` is that order as a value: an enumeration whose later
members are computed only when they are asked for.  Its view is the list of its members,
`Ways.toList`, and every operation says what it does to the view.
-/

namespace DockCheck.Pattern

/-- Values in the order in which they are tried, each computed when it is asked for. -/
inductive Ways (α : Type) where
  | none
  | some (head : α) (tail : Unit → Ways α)

namespace Ways

variable {α β : Type}

/-- The values, in order. -/
def toList : Ways α → List α
  | none => []
  | some head tail => head :: (tail ()).toList

/-- The first value. -/
def first? : Ways α → Option α
  | none => Option.none
  | some head _ => Option.some head

/-- One value. -/
def single (a : α) : Ways α := some a fun _ => none

/-- The given values. -/
def ofList : List α → Ways α
  | [] => none
  | a :: rest => some a fun _ => ofList rest

/-- The values of `ways`, and after them those of `others`. -/
def append : Ways α → (Unit → Ways α) → Ways α
  | none, others => others ()
  | some head tail, others => some head fun _ => append (tail ()) others

/-- For each value of `ways` in turn, the values that `next` gives for it. -/
def bind : Ways α → (α → Ways β) → Ways β
  | none, _ => none
  | some head tail, next => append (next head) fun _ => bind (tail ()) next

/-- The first value alone, if there is one. -/
def commit : Ways α → Ways α
  | none => none
  | some head _ => single head

@[simp] theorem toList_none : (none : Ways α).toList = [] := rfl

@[simp] theorem toList_some (a : α) (tail : Unit → Ways α) :
    (some a tail).toList = a :: (tail ()).toList := rfl

@[simp] theorem toList_single (a : α) : (single a).toList = [a] := rfl

@[simp] theorem toList_ofList (l : List α) : (ofList l).toList = l := by
  induction l with
  | nil => rfl
  | cons a rest ih => simp [ofList, ih]

@[simp] theorem toList_append (ways : Ways α) (others : Unit → Ways α) :
    (append ways others).toList = ways.toList ++ (others ()).toList := by
  induction ways with
  | none => rfl
  | some head tail ih => simp [append, ih]

@[simp] theorem toList_bind (ways : Ways α) (next : α → Ways β) :
    (bind ways next).toList = ways.toList.flatMap fun a => (next a).toList := by
  induction ways with
  | none => rfl
  | some head tail ih => simp [bind, ih]

@[simp] theorem toList_commit (ways : Ways α) : (commit ways).toList = ways.toList.take 1 := by
  cases ways <;> rfl

theorem first?_eq_head? (ways : Ways α) : ways.first? = ways.toList.head? := by
  cases ways <;> rfl

end Ways

end DockCheck.Pattern
