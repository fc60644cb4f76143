import DockCheck.Yaml.Node
import DockCheck.Yaml.Scalar

/-!
# Values of YAML graphs

`Graph.fault?` looks for the first fault of a graph in the order in which its values are made: a
collection is made empty at first, and filled when it is its turn.  `Graph.data` gives the value of
a graph without faults.
-/

namespace DockCheck.Yaml

/-- Is the node a mapping? -/
def Node.isMapping : Node → Bool
  | mapping _ _ => true
  | _ => false

/-- Does the tag stand for a collection, which is made empty at first? -/
def Tag.isCollection : Tag → Bool
  | .sequence | .mapping | .set | .orderedMap | .pairs => true
  | _ => false

namespace Graph

/-- The number of nodes. -/
def size (graph : Graph) : Nat := graph.nodes.length

/-- What a node stands for. -/
def tagOf (graph : Graph) (n : Nat) : Tag := ((graph.node? n).map Node.tag).getD .unknown

/-- Is it a mapping? -/
def isMapping (graph : Graph) (n : Nat) : Bool := (graph.node? n).any Node.isMapping

/-! ### Merging -/

/-- The entries of a mapping, with those of the mappings that it takes over in front.  Of a sequence
of mappings the first comes last, so that its entries count.  A mapping that takes itself over, by
way of those in `busy`, adds its own entries only.  Each mapping is busy at most once, so that
`fuel` need not be more than the number of nodes. -/
def mergedEntries (graph : Graph) : (fuel : Nat) → (busy : List Nat) → Nat →
    Except Fault (List (Nat × Nat))
  | 0, _, _ => .ok []
  | fuel + 1, busy, n =>
    match graph.node? n with
    | some (.mapping _ entries) => do
      let own := entries.filter fun entry => graph.tagOf entry.1 != .merge
      if busy.contains n then return own
      let merges := entries.filter fun entry => graph.tagOf entry.1 == .merge
      let taken ← merges.mapM fun entry =>
        match graph.node? entry.2 with
        | some (.mapping _ _) => mergedEntries graph fuel (n :: busy) entry.2
        | some (.sequence _ items) =>
          if items.all graph.isMapping then
            (items.reverse.mapM (mergedEntries graph fuel (n :: busy))).map List.flatten
          else .error .malformed
        | _ => .error .malformed
      return taken.flatten ++ own
    | _ => .error .malformed

/-- The entries of a mapping with those that it takes over. -/
def entriesOf (graph : Graph) (n : Nat) : Except Fault (List (Nat × Nat)) :=
  graph.mergedEntries (graph.size + 1) [] n

/-! ### Scalars -/

/-- The content of a scalar, or of the scalar that a mapping has as its value as a whole. -/
def contentOf (graph : Graph) : (fuel : Nat) → Nat → Except Fault Text
  | 0, _ => .error .malformed
  | fuel + 1, n =>
    match graph.node? n with
    | some (.scalar _ content) => .ok content
    | some (.mapping _ entries) =>
      match entries.find? fun entry => graph.tagOf entry.1 == .value with
      | some (_, value) => contentOf graph fuel value
      | none => .error .malformed
    | _ => .error .malformed

/-- The value of a node that stands for a scalar. -/
def scalarOf (graph : Graph) (n : Nat) : Except Fault Data := do
  scalarData (graph.tagOf n) (← graph.contentOf (graph.size + 1) n)

/-! ### Faults -/

/-- The search for faults: the nodes that have been made, and the collections that are to be
filled. -/
structure Search where
  made : List Nat
  waiting : List Nat
  deriving DecidableEq, Repr

/-- Makes a node, unless that has been done. -/
def make (graph : Graph) (search : Search) (n : Nat) : Except Fault Search :=
  if search.made.contains n then .ok search
  else if (graph.tagOf n).isCollection then .ok ⟨n :: search.made, search.waiting ++ [n]⟩
  else (graph.scalarOf n).map fun _ => { search with made := n :: search.made }

/-- Makes the key of an entry.  A collection cannot be a key, and the sign for the value of a
mapping as a whole is a text as a key. -/
def makeKey (graph : Graph) (search : Search) (n : Nat) : Except Fault Search :=
  let tag := graph.tagOf n
  if tag == .value then .ok { search with made := n :: search.made }
  else if tag.isCollection then .error .malformed
  else graph.make search n

/-- Makes the key and the value of an entry. -/
def makeEntry (graph : Graph) (search : Search) (entry : Nat × Nat) : Except Fault Search := do
  graph.make (← graph.makeKey search entry.1) entry.2

/-- Makes the only entry of a mapping that is an item of an ordered mapping. -/
def makeSingle (graph : Graph) (search : Search) (n : Nat) : Except Fault Search :=
  match graph.node? n with
  | some (.mapping _ [(key, value)]) => do graph.make (← graph.make search key) value
  | _ => .error .malformed

/-- Fills a collection. -/
def fill (graph : Graph) (search : Search) (n : Nat) : Except Fault Search :=
  match graph.tagOf n, graph.node? n with
  | .sequence, some (.sequence _ items) => items.foldlM graph.make search
  | .orderedMap, some (.sequence _ items) => items.foldlM graph.makeSingle search
  | .pairs, some (.sequence _ items) => items.foldlM graph.makeSingle search
  | .mapping, some (.mapping _ _) => do (← graph.entriesOf n).foldlM graph.makeEntry search
  | .set, some (.mapping _ _) => do (← graph.entriesOf n).foldlM graph.makeEntry search
  | _, _ => .error .malformed

/-- Fills the collections that wait, one after the other.  Each waits once, so that `fuel` need not
be more than the number of nodes. -/
def fillAll (graph : Graph) : (fuel : Nat) → Search → Except Fault Unit
  | 0, _ => .ok ()
  | fuel + 1, search =>
    match search.waiting with
    | [] => .ok ()
    | n :: waiting => do fillAll graph fuel (← graph.fill { search with waiting := waiting } n)

/-- Looks for the first fault of a graph. -/
def check (graph : Graph) : Except Fault Unit :=
  match graph.top with
  | none => .ok ()
  | some n => do graph.fillAll (graph.size + 1) (← graph.make ⟨[], []⟩ n)

/-! ### Values -/

/-- The value of a node, given those of its parts. -/
def valueOf (graph : Graph) (known : List (Nat × Data)) (n : Nat) (node : Node) : Data :=
  let part (m : Nat) : Data := (known.lookup m).getD .null
  let keyText (m : Nat) : Option Text :=
    match graph.node? m, part m with
    | some (.scalar .value content), _ => some content
    | _, .text t => some t
    | _, _ => none
  match node.tag, node with
  | .sequence, .sequence _ items => .list (items.map part)
  | .mapping, .mapping _ _ =>
    let entries := (graph.entriesOf n).toOption.getD []
    .table (entries.foldl
      (fun table entry =>
        match keyText entry.1 with
        | some key => putEntry key (part entry.2) table
        | none => table) [])
  | .set, .mapping _ _ =>
    let members := ((graph.entriesOf n).toOption.getD []).map fun entry => part entry.1
    .bag (members.eraseDupsBy fun a b => a.quoted == b.quoted)
  | .orderedMap, .sequence _ items => .list (items.map fun _ => .other "()")
  | .pairs, .sequence _ items => .list (items.map fun _ => .other "()")
  | _, _ => (graph.scalarOf n).toOption.getD .null

/-- The parts of a node. -/
def partsOf : Node → List Nat
  | .scalar _ _ => []
  | .sequence _ items => items
  | .mapping _ entries => entries.flatMap fun entry => [entry.1, entry.2]

/-- Does every node come after its parts? -/
def isOrdered : List (Nat × Node) → Bool
  | [] => true
  | (_, node) :: earlier =>
    (partsOf node).all (fun n => (earlier.lookup n).isSome) && isOrdered earlier

/-- The depth to which values are unrolled: more than once only if some contain themselves. -/
def unrolling (graph : Graph) : Nat := if isOrdered graph.nodes then 1 else 6

/-- The values of all nodes, each after those of its parts.  Where a part is a node around it, its
value is the one from `known`. -/
def valuesFrom (graph : Graph) (known : List (Nat × Data)) : List (Nat × Data) :=
  graph.nodes.foldr
    (fun entry known => (entry.1, graph.valueOf known entry.1 entry.2) :: known) known

/-- The values of all nodes, those that contain themselves unrolled `depth` times. -/
def values (graph : Graph) : (depth : Nat) → List (Nat × Data)
  | 0 => []
  | depth + 1 => graph.valuesFrom (graph.values depth)

/-- The value of a graph without faults. -/
def data (graph : Graph) : Data :=
  match graph.top with
  | none => .null
  | some n => ((graph.values graph.unrolling).lookup n).getD .null

end Graph

end DockCheck.Yaml
