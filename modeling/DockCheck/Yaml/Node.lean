import DockCheck.Yaml.Lexer
import DockCheck.Yaml.Tag

/-!
# From YAML tokens to nodes

The tokens of a document describe a graph: an alias stands for the very node that has the anchor,
which may be a node around it.  `graphOf` reads the graph.  Every node has a number, and a node
comes after its parts, except where a part of it stands for a node that is not yet complete.
-/

namespace DockCheck.Yaml

/-- A node.  Its parts are given by their numbers. -/
inductive Node where
  | scalar (tag : Tag) (content : Text)
  | sequence (tag : Tag) (items : List Nat)
  | mapping (tag : Tag) (entries : List (Nat × Nat))
  deriving DecidableEq, Repr

/-- What a node stands for. -/
def Node.tag : Node → Tag
  | scalar tag _ => tag
  | sequence tag _ => tag
  | mapping tag _ => tag

/-- The nodes of a document by their numbers, the latest to be complete first, and the outermost
one.  An empty document has none. -/
structure Graph where
  nodes : List (Nat × Node)
  top : Option Nat
  deriving DecidableEq, Repr

/-- The node with a number. -/
def Graph.node? (graph : Graph) (n : Nat) : Option Node := graph.nodes.lookup n

/-- The state in the course of reading a graph. -/
structure Growth where
  /-- The tokens that are left. -/
  tokens : List Token
  /-- What is wrong with the document after the last of them. -/
  fault : Option Fault
  /-- The nodes that are complete. -/
  nodes : List (Nat × Node)
  /-- The number of the next node. -/
  next : Nat
  /-- The nodes with an anchor. -/
  anchors : List (Text × Nat)
  /-- What the handles of tags stand for. -/
  handles : List (Text × Text)
  deriving DecidableEq, Repr

/-- An action of the reader. -/
abbrev Growing := StateT Growth (Except Fault)

namespace Growing

/-- Stops: the tokens have no such structure. -/
def malformed {α : Type} : Growing α := throw .malformed

/-- The next token, which stays. -/
def peek : Growing Token := do
  let growth ← get
  match growth.tokens with
  | token :: _ => return token
  | [] => throw (growth.fault.getD .malformed)

/-- Passes over the next token. -/
def skip : Growing Unit := modify fun growth => { growth with tokens := growth.tokens.drop 1 }

/-- Passes over the given token if it comes next. -/
def accept (token : Token) : Growing Bool := do
  if (← peek) = token then
    skip
    return true
  else return false

/-- Does one of the given tokens come next? -/
def isNext (tokens : List Token) : Growing Bool := return tokens.contains (← peek)

/-- A number for a node that begins, known by an anchor from now on. -/
def begin (anchor : Option Text) : Growing Nat := do
  let growth ← get
  let n := growth.next
  match anchor with
  | none => set { growth with next := n + 1 }
  | some name =>
    if (growth.anchors.lookup name).isSome then malformed
    set { growth with next := n + 1, anchors := (name, n) :: growth.anchors }
  return n

/-- Completes a node. -/
def complete (n : Nat) (node : Node) : Growing Nat := do
  modify fun growth => { growth with nodes := (n, node) :: growth.nodes }
  return n

/-- A node with nothing in it. -/
def emptyNode : Growing Nat := do
  complete (← begin none) (.scalar .null [])

/-! ### Properties of nodes -/

/-- The full name of a tag. -/
def fullName (handle : Option Text) (suffix : Text) : Growing Text := do
  match handle with
  | none => return suffix
  | some word =>
    match (← get).handles.lookup word with
    | some start => return start ++ suffix
    | none => malformed

/-- The anchor that comes next, if one does. -/
def takeAnchor : Growing (Option Text) := do
  match ← peek with
  | .anchor name =>
    skip
    return some name
  | _ => return none

/-- The full name of the tag that comes next, if one does. -/
def takeTag : Growing (Option (Option Text × Text)) := do
  match ← peek with
  | .tag handle suffix =>
    skip
    return some (handle, suffix)
  | _ => return none

/-- The anchor and the tag of a node, in either order. -/
def takeProperties : Growing (Option Text × Option Text) := do
  let early ← takeAnchor
  let tag ← takeTag
  let anchor ← if early.isSome || tag.isNone then pure early else takeAnchor
  match tag with
  | none => return (anchor, none)
  | some (handle, suffix) => return (anchor, some (← fullName handle suffix))

/-- Does a tag leave open what the node stands for? -/
def isOpen (tag : Option Text) : Bool := tag.all (· == ['!'])

/-- The tag of a collection. -/
def collectionTag (usual : Tag) (tag : Option Text) : Tag :=
  if isOpen tag then usual else (tag.map Tag.ofFullName).getD usual

/-- The tag of a scalar. -/
def scalarTag (tag : Option Text) (plain : Bool) (content : Text) : Tag :=
  match tag with
  | none => if plain then Tag.ofContent content else .text
  | some name => if name == ['!'] then Tag.ofContent content else Tag.ofFullName name

/-! ### Nodes -/

mutual

/-- Reads a node.  Out of brackets it may be a block collection; after a key, the entries of a
sequence need not be indented. -/
def readNode : (fuel : Nat) → (block unindented : Bool) → Growing Nat
  | 0, _, _ => malformed
  | fuel + 1, block, unindented => do
    match ← peek with
    | .alias name =>
      skip
      match (← get).anchors.lookup name with
      | some n => return n
      | none => malformed
    | _ =>
      let (anchor, tag) ← takeProperties
      let token ← peek
      if unindented && token = .blockEntry then
        let n ← begin anchor
        complete n (.sequence (collectionTag .sequence tag) (← readEntries fuel true))
      else
        match token with
        | .scalar content plain =>
          skip
          complete (← begin anchor) (.scalar (scalarTag tag plain content) content)
        | .flowSequenceStart =>
          skip
          let n ← begin anchor
          complete n (.sequence (collectionTag .sequence tag) (← readFlowItems fuel true))
        | .flowMappingStart =>
          skip
          let n ← begin anchor
          complete n (.mapping (collectionTag .mapping tag) (← readFlowEntries fuel true))
        | _ =>
          if block && token = .blockSequenceStart then
            skip
            let n ← begin anchor
            complete n (.sequence (collectionTag .sequence tag) (← readEntries fuel false))
          else if block && token = .blockMappingStart then
            skip
            let n ← begin anchor
            complete n (.mapping (collectionTag .mapping tag) (← readBlockEntries fuel))
          else if anchor.isSome || tag.isSome then
            complete (← begin anchor) (.scalar (scalarTag tag true []) [])
          else malformed

/-- Reads the items of a block sequence, which has an end of its own unless it is not indented. -/
def readEntries : (fuel : Nat) → (unindented : Bool) → Growing (List Nat)
  | 0, _ => malformed
  | fuel + 1, unindented => do
    if ← accept .blockEntry then
      let stops : List Token :=
        if unindented then [.blockEntry, .key, .value, .blockEnd] else [.blockEntry, .blockEnd]
      let item ← if ← isNext stops then emptyNode else readNode fuel true false
      return item :: (← readEntries fuel unindented)
    else if unindented then return []
    else if ← accept .blockEnd then return []
    else malformed

/-- Reads the entries of a block mapping and its end. -/
def readBlockEntries : (fuel : Nat) → Growing (List (Nat × Nat))
  | 0 => malformed
  | fuel + 1 => do
    let stops : List Token := [.key, .value, .blockEnd]
    if ← accept .key then
      let key ← if ← isNext stops then emptyNode else readNode fuel true true
      let value ← if ← accept .value then
          if ← isNext stops then emptyNode else readNode fuel true true
        else emptyNode
      return (key, value) :: (← readBlockEntries fuel)
    else if ← accept .blockEnd then return []
    else malformed

/-- Reads the items of a sequence in brackets and its closing bracket.  An item may be a mapping of
one entry. -/
def readFlowItems : (fuel : Nat) → (first : Bool) → Growing (List Nat)
  | 0, _ => malformed
  | fuel + 1, first => do
    if ← accept .flowSequenceEnd then return []
    if !first then
      if !(← accept .flowEntry) then malformed
    if ← accept .key then
      let n ← begin none
      let key ← if ← isNext [.value, .flowEntry, .flowSequenceEnd] then emptyNode
        else readNode fuel false false
      let value ← if ← accept .value then
          if ← isNext [.flowEntry, .flowSequenceEnd] then emptyNode else readNode fuel false false
        else emptyNode
      let item ← complete n (.mapping .mapping [(key, value)])
      return item :: (← readFlowItems fuel false)
    else if ← accept .flowSequenceEnd then return []
    else
      let item ← readNode fuel false false
      return item :: (← readFlowItems fuel false)

/-- Reads the entries of a mapping in brackets and its closing bracket. -/
def readFlowEntries : (fuel : Nat) → (first : Bool) → Growing (List (Nat × Nat))
  | 0, _ => malformed
  | fuel + 1, first => do
    if ← accept .flowMappingEnd then return []
    if !first then
      if !(← accept .flowEntry) then malformed
    if ← accept .key then
      let key ← if ← isNext [.value, .flowEntry, .flowMappingEnd] then emptyNode
        else readNode fuel false false
      let value ← if ← accept .value then
          if ← isNext [.flowEntry, .flowMappingEnd] then emptyNode else readNode fuel false false
        else emptyNode
      return (key, value) :: (← readFlowEntries fuel false)
    else if ← accept .flowMappingEnd then return []
    else
      let key ← readNode fuel false false
      let value ← emptyNode
      return (key, value) :: (← readFlowEntries fuel false)

end

/-! ### Documents -/

/-- The handles of tags that need not be declared. -/
def usualHandles : List (Text × Text) := [(['!'], ['!']), (['!', '!'], Tag.namespaceText)]

/-- Reads directives.  At most one gives the version, which must be that of YAML 1, and none
declares a handle again. -/
def readDirectives : (fuel : Nat) → (versioned : Bool) → (handles : List (Text × Text)) →
    Growing Unit
  | 0, _, _ => malformed
  | fuel + 1, versioned, handles => do
    match ← peek with
    | .directive (.version major) =>
      if versioned || major != 1 then malformed
      skip
      readDirectives fuel true handles
    | .directive (.tag handle start) =>
      if (handles.lookup handle).isSome then malformed
      skip
      readDirectives fuel versioned ((handle, start) :: handles)
    | .directive .unknown =>
      skip
      readDirectives fuel versioned handles
    | _ => modify fun growth => { growth with handles := handles ++ usualHandles }

/-- Passes over markers for the end of a document. -/
def skipDocumentEnds : (fuel : Nat) → Growing Unit
  | 0 => return
  | fuel + 1 => do
    if ← accept .documentEnd then skipDocumentEnds fuel

/-- Is the next token a directive? -/
def isDirectiveNext : Growing Bool := do
  match ← peek with
  | .directive _ => return true
  | _ => return false

/-- Reads the content of a document after its marker. -/
def readContent (fuel : Nat) : Growing Nat := do
  if (← isNext [.documentStart, .documentEnd, .streamEnd]) || (← isDirectiveNext) then emptyNode
  else readNode fuel true false

/-- Reads the only document of a stream.  Where another one begins, its directives are read before
it is refused. -/
def readDocument : Growing (Option Nat) := do
  let fuel := 4 * (← get).tokens.length + 8
  if ← isNext [.streamEnd] then return none
  let marked := (← isDirectiveNext) || (← isNext [.documentStart])
  if marked then
    readDirectives fuel false []
    if !(← accept .documentStart) then malformed
  else modify fun growth => { growth with handles := usualHandles }
  let top ← if marked then readContent fuel else readNode fuel true false
  skipDocumentEnds fuel
  if ← isNext [.streamEnd] then return some top
  readDirectives fuel false []
  malformed

end Growing

/-- The graph of a document. -/
def graphOf (source : Source) : Except Fault Graph :=
  let (tokens, fault) := tokens source
  match Growing.readDocument.run ⟨tokens, fault, [], 0, [], []⟩ with
  | .ok (top, growth) => .ok ⟨growth.nodes, top⟩
  | .error fault => .error fault

end DockCheck.Yaml
