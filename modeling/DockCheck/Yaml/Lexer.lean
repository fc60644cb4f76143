import DockCheck.Yaml.Source

/-!
# From text to YAML tokens

`tokens` cuts a document into its tokens.  Block structure is given by indentation, so the lexer
keeps the columns of the collections that are open and adds tokens where one begins or ends.  A key
need not be announced: wherever one may begin the place is remembered, and when a colon follows in
the same line, the tokens of the key are put in there.

A document may be faulty after a part that has tokens.  The fault then comes with the tokens that
can be told without the faulty part, since their structure may be faulty, too.  The text of a source
may also break off, so the lexer looks no further than it has to.
-/

namespace DockCheck.Yaml

/-! ### The state of the lexer -/

/-- A place where a key may have begun. -/
structure KeyPlace where
  /-- The number of tokens before it. -/
  count : Nat
  /-- Must a key begin here, because nothing else can at this indent? -/
  required : Bool
  index : Nat
  line : Nat
  column : Nat
  deriving DecidableEq, Repr

/-- The state of the lexer. -/
structure Scan where
  rest : Text
  /-- The fault that awaits who reads on after the rest of the text, if it does not end there. -/
  ending : Option Fault
  index : Nat
  line : Nat
  column : Nat
  /-- The number of brackets that are open. -/
  flow : Nat
  /-- The column of the innermost block collection, or `-1`. -/
  indent : Int
  /-- The columns of the collections around it. -/
  indents : List Int
  /-- May a key without announcement begin here? -/
  keyAllowed : Bool
  /-- Where keys may have begun, by the number of open brackets. -/
  keys : List (Nat × KeyPlace)
  /-- The tokens so far, the latest first. -/
  tokens : List Token
  deriving DecidableEq, Repr

/-- An action of the lexer.  It keeps its state when it stops. -/
abbrev Lexing := ExceptT Fault (StateM Scan)

namespace Lexing

/-- Stops: the text is not well formed. -/
def malformed {α : Type} : Lexing α := throw .malformed

/-- Stops if the text breaks off before its end. -/
def checkEnding : Lexing Unit := do
  match (← get).ending with
  | some fault => throw fault
  | none => return

/-- The character `n` places ahead. -/
def peek (n : Nat := 0) : Lexing (Option Char) := do
  match (← get).rest[n]? with
  | some c => return some c
  | none =>
    checkEnding
    return none

/-- The state after the next character. -/
def Scan.next (scan : Scan) : Scan :=
  match scan.rest with
  | [] => scan
  | c :: rest =>
    let moved := { scan with rest := rest, index := scan.index + 1 }
    let breaks := isBreak c && !(c == '\r' && rest.head? == some '\n')
    if breaks then { moved with line := scan.line + 1, column := 0 }
    else if c == '\ufeff' then moved
    else { moved with column := scan.column + 1 }

/-- The state after the next `n` characters. -/
def Scan.skip (scan : Scan) : (n : Nat) → Scan
  | 0 => scan
  | n + 1 => Scan.skip (Scan.next scan) n

/-- Passes over `n` characters, and looks at the one that is next then. -/
def forward (n : Nat) : Lexing Unit := do
  modify (Scan.skip · n)
  let _ ← peek

/-- Takes the characters that pass a test. -/
def takeWhile (test : Char → Bool) : Lexing Text := do
  let taken := (← get).rest.takeWhile test
  forward taken.length
  return taken

/-- Takes a line break, if there is one here, and gives what it stands for. -/
def takeBreak : Lexing Text := do
  match (← get).rest with
  | '\r' :: '\n' :: _ =>
    forward 2
    return ['\n']
  | c :: _ =>
    if c == '\u2028' || c == '\u2029' then
      forward 1
      return [c]
    else if isBreak c then
      forward 1
      return ['\n']
    else return []
  | [] => return []

/-- Does a marker for the start or end of a document stand here? -/
def atMarker (marker : Text) : Lexing Bool := do
  let _ ← peek 2
  if Text.startsWith (← get).rest marker then return endsIndicator (← peek 3) else return false

/-- Does any marker stand here? -/
def atAnyMarker : Lexing Bool := do
  if ← atMarker "---" then return true else atMarker "..."

/-- Does an indicator stand here?  One that is not free does so only before white space. -/
def atIndicator (sign : Char) (free : Bool := false) : Lexing Bool := do
  if (← peek) != some sign then return false
  else if free then return true
  else return endsIndicator (← peek 1)

/-- The `n` hexadecimal digits that have to come next. -/
def peekHex (n : Nat) : Lexing Text := do
  let digits := (← get).rest.take n
  if !digits.all isHex then malformed
  let _ ← peek (n - 1)
  if digits.length < n then malformed else return digits

/-- Does a marker with the given sign stand here, at the start of a line? -/
def atDocumentMarker (sign : Char) : Lexing Bool := do
  if (← get).column = 0 && (← peek) == some sign then atMarker [sign, sign, sign]
  else return false

/-- Adds a token. -/
def add (token : Token) : Lexing Unit :=
  modify fun scan => { scan with tokens := token :: scan.tokens }

/-- Puts a token in behind the first `count` ones. -/
def insert (count : Nat) (token : Token) : Lexing Unit :=
  modify fun scan =>
    let later := scan.tokens.length - count
    { scan with tokens := scan.tokens.take later ++ token :: scan.tokens.drop later }

/-! ### Indentation and keys -/

/-- Closes the block collections that are indented by more than a column. -/
def unwind (column : Int) : Lexing Unit :=
  modify fun scan =>
    if scan.flow = 0 then
      let closing := (scan.indent :: scan.indents).takeWhile (column < ·)
      let remaining := (scan.indent :: scan.indents).dropWhile (column < ·)
      { scan with
        indent := remaining.head?.getD (-1), indents := remaining.drop 1,
        tokens := closing.map (fun _ => Token.blockEnd) ++ scan.tokens }
    else scan

/-- Opens a block collection at a column, if it is indented by more than the current one. -/
def openBlock (column : Nat) : Lexing Bool := do
  let scan ← get
  if scan.indent < column then
    set { scan with indent := (column : Int), indents := scan.indent :: scan.indents }
    return true
  else return false

/-- Is it too late for a key that began at a place? -/
def isStale (scan : Scan) (place : KeyPlace) : Bool :=
  place.line != scan.line || 1024 < scan.index - place.index

/-- Forgets the places where a key can no longer have begun. -/
def dropStale : Lexing Unit := do
  let scan ← get
  if scan.keys.any fun entry => isStale scan entry.2 && entry.2.required then malformed
  set { scan with keys := scan.keys.filter fun entry => !isStale scan entry.2 }

/-- Forgets where a key may have begun within the current brackets. -/
def dropKey : Lexing Unit := do
  let scan ← get
  match scan.keys.lookup scan.flow with
  | none => return
  | some place =>
    if place.required then malformed
    set { scan with keys := scan.keys.filter fun entry => entry.1 != scan.flow }

/-- Remembers this place as one where a key may begin. -/
def saveKey : Lexing Unit := do
  let scan ← get
  if scan.keyAllowed then
    dropKey
    let required := scan.flow = 0 && scan.indent = (scan.column : Int)
    let place : KeyPlace := ⟨scan.tokens.length, required, scan.index, scan.line, scan.column⟩
    modify fun scan => { scan with keys := (scan.flow, place) :: scan.keys }

/-- Says whether a key may begin next. -/
def allowKey (allowed : Bool) : Lexing Unit :=
  modify fun scan => { scan with keyAllowed := allowed }

/-! ### Between tokens -/

/-- Skips blanks, comments and line breaks. -/
def skipToToken : (fuel : Nat) → Lexing Unit
  | 0 => return
  | fuel + 1 => do
    let _ ← takeWhile (· == ' ')
    if (← peek) == some '#' then
      let _ ← takeWhile (!isBreak ·)
    let taken ← takeBreak
    if taken.isEmpty then return
    if (← get).flow = 0 then allowKey true
    skipToToken fuel

/-- Skips the rest of a line, on which there is at most a comment. -/
def skipRestOfLine : Lexing Unit := do
  let _ ← takeWhile (· == ' ')
  if (← peek) == some '#' then
    let _ ← takeWhile (!isBreak ·)
  if endsLine (← peek) then
    let _ ← takeBreak
  else malformed

/-! ### Directives, anchors and tags -/

/-- Reads the bytes that percent signs and hexadecimal digits give. -/
def takeEscapedBytes : (fuel : Nat) → Lexing (List UInt8)
  | 0 => return []
  | fuel + 1 => do
    if (← peek) == some '%' then
      forward 1
      let digits ← peekHex 2
      forward 2
      let byte := Text.ofBaseDigits 16 (digits.filterMap Text.baseDigit?)
      return UInt8.ofNat byte :: (← takeEscapedBytes fuel)
    else return []

/-- Reads the characters of a tag. -/
def takeTagChars : (fuel : Nat) → Lexing Text
  | 0 => return []
  | fuel + 1 => do
    match ← peek with
    | some c =>
      if c == '%' then
        match Utf8.decode (← takeEscapedBytes (fuel + 1)) with
        | .ok t => return t ++ (← takeTagChars fuel)
        | .error _ => malformed
      else if isTagPart c then
        forward 1
        return c :: (← takeTagChars fuel)
      else return []
    | none => return []

/-- Reads a tag, or the part of it after its handle. -/
def takeTagText : Lexing Text := do
  let before := (← get).rest.length
  let t ← takeTagChars (before + 1)
  if (← get).rest.length = before then malformed else return t

/-- Reads a tag handle: an exclamation mark, or a name between two. -/
def takeHandle : Lexing Text := do
  if (← peek) != some '!' then malformed
  forward 1
  if (← peek) == some ' ' then return ['!']
  let name ← takeWhile isNamePart
  if (← peek) != some '!' then malformed
  forward 1
  return '!' :: (name ++ ['!'])

/-- Reads a number of a version. -/
def takeVersionNumber : Lexing Nat := do
  let digits ← takeWhile Text.isAsciiDigit
  if digits.isEmpty then malformed
  match Text.toInt 10 digits with
  | .ok n => return n.toNat
  | .error fault => throw (.numeral fault)

/-- Reads a directive. -/
def scanDirective : Lexing Directive := do
  forward 1
  let name ← takeWhile isNamePart
  if name.isEmpty || !endsWord (← peek) then malformed
  let directive ← if name = "YAML" then
      let _ ← takeWhile (· == ' ')
      let major ← takeVersionNumber
      if (← peek) != some '.' then malformed
      forward 1
      let _ ← takeVersionNumber
      if !endsWord (← peek) then malformed
      pure (.version major)
    else if name = "TAG" then
      let _ ← takeWhile (· == ' ')
      let handle ← takeHandle
      if (← peek) != some ' ' then malformed
      let _ ← takeWhile (· == ' ')
      let start ← takeTagText
      if !endsWord (← peek) then malformed
      pure (.tag handle start)
    else
      let _ ← takeWhile (!isBreak ·)
      pure .unknown
  skipRestOfLine
  return directive

/-- Reads the name of an anchor or an alias after its sign. -/
def scanName : Lexing Text := do
  forward 1
  let name ← takeWhile isNamePart
  let closed := (← peek).all fun c =>
    isSpace c || isBreak c || ("?:,]\x7d%@`" : String).toList.contains c
  if name.isEmpty || !closed then malformed
  return name

/-- Does a tag here begin with a handle, that is, does a further exclamation mark follow before
white space? -/
def hasHandle : Lexing Bool := do
  let word := ((← get).rest.drop 1).takeWhile fun c => !(c == '!' || c == ' ' || isBreak c)
  return (← peek (word.length + 1)) == some '!'

/-- Reads a tag: its handle, if it has one, and the rest. -/
def scanTag : Lexing Token := do
  let next ← peek 1
  let token ← if next == some '<' then
      forward 2
      let suffix ← takeTagText
      if (← peek) != some '>' then malformed
      forward 1
      pure (.tag none suffix)
    else if endsIndicator next then
      forward 1
      pure (.tag none ['!'])
    else do
      let handle ← if ← hasHandle then takeHandle else do
        forward 1
        pure ['!']
      let suffix ← takeTagText
      pure (.tag (some handle) suffix)
  if endsWord (← peek) then return token else malformed

/-! ### Block scalars -/

/-- What happens to the line breaks at the end of a block scalar: all are dropped, all but one, or
none. -/
inductive Chomping where
  | strip
  | clip
  | keep
  deriving DecidableEq, Repr

/-- The chomping that a sign asks for. -/
def chomping? : Option Char → Option Chomping
  | some '+' => some .keep
  | some '-' => some .strip
  | _ => none

/-- The digit that gives the indent of a block scalar. -/
def takeIncrement : Lexing (Option Nat) := do
  match ← peek with
  | some c =>
    if Text.isAsciiDigit c then
      if c == '0' then malformed
      forward 1
      return some (c.toNat - 48)
    else return none
  | none => return none

/-- Reads the signs after the start of a block scalar, in either order. -/
def takeBlockSigns : Lexing (Chomping × Option Nat) := do
  match chomping? (← peek) with
  | some chomping =>
    forward 1
    let increment ← takeIncrement
    if endsWord (← peek) then return (chomping, increment) else malformed
  | none =>
    let increment ← takeIncrement
    let next ← peek
    let chomping := if increment.isSome then chomping? next else none
    if chomping.isSome then forward 1
    if endsWord (← peek) then return (chomping.getD .clip, increment) else malformed

/-- Skips the blank lines before a block scalar: their breaks, and the column of its first line
that is not blank, or a larger one if a blank line is longer. -/
def skipBlankLines : (fuel : Nat) → (breaks : List Text) → (column : Nat) →
    Lexing (List Text × Nat)
  | 0, breaks, column => return (breaks, column)
  | fuel + 1, breaks, column => do
    match ← peek with
    | some c =>
      if c == ' ' then
        forward 1
        skipBlankLines fuel breaks (max column (← get).column)
      else if isBreak c then
        let taken ← takeBreak
        skipBlankLines fuel (breaks ++ [taken]) column
      else return (breaks, column)
    | none => return (breaks, column)

/-- Skips blanks up to a column. -/
def skipIndent (indent : Nat) : Lexing Unit := do
  let scan ← get
  let blanks := (scan.rest.takeWhile (· == ' ')).length
  forward (min blanks (indent - scan.column))

/-- Takes the line breaks up to the next line of a block scalar that is not blank. -/
def takeBreaks (indent : Nat) : (fuel : Nat) → Lexing (List Text)
  | 0 => return []
  | fuel + 1 => do
    skipIndent indent
    let taken ← takeBreak
    if taken.isEmpty then return [] else return taken :: (← takeBreaks indent fuel)

/-- Reads the lines of a block scalar with the given indent.  The breaks before the next line come
in `breaks`. -/
def takeBlockLines (folded : Bool) (chomping : Chomping) (indent : Nat) : (fuel : Nat) →
    (breaks : List Text) → Lexing Text
  | 0, _ => return []
  | fuel + 1, breaks => do
    let startsFull := (← peek).any fun c => !isSpace c
    let line ← takeWhile (!isBreak ·)
    let lineBreak ← takeBreak
    let further ← takeBreaks indent fuel
    let scan ← get
    if scan.column = indent && !scan.rest.isEmpty then
      let goesOn := scan.rest.head?.any fun c => !isSpace c
      let joined : Text :=
        if folded && lineBreak = ['\n'] && startsFull && goesOn then
          if further.isEmpty then [' '] else []
        else lineBreak
      return breaks.flatten ++ line ++ joined
        ++ (← takeBlockLines folded chomping indent fuel further)
    else
      let ending : Text := match chomping with
        | .strip => []
        | .clip => lineBreak
        | .keep => lineBreak ++ further.flatten
      return breaks.flatten ++ line ++ ending

/-- Reads a block scalar. -/
def scanBlockScalar (folded : Bool) : Lexing Token := do
  forward 1
  let (chomping, increment) ← takeBlockSigns
  skipRestOfLine
  let least := max 1 ((← get).indent + 1).toNat
  let fuel := (← get).rest.length + 1
  let (breaks, indent) ← match increment with
    | none => do
      let (breaks, column) ← skipBlankLines fuel [] 0
      pure (breaks, max least column)
    | some n => do
      let indent := least + n - 1
      pure (← takeBreaks indent fuel, indent)
  let scan ← get
  if scan.column = indent && !scan.rest.isEmpty then
    return .scalar (← takeBlockLines folded chomping indent fuel breaks) false
  else
    return .scalar (if chomping = .keep then breaks.flatten else []) false

/-! ### Scalars in quotes -/

/-- The character that a letter behind a backslash stands for. -/
def escaped? : Char → Option Char
  | '0' => some '\x00'
  | 'a' => some '\x07'
  | 'b' => some '\x08'
  | 't' => some '\t'
  | '\t' => some '\t'
  | 'n' => some '\n'
  | 'v' => some '\x0b'
  | 'f' => some '\x0c'
  | 'r' => some '\r'
  | 'e' => some '\x1b'
  | ' ' => some ' '
  | '"' => some '"'
  | '\\' => some '\\'
  | '/' => some '/'
  | 'N' => some '\x85'
  | '_' => some '\xa0'
  | 'L' => some '\u2028'
  | 'P' => some '\u2029'
  | _ => none

/-- The number of hexadecimal digits that follow a letter behind a backslash. -/
def escapeLength? : Char → Option Nat
  | 'x' => some 2
  | 'u' => some 4
  | 'U' => some 8
  | _ => none

/-- Takes the breaks of the lines after the first in a quoted scalar. -/
def takeQuotedBreaks : (fuel : Nat) → Lexing Text
  | 0 => return []
  | fuel + 1 => do
    if ← atAnyMarker then malformed
    let _ ← takeWhile isSpace
    let taken ← takeBreak
    if taken.isEmpty then return [] else return taken ++ (← takeQuotedBreaks fuel)

/-- Reads what a backslash in a quoted scalar stands for. -/
def takeEscape (fuel : Nat) : Lexing Text := do
  forward 1
  match ← peek with
  | none => malformed
  | some c =>
    if let some d := escaped? c then
      forward 1
      return [d]
    else if let some n := escapeLength? c then
      forward 1
      let digits ← peekHex n
      let code := Text.ofBaseDigits 16 (digits.filterMap Text.baseDigit?)
      if 0x80000000 ≤ code then throw .characterCodeTooLarge
      if 0x110000 ≤ code then throw .characterCode
      forward n
      return [if 0xD800 ≤ code && code < 0xE000 then '\ufffd' else Char.ofNat code]
    else if isBreak c then
      let _ ← takeBreak
      takeQuotedBreaks fuel
    else malformed

/-- Reads white space and line breaks in a quoted scalar: a single break is a blank. -/
def takeQuotedSpaces (fuel : Nat) : Lexing Text := do
  let spaces ← takeWhile isSpace
  match ← peek with
  | none => malformed
  | some c =>
    if isBreak c then
      let lineBreak ← takeBreak
      let breaks ← takeQuotedBreaks fuel
      if lineBreak != ['\n'] then return lineBreak ++ breaks
      else if breaks.isEmpty then return [' ']
      else return breaks
    else return spaces

/-- Reads a quoted scalar up to its closing quote, and that. -/
def takeQuoted (quote : Char) : (fuel : Nat) → Lexing Text
  | 0 => malformed
  | fuel + 1 => do
    match ← peek with
    | none => malformed
    | some c =>
      if c == quote then
        if quote == '\'' && (← peek 1) == some '\'' then
          forward 2
          return '\'' :: (← takeQuoted quote fuel)
        else
          forward 1
          return []
      else if c == '\\' && quote == '"' then
        let t ← takeEscape fuel
        return t ++ (← takeQuoted quote fuel)
      else if isSpace c || isBreak c then
        let t ← takeQuotedSpaces fuel
        return t ++ (← takeQuoted quote fuel)
      else
        forward 1
        return c :: (← takeQuoted quote fuel)

/-- Reads a quoted scalar. -/
def scanQuoted (quote : Char) : Lexing Token := do
  forward 1
  return .scalar (← takeQuoted quote ((← get).rest.length + 1)) false

/-! ### Plain scalars -/

/-- The characters of a plain scalar at the start of a text: a colon before white space ends it,
and so do brackets and commas within brackets. -/
def plainRun (inFlow : Bool) : Text → Text
  | [] => []
  | c :: rest =>
    let colonEnds := endsIndicator rest.head?
      || (inFlow && rest.head?.any fun d => (",[]\x7b\x7d" : String).toList.contains d)
    if isSpace c || isBreak c || (c == ':' && colonEnds)
      || (inFlow && (",?[]\x7b\x7d" : String).toList.contains c) then []
    else c :: plainRun inFlow rest

/-- Takes the blanks and line breaks after the first line of a plain scalar; nothing if a marker
ends the document. -/
def takePlainBreaks : (fuel : Nat) → Lexing (Option Text)
  | 0 => return some []
  | fuel + 1 => do
    let _ ← takeWhile (· == ' ')
    let taken ← takeBreak
    if taken.isEmpty then return some []
    else if ← atAnyMarker then return none
    else return (← takePlainBreaks fuel).map (taken ++ ·)

/-- Takes the white space after a part of a plain scalar: what it stands for if the scalar goes
on. -/
def takePlainSpaces : Lexing Text := do
  let spaces ← takeWhile (· == ' ')
  let lineBreak ← takeBreak
  if lineBreak.isEmpty then return spaces
  allowKey true
  if ← atAnyMarker then return []
  match ← takePlainBreaks ((← get).rest.length + 1) with
  | none => return []
  | some breaks =>
    if lineBreak != ['\n'] then return lineBreak ++ breaks
    else if breaks.isEmpty then return [' ']
    else return breaks

/-- Reads the parts of a plain scalar.  The white space before the next part comes in `spaces`. -/
def takePlain (indent : Int) : (fuel : Nat) → (spaces : Text) → Lexing Text
  | 0, _ => return []
  | fuel + 1, spaces => do
    if (← peek) == some '#' then return []
    let inFlow := (← get).flow != 0
    let part := plainRun inFlow (← get).rest
    if (← peek part.length) == some ':' then
      let _ ← peek (part.length + 1)
    if part.isEmpty then return []
    allowKey false
    forward part.length
    let further ← takePlainSpaces
    let scan ← get
    if further.isEmpty || scan.rest.head? == some '#'
      || (!inFlow && (scan.column : Int) < indent) then return spaces ++ part
    else return spaces ++ part ++ (← takePlain indent fuel further)

/-- Reads a plain scalar. -/
def scanPlain : Lexing Token := do
  let scan ← get
  return .scalar (← takePlain (scan.indent + 1) (scan.rest.length + 1) []) true

/-! ### Tokens -/

/-- Can a plain scalar begin here, with the given character? -/
def startsPlain (inFlow : Bool) (c : Char) : Lexing Bool := do
  if isSpace c || isBreak c || ("-?:,[]\x7b\x7d#&*!|>'\"%@`" : String).toList.contains c then
    let next ← peek 1
    return !endsIndicator next && (c == '-' || (!inFlow && (c == '?' || c == ':')))
  else return true

/-- Reads the token for the start or the end of a document. -/
def scanMarker (token : Token) : Lexing Unit := do
  unwind (-1)
  dropKey
  allowKey false
  forward 3
  add token

/-- Reads an opening bracket. -/
def scanOpen (token : Token) : Lexing Unit := do
  saveKey
  modify fun scan => { scan with flow := scan.flow + 1 }
  allowKey true
  forward 1
  add token

/-- Reads a closing bracket. -/
def scanClose (token : Token) : Lexing Unit := do
  dropKey
  modify fun scan => { scan with flow := scan.flow - 1 }
  allowKey false
  forward 1
  add token

/-- Reads the comma between entries. -/
def scanFlowEntry : Lexing Unit := do
  allowKey true
  dropKey
  forward 1
  add .flowEntry

/-- Reads the sign of an entry or of a key that is announced.  Out of brackets it may open a
collection. -/
def scanEntry (opening token : Token) (allowedNext : Bool) : Lexing Unit := do
  let scan ← get
  if scan.flow = 0 then
    if !scan.keyAllowed then malformed
    if ← openBlock scan.column then add opening
  allowKey allowedNext
  dropKey
  forward 1
  add token

/-- Reads the colon before a value.  If a key may have begun before it in the line, that key is
put in. -/
def scanValue : Lexing Unit := do
  let scan ← get
  match scan.keys.lookup scan.flow with
  | some place =>
    set { scan with keys := scan.keys.filter fun entry => entry.1 != scan.flow }
    insert place.count .key
    if scan.flow = 0 then
      if ← openBlock place.column then insert place.count .blockMappingStart
    allowKey false
  | none =>
    if scan.flow = 0 then
      if !scan.keyAllowed then malformed
      if ← openBlock scan.column then add .blockMappingStart
    allowKey (scan.flow = 0)
    dropKey
  forward 1
  add .value

/-- Reads a token that may be or begin a key. -/
def scanKeyPart (action : Lexing Token) : Lexing Unit := do
  saveKey
  allowKey false
  let token ← action
  add token

/-- Reads the next token, and those that the indentation gives before it.  Says whether it is the
last. -/
def scanToken : Lexing Bool := do
  if (← get).index = 0 && (← peek) == some '\ufeff' then forward 1
  skipToToken ((← get).rest.length + 1)
  dropStale
  unwind (← get).column
  let scan ← get
  let inFlow := scan.flow != 0
  match scan.rest with
  | [] =>
    unwind (-1)
    dropKey
    add .streamEnd
    return true
  | c :: _ =>
    let lineStart := scan.column = 0
    if lineStart && c == '%' then
      unwind (-1)
      dropKey
      allowKey false
      add (.directive (← scanDirective))
    else if ← atDocumentMarker '-' then scanMarker .documentStart
    else if ← atDocumentMarker '.' then scanMarker .documentEnd
    else if c == '[' then scanOpen .flowSequenceStart
    else if c == '\x7b' then scanOpen .flowMappingStart
    else if c == ']' then scanClose .flowSequenceEnd
    else if c == '\x7d' then scanClose .flowMappingEnd
    else if c == ',' then scanFlowEntry
    else if ← atIndicator '-' then scanEntry .blockSequenceStart .blockEntry true
    else if ← atIndicator '?' inFlow then scanEntry .blockMappingStart .key (!inFlow)
    else if ← atIndicator ':' inFlow then scanValue
    else if c == '*' then scanKeyPart (do return .alias (← scanName))
    else if c == '&' then scanKeyPart (do return .anchor (← scanName))
    else if c == '!' then scanKeyPart scanTag
    else if (c == '|' || c == '>') && !inFlow then
      allowKey true
      dropKey
      let token ← scanBlockScalar (c == '>')
      add token
    else if c == '\'' || c == '"' then scanKeyPart (scanQuoted c)
    else if ← startsPlain inFlow c then scanKeyPart scanPlain
    else malformed
    return false

/-- The tokens that can be told without looking further, the latest first.  Where a key may have
begun, a token may have to be put in. -/
def toldTokens (scan : Scan) : List Token :=
  let places := (scan.keys.filter fun entry => !isStale scan entry.2).map (·.2.count)
  scan.tokens.drop (scan.tokens.length - places.foldl min scan.tokens.length)

/-- Reads all tokens.  Where one is faulty, the tokens are left that can be told without it. -/
def scanTokens : (fuel : Nat) → Lexing Unit
  | 0 => malformed
  | fuel + 1 => do
    let before ← get
    let last ← try scanToken catch fault => do
      modify fun scan => { scan with tokens := toldTokens before }
      throw fault
    if last then return else scanTokens fuel

end Lexing

/-- The tokens of a source, and the fault after them if there is one. -/
def tokens (source : Source) : List Token × Option Fault :=
  let start : Scan := ⟨source.text, source.ending, 0, 0, 0, 0, -1, [], true, [], []⟩
  let action : Lexing Unit := do
    let _ ← Lexing.peek
    Lexing.scanTokens (source.text.length + 2)
  match action.run.run start with
  | (.ok (), scan) => (scan.tokens.reverse, none)
  | (.error fault, scan) => (scan.tokens.reverse, some fault)

end DockCheck.Yaml
