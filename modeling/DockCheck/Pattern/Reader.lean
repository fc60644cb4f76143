import DockCheck.Text.CharNames
import DockCheck.Text.Identifier
import DockCheck.Pattern.Fault
import DockCheck.Pattern.Node

/-!
# Reading patterns

`compile` reads a pattern from its text: the tree of what it matches and the number of its groups,
or the first fault.  A pattern is read from left to right, a `Symbol` at a time, with no step back
but after a brace that opens no repetition.

Faults that need the whole of a part, such as a lookbehind of no fixed length, are put aside while
the rest is read, and reported only if there is no other.
-/

namespace DockCheck.Pattern

/-! ### Symbols -/

/-- A unit of a pattern: a character, a backslash with the character after it, or a backslash at
the very end. -/
inductive Symbol where
  | plain (c : Char)
  | escaped (c : Char)
  | lone
  deriving DecidableEq, Repr

/-- The text of a symbol. -/
def Symbol.text : Symbol → Text
  | .plain c => [c]
  | .escaped c => ['\\', c]
  | .lone => ['\\']

/-- The symbols of a pattern. -/
def symbols : Text → List Symbol
  | [] => []
  | ['\\'] => [.lone]
  | '\\' :: c :: rest => .escaped c :: symbols rest
  | c :: rest => .plain c :: symbols rest

/-! ### Options -/

/-- The options under which a part of a pattern is read. -/
structure Options where
  ignoreCase : Bool := true
  multiline : Bool := false
  dotAll : Bool := false
  verbose : Bool := false
  ascii : Bool := false
  unicode : Bool := false
  template : Bool := false
  deriving DecidableEq, Repr

namespace Options

/-- The letters that stand for options. -/
def letters : List Char := ['i', 'L', 'm', 's', 'x', 'a', 't', 'u']

/-- The options with that of a letter turned on. -/
def turnOn (options : Options) : Char → Options
  | 'i' => { options with ignoreCase := true }
  | 'm' => { options with multiline := true }
  | 's' => { options with dotAll := true }
  | 'x' => { options with verbose := true }
  | 'a' => { options with ascii := true }
  | 'u' => { options with unicode := true }
  | 't' => { options with template := true }
  | _ => options

/-- The options with that of a letter turned off. -/
def turnOff (options : Options) : Char → Options
  | 'i' => { options with ignoreCase := false }
  | 'm' => { options with multiline := false }
  | 's' => { options with dotAll := false }
  | 'x' => { options with verbose := false }
  | _ => options

/-- The options within a part that turns some of them on and some off.  There the letters for
ASCII and for all characters replace each other. -/
def within (options : Options) (on off : List Char) : Options :=
  let base :=
    if on.contains 'a' || on.contains 'u' then { options with ascii := false, unicode := false }
    else options
  off.foldl turnOff (on.foldl turnOn base)

/-- How letter case counts. -/
def casing (options : Options) : Casing :=
  if options.ignoreCase then (if options.ascii then .ascii else .unicode) else .exact

/-- What asks for the character of a code point, or with `negated` for any other. -/
def code (options : Options) (negated : Bool) (n : Nat) : Node :=
  .char (.ofCode options.casing negated n)

/-- What asks for a character out of a set, or with `negated` for any other. -/
def set (options : Options) (negated : Bool) (items : List SetItem) : Node :=
  .char (.ofItems options.casing negated items)

end Options

/-! ### Parts of a pattern -/

/-- The least and the largest number of characters that a part can match. -/
structure Width where
  least : Nat
  most : Nat
  deriving DecidableEq, Repr

/-- A number of repetitions from this one on is out of range.  It also stands for no bound. -/
def repetitionLimit : Nat := 4294967295

namespace Width

/-- The width of a part that matches `n` characters. -/
def exactly (n : Nat) : Width := ⟨n, n⟩

/-- The width of a part and another one after it. -/
def andThen (a b : Width) : Width := ⟨a.least + b.least, a.most + b.most⟩

/-- The width of a part or another one. -/
def orElse (a b : Width) : Width := ⟨min a.least b.least, max a.most b.most⟩

/-- The width of a repetition. -/
def repetition (low : Nat) (high : Option Nat) (w : Width) : Width :=
  ⟨w.least * low, w.most * high.getD repetitionLimit⟩

/-- The width with numbers that are out of range brought back to its end, which for the least
number lies one lower. -/
def limited (w : Width) : Width :=
  ⟨min w.least (repetitionLimit - 1), min w.most repetitionLimit⟩

end Width

/-- What matters about a part for what stands beside it. -/
inductive PartKind where
  /-- A place between two characters. -/
  | anchor
  /-- A single character, or the text of a group again. -/
  | unit
  /-- A repetition. -/
  | repetition
  | other
  deriving DecidableEq, Repr

/-- A part of a pattern: what it matches and how much. -/
structure Part where
  node : Node
  width : Width
  kind : PartKind := .other
  deriving DecidableEq, Repr

/-- What a sequence of parts matches. -/
def nodeOf : List Part → Node
  | [] => .empty
  | [part] => part.node
  | part :: parts => .seq part.node (nodeOf parts)

/-- The width of a sequence of parts. -/
def widthOf (parts : List Part) : Width :=
  (parts.foldl (fun width part => Width.andThen width part.width) (Width.exactly 0)).limited

/-- A piece of a pattern, which began at the place `start`: one part, or a group that has no
effect but to hold its parts together for a repetition. -/
structure Piece where
  start : Nat
  parts : List Part
  kind : PartKind
  deriving DecidableEq, Repr

/-- The piece that is one part. -/
def Piece.single (start : Nat) (part : Part) : Piece := ⟨start, [part], part.kind⟩

/-- The parts of pieces, of which the latest come first. -/
def partsOf (pieces : List Piece) : List Part := (pieces.reverse.map Piece.parts).flatten

/-! ### Alternatives -/

/-- The first part of an alternative, if it can be taken out of it. -/
def commonPart? : List Part → Option Part
  | part :: _ => if part.kind = .anchor || part.kind = .unit then some part else none
  | [] => none

/-- The parts with which all alternatives begin, and what is left of the alternatives. -/
def factor : Nat → List (List Part) → List Part × List (List Part)
  | 0, alternatives => ([], alternatives)
  | n + 1, alternatives =>
    match alternatives.head?.bind commonPart? with
    | none => ([], alternatives)
    | some part =>
      if alternatives.all fun alternative => alternative.head? == some part then
        let (parts, others) := factor n (alternatives.map List.tail)
        (part :: parts, others)
      else ([], alternatives)

/-- The items of the set that an alternative amounts to, if it asks for one character that is
listed. -/
def listedItems? : List Part → Option (List SetItem)
  | [⟨.char (.code _ false n), _, .unit⟩] => some [.code n]
  | [⟨.char (.set _ false items), _, .unit⟩] => some items
  | _ => none

/-- One alternative or, after it, what the others match. -/
def alternatively : List (List Part) → Node
  | [] => .empty
  | [parts] =>
    match nodeOf parts with
    | .alt first second => .seq .empty (.alt first second)
    | node => node
  | parts :: others => .alt (nodeOf parts) (alternatively others)

/-- The width of several alternatives. -/
def alternativeWidth : List (List Part) → Width
  | [] => .exactly 0
  | [parts] => widthOf parts
  | parts :: others => (widthOf parts).orElse (alternativeWidth others)

/-- The parts that several alternatives amount to.  What all of them begin with comes first, and
alternatives that ask for single characters become one set. -/
def alternation (casing : Casing) (alternatives : List (List Part)) : List Part :=
  match alternatives with
  | [parts] => parts
  | _ =>
    let (common, others) := factor alternatives.flatten.length alternatives
    match others.mapM listedItems? with
    | some items =>
      common ++ [⟨.char (.ofItems casing false items.flatten.eraseDups), .exactly 1, .unit⟩]
    | none => common ++ [⟨alternatively others, alternativeWidth others, .other⟩]

/-! ### The state of reading -/

/-- What is known in the course of reading. -/
structure Progress where
  /-- The symbols that are left. -/
  rest : List Symbol
  /-- The place of the first of them. -/
  place : Nat
  /-- The options of the pattern as a whole. -/
  options : Options
  /-- The number of groups that have begun. -/
  groups : Nat
  /-- The groups with a name. -/
  names : List (Text × Nat)
  /-- The widths of the groups that have ended. -/
  widths : List (Nat × Width)
  /-- Within a lookbehind, the number of the first group that began in it. -/
  lookbehind : Option Nat
  /-- The groups that conditions ask for by number, and the place where each is asked for first. -/
  asked : List (Nat × Nat)
  /-- Problems that are put aside, each with a place to order them by. -/
  aside : List (Nat × Problem)
  /-- Is there a lookbehind that goes back further than texts can be addressed? -/
  unaddressable : Bool

/-- An action of the reader. -/
abbrev Reading := StateT Progress (Except Fault)

namespace Reading

/-- Stops with a problem at a place. -/
def failAt {α : Type} (problem : Problem) (place : Nat) : Reading α :=
  throw (.malformed problem (some place))

/-- Stops with a problem the given number of characters before the next symbol. -/
def fail {α : Type} (problem : Problem) (back : Nat) : Reading α := do
  failAt problem ((← get).place - back)

/-- Refuses a backslash at the end as soon as it comes next. -/
def refuseLone : Reading Unit := do
  let progress ← get
  if progress.rest.head? = some .lone then failAt .escapeAtEnd progress.place

/-- The next symbol, which stays. -/
def peek : Reading (Option Symbol) := return (← get).rest.head?

/-- The next symbol, which is taken. -/
def take : Reading (Option Symbol) := do
  let progress ← get
  match progress.rest with
  | [] => return none
  | symbol :: rest =>
    set { progress with rest := rest, place := progress.place + symbol.text.length }
    refuseLone
    return some symbol

/-- Takes the given character if it comes next. -/
def accept (c : Char) : Reading Bool := do
  if (← peek) = some (.plain c) then
    let _ ← take
    return true
  else return false

/-- Takes at most `n` characters that pass a test. -/
def takeChars (test : Char → Bool) : Nat → Reading Text
  | 0 => return []
  | n + 1 => do
    match ← peek with
    | some (.plain c) =>
      if test c then
        let _ ← take
        return c :: (← takeChars test n)
      else return []
    | _ => return []

/-- Takes the characters up to the given one, and that one.  There must be some; `what` says what
they are. -/
def takeUntil (terminator : Char) (what : Text) : Nat → (taken : Text) → Reading Text
  | 0, _ => fail (.missingName what) 0
  | n + 1, taken => do
    match ← take with
    | none =>
      if taken.isEmpty then fail (.missingName what) 0
      else fail (.unterminatedName terminator) taken.length
    | some symbol =>
      if symbol = .plain terminator then
        if taken.isEmpty then fail (.missingName what) 1 else return taken
      else takeUntil terminator what n (taken ++ symbol.text)

/-- Takes a name up to the given character. -/
def takeName (terminator : Char) (what : Text) : Reading Text := do
  takeUntil terminator what ((← get).rest.length + 1) []

/-- Puts a problem aside. -/
def putAside (place : Nat) (problem : Problem) : Reading Unit :=
  modify fun progress => { progress with aside := progress.aside ++ [(place, problem)] }

/-! ### Escapes -/

/-- What a symbol with a backslash stands for. -/
inductive Meaning where
  | code (n : Nat)
  | kind (kind : CharKind) (negated : Bool)
  | anchor (anchor : Anchor)
  | group (number : Nat)
  deriving DecidableEq, Repr

/-- Is the character a digit up to 7? -/
def isOctal (c : Char) : Bool := '0' ≤ c && c ≤ '7'

/-- Is the character a hexadecimal digit? -/
def isHex (c : Char) : Bool :=
  Text.isAsciiDigit c || ('a' ≤ c && c ≤ 'f') || ('A' ≤ c && c ≤ 'F')

/-- The number of which these are the digits. -/
def number (base : Nat) (digits : Text) : Nat :=
  Text.ofBaseDigits base (digits.filterMap Text.baseDigit?)

/-- The control characters with a letter. -/
def controlLetter? : Char → Option Nat
  | 'a' => some 7
  | 'f' => some 12
  | 'n' => some 10
  | 'r' => some 13
  | 't' => some 9
  | 'v' => some 11
  | _ => none

/-- The kinds of characters with a letter; a capital stands for all other characters. -/
def kindLetter? : Char → Option (CharKind × Bool)
  | 'd' => some (.digit, false)
  | 'D' => some (.digit, true)
  | 's' => some (.space, false)
  | 'S' => some (.space, true)
  | 'w' => some (.word, false)
  | 'W' => some (.word, true)
  | _ => none

/-- A number from this one on is not even looked up among the code points. -/
def codeLimit : Nat := 0x80000000

/-- Reads the code point that follows a letter in exactly `n` hexadecimal digits. -/
def readHex (letter : Char) (n : Nat) : Reading Nat := do
  let digits ← takeChars isHex n
  let escape : Text := '\\' :: letter :: digits
  if digits.length = n then
    let code := number 16 digits
    if code < 0x110000 then return code
    else if codeLimit ≤ code then throw .codeTooLarge
    else fail (.badEscape escape) escape.length
  else fail (.incompleteEscape escape) escape.length

/-- Reads the name of a character. -/
def readCharacterName : Reading Nat := do
  if ← accept '\x7b' then
    let name ← takeName '\x7d' "character name"
    match Text.charNamed? name with
    | some code => return code
    | none => fail (.unknownCharacterName name) (name.length + 4)
  else fail .missingBrace 0

/-- Reads what follows a letter that announces a code point. -/
def readCode? (letter : Char) : Reading (Option Nat) := do
  match letter with
  | 'x' => return some (← readHex 'x' 2)
  | 'u' => return some (← readHex 'u' 4)
  | 'U' => return some (← readHex 'U' 8)
  | 'N' => return some (← readCharacterName)
  | _ => return none

/-- The code point of an octal escape, which must be less than 256. -/
def readOctal (digits : Text) : Reading Nat := do
  let escape : Text := '\\' :: digits
  if 0o377 < number 8 digits then fail (.octalTooLarge escape) escape.length
  else return number 8 digits

/-- The code point of a character behind a backslash that has no other meaning there.  Letters and
digits are kept for meanings to come. -/
def readOwnCode (c : Char) : Reading Nat :=
  if Text.isAsciiLetter c || Text.isAsciiDigit c then fail (.badEscape ['\\', c]) 2
  else return c.toNat

/-- Reads an escape within a set of characters. -/
def readSetEscape (c : Char) : Reading Meaning := do
  if c = 'b' then return .code 8
  else if let some n := controlLetter? c then return .code n
  else if let some (kind, negated) := kindLetter? c then return .kind kind negated
  else if let some n ← readCode? c then return .code n
  else if isOctal c then
    let digits ← takeChars isOctal 2
    return .code (← readOctal (c :: digits))
  else return .code (← readOwnCode c)

/-- Refuses a reference within a lookbehind to a group that has not ended before it. -/
def checkLookbehind (group : Nat) : Reading Unit := do
  let progress ← get
  match progress.lookbehind with
  | none => return
  | some first =>
    if (progress.widths.lookup group).isNone then fail .openGroup 0
    else if first ≤ group then fail .groupOfSameLookbehind 0

/-- Reads a reference to a group by its number, or the code point that three octal digits give. -/
def readReference (c : Char) : Reading Meaning := do
  let more ← takeChars Text.isAsciiDigit 1
  let digits := c :: more
  let octal ← if more.length = 1 && digits.all isOctal then takeChars isOctal 1 else pure []
  if octal.length = 1 then return .code (← readOctal (digits ++ octal))
  else
    let group := number 10 digits
    let progress ← get
    if progress.groups < group then fail (.invalidGroup group) digits.length
    else if (progress.widths.lookup group).isNone then fail .openGroup (digits.length + 1)
    else
      checkLookbehind group
      return .group group

/-- Reads an escape outside of sets. -/
def readEscape (options : Options) (c : Char) : Reading Meaning := do
  if c = 'A' then return .anchor .textStart
  else if c = 'Z' then return .anchor .textEnd
  else if c = 'b' then return .anchor (.wordEdge options.ascii false)
  else if c = 'B' then return .anchor (.wordEdge options.ascii true)
  else if let some n := controlLetter? c then return .code n
  else if let some (kind, negated) := kindLetter? c then return .kind kind negated
  else if let some n ← readCode? c then return .code n
  else if c = '0' then
    let digits ← takeChars isOctal 2
    return .code (number 8 digits)
  else if Text.isAsciiDigit c then readReference c
  else return .code (← readOwnCode c)

/-- The part that an escape stands for. -/
def partOfMeaning (options : Options) : Meaning → Reading Part
  | .code n => return ⟨options.code false n, .exactly 1, .unit⟩
  | .kind kind negated =>
    return ⟨options.set false [.kind kind options.ascii negated], .exactly 1, .unit⟩
  | .anchor place => return ⟨.anchor place, .exactly 0, .anchor⟩
  | .group n => do
    let width := ((← get).widths.lookup n).getD (.exactly 0)
    return ⟨.backref n options.casing, width, .unit⟩

/-! ### Sets of characters -/

/-- The item of a set that an escape stands for.  Anchors and groups do not occur in sets. -/
def setItem (ascii : Bool) : Meaning → SetItem
  | .code n => .code n
  | .kind kind negated => .kind kind ascii negated
  | .anchor _ => .code 0
  | .group n => .code n

/-- What a symbol of a set stands for. -/
def readSetSymbol : Symbol → Reading Meaning
  | .plain c => return .code c.toNat
  | .escaped c => readSetEscape c
  | .lone => return .code '\\'.toNat

/-- Reads the items of a set up to its closing bracket, given those before them with the latest
first.  A bracket that comes first is an item.  The set began at the place `start`. -/
def readSetItems (ascii : Bool) (start : Nat) : Nat → (items : List SetItem) →
    Reading (List SetItem)
  | 0, _ => failAt .unterminatedSet start
  | n + 1, items => do
    match ← take with
    | none => failAt .unterminatedSet start
    | some first =>
      if first = .plain ']' && !items.isEmpty then return items.reverse
      else
        let low ← readSetSymbol first
        if ← accept '-' then
          match ← take with
          | none => failAt .unterminatedSet start
          | some last =>
            if last = .plain ']' then
              return (.code '-'.toNat :: setItem ascii low :: items).reverse
            else
              let high ← readSetSymbol last
              match low, high with
              | .code a, .code b =>
                if b < a then
                  fail (.badRange first.text last.text)
                    (first.text.length + 1 + last.text.length)
                else readSetItems ascii start n (.range a b :: items)
              | _, _ =>
                fail (.badRange first.text last.text)
                  (first.text.length + 1 + last.text.length)
        else readSetItems ascii start n (setItem ascii low :: items)

/-- Reads a set of characters after its opening bracket.  A set of one code point asks for
that. -/
def readSet (options : Options) (start : Nat) : Reading Part := do
  let negated ← accept '^'
  let items ← readSetItems options.ascii start ((← get).rest.length + 1) []
  match items.eraseDups with
  | [.code n] => return ⟨options.code negated n, .exactly 1, .unit⟩
  | distinct => return ⟨options.set negated distinct, .exactly 1, .unit⟩

/-! ### Repetitions -/

/-- The bounds of a repetition: the least number of times, and the largest if there is one. -/
abbrev Bounds := Nat × Option Nat

/-- The number of repetitions that digits give, if there are any. -/
def readCount (digits : Text) : Reading (Option Nat) :=
  if digits.isEmpty then return none
  else if Text.digitLimit < digits.length then throw (.numeral (.tooManyDigits digits.length))
  else
    let count := number 10 digits
    if repetitionLimit ≤ count then throw .repetitionTooLarge else return some count

/-- Reads the bounds of a repetition after an opening brace.  If none follow, the brace is an
ordinary character, and what comes after it is left as it was. -/
def readBraces : Reading (Option Bounds) := do
  let before ← get
  let fuel := before.rest.length
  if before.rest.head? = some (.plain '\x7d') then return none
  else
    let low ← takeChars Text.isAsciiDigit fuel
    let ranged ← accept ','
    let high ← if ranged then takeChars Text.isAsciiDigit fuel else pure low
    if ← accept '\x7d' then
      let least ← readCount low
      let most ← readCount high
      match most with
      | some n =>
        if n < least.getD 0 then failAt .repeatBounds before.place
        else return some (least.getD 0, most)
      | none => return some (least.getD 0, none)
    else
      set before
      return none

/-- Reads the bounds of a repetition after the sign for it. -/
def readBounds : Char → Reading (Option Bounds)
  | '?' => return some (0, some 1)
  | '*' => return some (0, none)
  | '+' => return some (1, none)
  | _ => readBraces

/-- The name of a kind of repetition. -/
def greedName : Greed → Text
  | .greedy => "MAX_REPEAT"
  | .lazy => "MIN_REPEAT"
  | .possessive => "POSSESSIVE_REPEAT"

/-- Reads the sign that may follow the bounds of a repetition. -/
def readGreed : Reading Greed := do
  if ← accept '?' then return .lazy
  if ← accept '+' then return .possessive
  return .greedy

/-- Repeats the latest piece.  The pieces come with the latest first, and the sign for the
repetition stands at `place`. -/
def repeatLatest (options : Options) (bounds : Bounds) (place : Nat) :
    List Piece → Reading (List Piece)
  | [] => failAt .nothingToRepeat place
  | piece :: pieces =>
    match piece.kind with
    | .anchor => failAt .nothingToRepeat place
    | .repetition => failAt .multipleRepeat place
    | _ => do
      let greed ← readGreed
      if options.template then putAside piece.start (.repeatInTemplate (greedName greed))
      let node := (nodeOf piece.parts).repetition greed bounds.1 bounds.2
      let width := (widthOf piece.parts).repetition bounds.1 bounds.2
      return .single piece.start ⟨node, width, .repetition⟩ :: pieces

/-! ### Options within a pattern -/

/-- The options that a pattern sets: for all of it, or for a part. -/
inductive OptionSetting where
  | whole (on : List Char)
  | part (on off : List Char)
  deriving DecidableEq, Repr

/-- What is wrong with a symbol among the letters of options. -/
def optionProblem (symbol : Symbol) (other : Problem) : Problem :=
  match symbol with
  | .plain c => if Text.isLetter c then .unknownOption else other
  | _ => other

/-- Reads letters of options to turn on, the first of which has been taken, and the sign after
them. -/
def readOn : Nat → (letter : Char) → (on : List Char) → Reading (List Char × Char)
  | 0, _, _ => fail .missingAfterOptions 0
  | n + 1, letter, earlier => do
    if letter = 'L' then fail .localeOption 0
    else
      let on := letter :: earlier
      if on.contains 'a' && on.contains 'u' then fail .incompatibleOptions 0
      else
        match ← take with
        | none => fail .missingAfterOptions 0
        | some symbol =>
          match symbol with
          | .plain c =>
            if c = ')' || c = '-' || c = ':' then return (on, c)
            else if Options.letters.contains c then readOn n c on
            else fail (optionProblem symbol .missingAfterOptions) 1
          | _ => fail (optionProblem symbol .missingAfterOptions) symbol.text.length

/-- Reads letters of options to turn off, the first of which has been taken, and the colon after
them. -/
def readOff : Nat → (letter : Char) → (off : List Char) → Reading (List Char)
  | 0, _, _ => fail .missingColon 0
  | n + 1, letter, earlier => do
    if letter = 'L' || letter = 'a' || letter = 'u' then fail .characterOptionOff 0
    else
      let off := letter :: earlier
      match ← take with
      | none => fail .missingColon 0
      | some symbol =>
        match symbol with
        | .plain c =>
          if c = ':' then return off
          else if Options.letters.contains c then readOff n c off
          else fail (optionProblem symbol .missingColon) 1
        | _ => fail (optionProblem symbol .missingColon) symbol.text.length

/-- Reads the first letter of an option to turn off and those after it. -/
def readFirstOff : Reading (List Char) := do
  match ← take with
  | none => fail .missingOption 0
  | some symbol =>
    match symbol with
    | .plain c =>
      if Options.letters.contains c then readOff ((← get).rest.length + 1) c []
      else fail (optionProblem symbol .missingOption) 1
    | _ => fail (optionProblem symbol .missingOption) symbol.text.length

/-- Reads a setting of options, of which the first character has been taken. -/
def readSetting (first : Char) : Reading OptionSetting := do
  let (on, sign) ←
    if first = '-' then pure ([], '-') else readOn ((← get).rest.length + 1) first []
  if sign = ')' then return .whole on
  else if on.contains 't' then fail .wholePatternOption 1
  else
    let off ← if sign = '-' then readFirstOff else pure []
    if off.contains 't' then fail .wholePatternOptionOff 1
    else if on.any fun c => off.contains c then fail .optionOnAndOff 1
    else return .part on off

/-! ### Groups -/

/-- What follows the opening parenthesis of a group. -/
inductive Opening where
  /-- A body, captured or not. -/
  | body (capture : Bool) (name : Option Text) (atomic : Bool) (on off : List Char)
  /-- A look ahead or behind. -/
  | look (behind negated : Bool)
  /-- A condition on a group. -/
  | condition (group : Nat)
  /-- A reference to a group, closed. -/
  | reference (group : Nat)
  /-- A comment, closed. -/
  | comment
  /-- Options for the whole pattern, closed. -/
  | options (on : List Char)
  deriving DecidableEq, Repr

/-- Checks the name of a group, which ended `back` characters before the next symbol. -/
def checkName (name : Text) (back : Nat) : Reading Unit :=
  if Text.isIdentifier name then return else fail (.badGroupName name) (name.length + back)

/-- Skips a comment that began at `start`. -/
def skipComment (start : Nat) : Nat → Reading Unit
  | 0 => failAt .unterminatedComment start
  | n + 1 => do
    match ← take with
    | none => failAt .unterminatedComment start
    | some symbol => if symbol = .plain ')' then return else skipComment start n

/-- Reads the group that a condition asks for. -/
def readCondition : Reading Nat := do
  let name ← takeName ')' "group name"
  let back := name.length + 1
  if Text.isIdentifier name then
    match (← get).names.lookup name with
    | some group => return group
    | none => fail (.unknownGroupName name) back
  else
    match Text.toInt 10 name with
    | .ok (.ofNat group) =>
      if group = 0 then fail .groupNumberZero back
      else if 1073741823 ≤ group then fail (.invalidGroup group) back
      else
        let progress ← get
        if (progress.asked.lookup group).isNone then
          set { progress with asked := progress.asked ++ [(group, progress.place - back)] }
        return group
    | _ => fail (.badGroupName name) back

/-- Reads a reference to a group by its name. -/
def readNamedReference : Reading Nat := do
  let name ← takeName ')' "group name"
  checkName name 1
  let progress ← get
  match progress.names.lookup name with
  | none => fail (.unknownGroupName name) (name.length + 1)
  | some group =>
    if (progress.widths.lookup group).isNone then fail .openGroup (name.length + 1)
    else
      checkLookbehind group
      return group

/-- Reads what follows the opening parenthesis at the place `start`. -/
def readOpening (start : Nat) : Reading Opening := do
  if ← accept '?' then
    match ← take with
    | none => fail .endOfPattern 0
    | some (.plain 'P') =>
      if ← accept '<' then
        let name ← takeName '>' "group name"
        checkName name 1
        return .body true (some name) false [] []
      else if ← accept '=' then return .reference (← readNamedReference)
      else
        match ← take with
        | none => fail .endOfPattern 0
        | some symbol =>
          fail (.unknownExtension ('P' :: symbol.text)) (symbol.text.length + 2)
    | some (.plain ':') => return .body false none false [] []
    | some (.plain '#') =>
      skipComment start ((← get).rest.length + 1)
      return .comment
    | some (.plain '=') => return .look false false
    | some (.plain '!') => return .look false true
    | some (.plain '<') =>
      match ← take with
      | none => fail .endOfPattern 0
      | some symbol =>
        if symbol = .plain '=' then return .look true false
        else if symbol = .plain '!' then return .look true true
        else fail (.unknownExtension ('<' :: symbol.text)) (symbol.text.length + 2)
    | some (.plain '(') =>
      let group ← readCondition
      checkLookbehind group
      return .condition group
    | some (.plain '>') => return .body false none true [] []
    | some symbol =>
      match symbol with
      | .plain c =>
        if c = '-' || Options.letters.contains c then
          match ← readSetting c with
          | .whole on => return .options on
          | .part on off => return .body false none false on off
        else fail (.unknownExtension symbol.text) 2
      | _ => fail (.unknownExtension symbol.text) (symbol.text.length + 1)
  else return .body true none false [] []

/-- Begins a group and gives its number. -/
def beginGroup (name : Option Text) : Reading Nat := do
  let progress ← get
  let group := progress.groups + 1
  match name with
  | none => set { progress with groups := group }
  | some word =>
    match progress.names.lookup word with
    | some earlier => fail (.groupNameTaken word group earlier) (word.length + 1)
    | none => set { progress with groups := group, names := (word, group) :: progress.names }
  return group

/-- Takes the parenthesis that closes what began at `start`. -/
def close (start : Nat) : Reading Unit := do
  if ← accept ')' then return else failAt .unterminatedGroup start

/-- A lookbehind cannot go back this many characters. -/
def addressLimit : Nat := 0x80000000

/-- The number of characters that a lookbehind goes back.  One of no fixed length is put aside,
and so is one that goes back too far. -/
def backOf (start : Nat) (width : Width) : Reading Nat := do
  if width.most ≠ width.least then putAside start .lookbehindNotFixed
  else if addressLimit ≤ width.least then
    modify fun progress => { progress with unaddressable := true }
  return width.least

/-- Is the symbol white space between the parts of a verbose pattern? -/
def isLayout (symbol : Symbol) : Bool :=
  match symbol with
  | .plain c => (9 ≤ c.toNat && c.toNat ≤ 13) || c = ' '
  | _ => false

/-- Skips the rest of a line. -/
def skipLine : Nat → Reading Unit
  | 0 => return
  | n + 1 => do
    match ← take with
    | none => return
    | some symbol => if symbol = .plain '\n' then return else skipLine n

/-! ### Parts and bodies -/

mutual

/-- Reads the alternatives up to the end of the pattern or of the group, and gives the parts that
they amount to.  At the top there are no options but those of the whole pattern, and `opening` says
whether they may still be set. -/
def readBody : Nat → (own : Option Options) → (opening : Bool) → Reading (List Part)
  | 0, _, _ => fail .endOfPattern 0
  | fuel + 1, own, opening => do
    let alternatives ← readAlternatives fuel own opening
    return alternation (own.getD (← get).options).casing alternatives

/-- Reads alternatives. -/
def readAlternatives : Nat → (own : Option Options) → (opening : Bool) →
    Reading (List (List Part))
  | 0, _, _ => fail .endOfPattern 0
  | fuel + 1, own, opening => do
    let parts := partsOf (← readPieces fuel own opening [])
    if ← accept '|' then return parts :: (← readAlternatives fuel own false) else return [parts]

/-- Reads pieces, the latest of which come first in `pieces`, up to a bar or the end of the pattern
or of the group. -/
def readPieces : Nat → (own : Option Options) → (opening : Bool) → (pieces : List Piece) →
    Reading (List Piece)
  | 0, _, _, _ => fail .endOfPattern 0
  | fuel + 1, own, opening, pieces => do
    let progress ← get
    let options := own.getD progress.options
    let start := progress.place
    match progress.rest.head? with
    | none => return pieces
    | some symbol =>
      if symbol = .plain '|' || symbol = .plain ')' then return pieces
      else
        let _ ← take
        if options.verbose && isLayout symbol then readPieces fuel own opening pieces
        else if options.verbose && symbol = .plain '#' then
          skipLine ((← get).rest.length + 1)
          readPieces fuel own opening pieces
        else
          let next (part : Part) := readPieces fuel own opening (.single start part :: pieces)
          match symbol with
          | .escaped c => next (← partOfMeaning options (← readEscape options c))
          | .lone => fail .escapeAtEnd 1
          | .plain '[' => next (← readSet options start)
          | .plain '(' =>
            match ← readGroup fuel options start (opening && own.isNone && pieces.isEmpty) with
            | none => readPieces fuel own opening pieces
            | some piece => readPieces fuel own opening (piece :: pieces)
          | .plain '.' => next ⟨.char (.any options.dotAll), .exactly 1, .unit⟩
          | .plain '^' =>
            let place : Anchor := if options.multiline then .lineStart else .textStart
            next ⟨.anchor place, .exactly 0, .anchor⟩
          | .plain '$' =>
            let place : Anchor := if options.multiline then .lineEnd else .lastLineEnd
            next ⟨.anchor place, .exactly 0, .anchor⟩
          | .plain c =>
            let own' : Part := ⟨options.code false c.toNat, .exactly 1, .unit⟩
            if c = '*' || c = '+' || c = '?' || c = '\x7b' then
              match ← readBounds c with
              | some bounds =>
                readPieces fuel own opening (← repeatLatest options bounds start pieces)
              | none => next own'
            else next own'

/-- Reads a group after its opening parenthesis at the place `start`.  Comments and options are no
pieces; `opening` says whether options for the whole pattern may be set here. -/
def readGroup : Nat → Options → (start : Nat) → (opening : Bool) → Reading (Option Piece)
  | 0, _, _, _ => fail .endOfPattern 0
  | fuel + 1, options, start, opening => do
    match ← readOpening start with
    | .comment => return none
    | .options on =>
      modify fun progress => { progress with options := on.foldl Options.turnOn progress.options }
      if opening then return none else failAt .optionsNotAtStart start
    | .reference group =>
      return some (.single start (← partOfMeaning options (.group group)))
    | .look behind negated =>
      let outer := (← get).lookbehind
      if behind && outer.isNone then
        modify fun progress => { progress with lookbehind := some (progress.groups + 1) }
      let body ← readBody fuel (some options) false
      modify fun progress => { progress with lookbehind := outer }
      close start
      let back ← if behind then some <$> backOf start (widthOf body) else pure none
      return some (.single start ⟨.look back negated (nodeOf body), .exactly 0, .other⟩)
    | .condition group =>
      let yes := partsOf (← readPieces fuel (some options) false [])
      let no ←
        if ← accept '|' then
          let no := partsOf (← readPieces fuel (some options) false [])
          if (← peek) = some (.plain '|') then fail .tooManyBranches 0
          pure no
        else pure []
      close start
      return some (.single start
        ⟨.cond group (nodeOf yes) (nodeOf no), (widthOf yes).orElse (widthOf no), .other⟩)
    | .body capture name atomic on off =>
      let group ← if capture then some <$> beginGroup name else pure none
      let body ← readBody fuel (some (options.within on off)) false
      close start
      let width := widthOf body
      match group with
      | some number =>
        modify fun progress => { progress with widths := (number, width) :: progress.widths }
        return some (.single start ⟨.group number (nodeOf body), width, .other⟩)
      | none =>
        if atomic then return some (.single start ⟨.atomic (nodeOf body), width, .other⟩)
        else if on.isEmpty && off.isEmpty then return some ⟨start, body, .other⟩
        else return some (.single start ⟨nodeOf body, width, .other⟩)

end

/-- Of the problems that were put aside, the one that stands first, and of those at one place the
one that was put aside last: a repetition comes before what it repeats. -/
def firstAside : List (Nat × Problem) → Option (Nat × Problem)
  | [] => none
  | entry :: entries =>
    match firstAside entries with
    | none => some entry
    | some other => if other.1 ≤ entry.1 then some other else some entry

/-- Reads a whole pattern. -/
def readPattern : Reading (Node × Nat) := do
  refuseLone
  let body ← readBody (6 * (← get).rest.length + 12) none true
  let progress ← get
  if progress.options.ascii && progress.options.unicode then throw .conflictingOptions
  if !progress.rest.isEmpty then fail .unbalancedParenthesis 0
  if let some (group, place) := progress.asked.find? fun entry => progress.groups < entry.1 then
    failAt (.invalidGroup group) place
  if let some (_, problem) := firstAside progress.aside then throw (.malformed problem none)
  if progress.unaddressable then throw .lookbehindTooLong
  return (nodeOf body, progress.groups)

end Reading

/-- What a pattern matches and the number of its groups. -/
def compile (source : Text) : Except Fault (Node × Nat) :=
  (Reading.readPattern.run ⟨symbols source, 0, {}, 0, [], [], none, [], [], false⟩).map (·.1)

end DockCheck.Pattern
