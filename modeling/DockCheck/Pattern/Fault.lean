import DockCheck.Text.Numeral
import DockCheck.Text.Quoted

/-!
# Faults of patterns

Why a text is no pattern.  A `Problem` is what is wrong at one place of it, and a `Fault` is a
problem with its place, or one of the few conditions that concern the pattern as a whole.
-/

namespace DockCheck.Pattern

/-- What is wrong at a place of a pattern. -/
inductive Problem where
  | escapeAtEnd
  | incompleteEscape (escape : Text)
  | badEscape (escape : Text)
  | octalTooLarge (escape : Text)
  | missingBrace
  | missingName (what : Text)
  | unterminatedName (terminator : Char)
  | unknownCharacterName (name : Text)
  | openGroup
  | groupOfSameLookbehind
  | invalidGroup (number : Nat)
  | unterminatedSet
  | badRange (first last : Text)
  | repeatBounds
  | nothingToRepeat
  | multipleRepeat
  | endOfPattern
  | badGroupName (name : Text)
  | groupNameTaken (name : Text) (number earlier : Nat)
  | unknownGroupName (name : Text)
  | unknownExtension (extension : Text)
  | unterminatedComment
  | unterminatedGroup
  | groupNumberZero
  | tooManyBranches
  | optionsNotAtStart
  | localeOption
  | incompatibleOptions
  | unknownOption
  | missingAfterOptions
  | missingOption
  | missingColon
  | wholePatternOption
  | wholePatternOptionOff
  | characterOptionOff
  | optionOnAndOff
  | unbalancedParenthesis
  | lookbehindNotFixed
  | repeatInTemplate (operator : Text)
  deriving DecidableEq, Repr

/-- The wording of a problem. -/
def Problem.message : Problem → Text
  | .escapeAtEnd => "bad escape (end of pattern)"
  | .incompleteEscape escape => "incomplete escape " ++ escape
  | .badEscape escape => "bad escape " ++ escape
  | .octalTooLarge escape => "octal escape value " ++ escape ++ " outside of range 0-0o377"
  | .missingBrace => "missing \x7b"
  | .missingName what => "missing " ++ what
  | .unterminatedName terminator => "missing " ++ [terminator] ++ ", unterminated name"
  | .unknownCharacterName name => "undefined character name " ++ Text.quoted name
  | .openGroup => "cannot refer to an open group"
  | .groupOfSameLookbehind =>
    "cannot refer to group defined in the same lookbehind subpattern"
  | .invalidGroup number => "invalid group reference " ++ Text.ofNat number
  | .unterminatedSet => "unterminated character set"
  | .badRange first last => "bad character range " ++ first ++ "-" ++ last
  | .repeatBounds => "min repeat greater than max repeat"
  | .nothingToRepeat => "nothing to repeat"
  | .multipleRepeat => "multiple repeat"
  | .endOfPattern => "unexpected end of pattern"
  | .badGroupName name => "bad character in group name " ++ Text.quoted name
  | .groupNameTaken name number earlier =>
    "redefinition of group name " ++ Text.quoted name ++ " as group " ++ Text.ofNat number
      ++ "; was group " ++ Text.ofNat earlier
  | .unknownGroupName name => "unknown group name " ++ Text.quoted name
  | .unknownExtension extension => "unknown extension ?" ++ extension
  | .unterminatedComment => "missing ), unterminated comment"
  | .unterminatedGroup => "missing ), unterminated subpattern"
  | .groupNumberZero => "bad group number"
  | .tooManyBranches => "conditional backref with more than two branches"
  | .optionsNotAtStart => "global flags not at the start of the expression"
  | .localeOption => "bad inline flags: cannot use 'L' flag with a str pattern"
  | .incompatibleOptions => "bad inline flags: flags 'a', 'u' and 'L' are incompatible"
  | .unknownOption => "unknown flag"
  | .missingAfterOptions => "missing -, : or )"
  | .missingOption => "missing flag"
  | .missingColon => "missing :"
  | .wholePatternOption => "bad inline flags: cannot turn on global flag"
  | .wholePatternOptionOff => "bad inline flags: cannot turn off global flag"
  | .characterOptionOff => "bad inline flags: cannot turn off flags 'a', 'u' and 'L'"
  | .optionOnAndOff => "bad inline flags: flag turned on and off"
  | .unbalancedParenthesis => "unbalanced parenthesis"
  | .lookbehindNotFixed => "look-behind requires fixed-width pattern"
  | .repeatInTemplate operator => "internal: unsupported template operator " ++ operator

/-- Why a text is no pattern. -/
inductive Fault where
  /-- Something is wrong, perhaps at a certain place. -/
  | malformed (problem : Problem) (place : Option Nat)
  /-- The pattern asks for ASCII characters and for all characters at once. -/
  | conflictingOptions
  /-- A number of repetitions has too many digits. -/
  | numeral (fault : Text.NumeralFault)
  /-- A number of repetitions is out of range. -/
  | repetitionTooLarge
  /-- A number is far too large to be a code point. -/
  | codeTooLarge
  /-- A lookbehind goes back too far. -/
  | lookbehindTooLong
  deriving DecidableEq, Repr

/-- The wording of a place in a pattern.  In a pattern of several lines it is given by line and
column, too. -/
def placeMessage (source : Text) (place : Nat) : Text :=
  let before := source.take place
  let column := (before.reverse.takeWhile (· != '\n')).length + 1
  " at position " ++ Text.ofNat place ++
    if source.contains '\n' then
      " (line " ++ Text.ofNat (before.count '\n' + 1) ++ ", column " ++ Text.ofNat column ++ ")"
    else ([] : Text)

/-- The wording of a fault of the given pattern. -/
def Fault.message (source : Text) : Fault → Text
  | .malformed problem none => problem.message
  | .malformed problem (some place) => problem.message ++ placeMessage source place
  | .conflictingOptions => "ASCII and UNICODE flags are incompatible"
  | .numeral fault => fault.message
  | .repetitionTooLarge => "the repetition number is too large"
  | .codeTooLarge => "Python int too large to convert to C int"
  | .lookbehindTooLong => "invalid SRE code"

end DockCheck.Pattern
