import DockCheck.Text

/-!
# Command line arguments

`Arguments.read` sorts the arguments of a command line into options and others.  A long option is
written `--name value` or `--name=value`.  A short one is a letter after a single dash, its value
comes right behind it or is the next argument, and options without a value may stand together
before it.  The argument `--` ends the options.

What the values mean is not decided here, so that of an option that is given twice only the last
value counts, and only that has to make sense.
-/

namespace DockCheck.CommandLine

/-- The options. -/
inductive OptionName where
  | dockerfile
  | standards
  | tools
  | precision
  | matching
  | format
  | verbose
  | help
  deriving DecidableEq, Repr

namespace OptionName

/-- All options. -/
def all : List OptionName :=
  [.dockerfile, .standards, .tools, .precision, .matching, .format, .verbose, .help]

/-- The long form of an option. -/
def long : OptionName → Text
  | dockerfile => "--dockerfile"
  | standards => "--standards"
  | tools => "--tools"
  | precision => "--precision"
  | matching => "--match"
  | format => "--format"
  | verbose => "--verbose"
  | help => "--help"

/-- The letter of an option that has one. -/
def letter? : OptionName → Option Char
  | dockerfile => some 'f'
  | standards => some 's'
  | verbose => some 'v'
  | _ => none

/-- Does a value belong to the option? -/
def takesValue : OptionName → Bool
  | verbose => false
  | help => false
  | _ => true

/-- The option with a long form. -/
def ofLong? (t : Text) : Option OptionName := all.find? fun option => option.long == t

/-- The option with a letter. -/
def ofLetter? (c : Char) : Option OptionName := all.find? fun option => option.letter? == some c

end OptionName

/-- What is wrong with a command line. -/
inductive UsageError where
  | unknownOption (t : Text)
  | missingValue (option : OptionName)
  | unwantedValue (option : OptionName)
  | unknownChoice (option : OptionName) (value : Text)
  | extraArgument (t : Text)
  deriving DecidableEq, Repr

/-- The wording of what is wrong with a command line. -/
def UsageError.message : UsageError → Text
  | unknownOption t => "No such option: " ++ t
  | missingValue option => "Option " ++ option.long ++ " requires a value"
  | unwantedValue option => "Option " ++ option.long ++ " takes no value"
  | unknownChoice option value => "Unknown value for " ++ option.long ++ ": " ++ value
  | extraArgument t => "Unexpected argument: " ++ t

/-- The arguments of a command line: the options with their values, in order, and the others.  An
option that takes no value has an empty one. -/
structure Arguments where
  options : List (OptionName × Text)
  others : List Text
  deriving DecidableEq, Repr

namespace Arguments

/-- No arguments. -/
def none : Arguments := ⟨[], []⟩

/-- The arguments with an option in front. -/
def withOption (option : OptionName) (value : Text) (arguments : Arguments) : Arguments :=
  { arguments with options := (option, value) :: arguments.options }

/-- The arguments with options that take no value in front. -/
def withFlags (flags : List OptionName) (arguments : Arguments) : Arguments :=
  flags.foldr (fun flag arguments => arguments.withOption flag []) arguments

/-- The arguments with another one in front that is no option. -/
def withOther (t : Text) (arguments : Arguments) : Arguments :=
  { arguments with others := t :: arguments.others }

/-- Splits the text of a long option at its first equals sign. -/
def splitValue (t : Text) : Text × Option Text :=
  match t.dropWhile (· != '=') with
  | [] => (t, .none)
  | _ :: value => (t.takeWhile (· != '='), some value)

/-- Reads the letters behind a single dash: the options without a value, and the option with a
value behind them, if there is one, with the rest of the letters. -/
def letters : Text → Except UsageError (List OptionName × Option (OptionName × Text))
  | [] => .ok ([], .none)
  | c :: rest =>
    match OptionName.ofLetter? c with
    | .none => .error (.unknownOption ['-', c])
    | some option =>
      if option.takesValue then .ok ([], some (option, rest))
      else (letters rest).map fun (flags, last) => (option :: flags, last)

/-- What an argument says. -/
inductive Reading where
  /-- The options end. -/
  | stop
  /-- It is no option. -/
  | other
  /-- It holds options without a value. -/
  | flags (options : List OptionName)
  /-- It holds options without a value, and then one with its value. -/
  | option (flags : List OptionName) (option : OptionName) (value : Text)
  /-- It holds options without a value, and then one whose value is the next argument. -/
  | awaiting (flags : List OptionName) (option : OptionName)
  deriving DecidableEq, Repr

/-- Reads an argument that is a long option. -/
def readLong (option : OptionName) (value : Option Text) : Except UsageError Reading :=
  match option.takesValue, value with
  | true, some value => .ok (.option [] option value)
  | true, .none => .ok (.awaiting [] option)
  | false, .none => .ok (.flags [option])
  | false, some _ => .error (.unwantedValue option)

/-- Reads an argument whose options are letters. -/
def readLetters (t : Text) : Except UsageError Reading :=
  (letters t).map fun (flags, last) =>
    match last with
    | .none => .flags flags
    | some (option, []) => .awaiting flags option
    | some (option, value) => .option flags option value

/-- Reads an argument.  A dash alone is no option. -/
def readOne (t : Text) : Except UsageError Reading :=
  match t with
  | ['-', '-'] => .ok .stop
  | '-' :: c :: rest =>
    let (name, value) := splitValue t
    match OptionName.ofLong? name with
    | some option => readLong option value
    | .none => if c == '-' then .error (.unknownOption name) else readLetters (c :: rest)
  | _ => .ok .other

/-- Sorts arguments into options and others. -/
def read : List Text → Except UsageError Arguments
  | [] => .ok none
  | t :: rest =>
    match readOne t with
    | .error error => .error error
    | .ok .stop => .ok ⟨[], rest⟩
    | .ok .other => (read rest).map (·.withOther t)
    | .ok (.flags flags) => (read rest).map (·.withFlags flags)
    | .ok (.option flags option value) =>
      (read rest).map fun arguments => (arguments.withOption option value).withFlags flags
    | .ok (.awaiting flags option) =>
      match rest with
      | [] => .error (.missingValue option)
      | value :: rest =>
        (read rest).map fun arguments => (arguments.withOption option value).withFlags flags

/-- The last value of an option. -/
def last? (arguments : Arguments) (option : OptionName) : Option Text :=
  arguments.options.reverse.lookup option

/-- Is the option there? -/
def has (arguments : Arguments) (option : OptionName) : Bool := (arguments.last? option).isSome

end Arguments

end DockCheck.CommandLine
