import DockCheck.CommandLine

/-!
# The program

Reads the arguments, the environment and the files, and lets `CommandLine.run` do the rest.
-/

namespace DockCheck.Program

/-- What stands at a place among the files. -/
def probe (place : List Text) : IO (Option Content) := do
  let name := String.ofList ('/' :: Text.join ['/'] place)
  try
    if ← (← IO.FS.realPath name).isDir then return some .directory
    return some (.file (← IO.FS.readBinFile name).toList)
  catch _ => return none

/-- The files with what stands along a path. -/
def gather (files : Files) (path : Path) : IO Files := do
  let mut files := files
  let mut place := files.start path
  for name in path.names do
    place := Files.move place name
    match ← probe place with
    | some content => files := files.put place content
    | none => pure ()
  return files

/-- The files that a run may read. -/
def filesFor (arguments : List Text) (environment : List (Text × Text)) : IO Files := do
  let here := (Path.ofText (← IO.currentDir).toString.toList).names
  let files := Files.fresh here
  match CommandLine.Request.ofArguments arguments, Settings.load environment with
  | .ok (.check options), .ok settings =>
    (CommandLine.Plan.make options settings).paths.foldlM gather files
  | _, _ => return files

/-- The variable that an entry of the environment sets. -/
def assignment? (entry : Text) : Option (Text × Text) :=
  match entry.dropWhile (· != '=') with
  | [] => none
  | _ :: value => some (entry.takeWhile (· != '='), value)

/-- The variables of the environment. -/
def environment : IO (List (Text × Text)) := do
  let bytes ← IO.FS.readBinFile "/proc/self/environ"
  match Utf8.decode bytes.toList with
  | .ok t => return (Text.fields '\x00' t).filterMap assignment?
  | .error _ => return []

/-- Writes a text for the user, apart from the report. -/
def tell (t : Text) : IO Unit := IO.eprintln (String.ofList t)

/-- Writes records of the log. -/
def tellRecords (records : List LogRecord) : IO Unit :=
  records.forM fun record => tell (record.level.name ++ " " ++ record.message.wording)

/-- The options in short. -/
def usage : Text :=
  "Options: " ++ Text.join " " (CommandLine.OptionName.all.map CommandLine.OptionName.long)

/-- Acts as a run ends, and gives the code to leave with. -/
def finish : CommandLine.Ending → IO UInt32
  | .misused error => do
    tell error.message
    tell usage
    return 2
  | .helped => do
    IO.println (String.ofList usage)
    return 0
  | .finished code output records => do
    tellRecords records
    IO.print (String.ofList output)
    return code.toUInt32
  | .crashed crash records => do
    tellRecords records
    tell crash.message
    return 1

end DockCheck.Program

/-- The program. -/
def main (arguments : List String) : IO UInt32 := do
  let given := arguments.map String.toList
  let environment ← DockCheck.Program.environment
  let files ← DockCheck.Program.filesFor given environment
  DockCheck.Program.finish (DockCheck.CommandLine.run given environment files)
