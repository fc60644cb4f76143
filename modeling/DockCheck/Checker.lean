import DockCheck.Dockerfile.BaseImage
import DockCheck.Dockerfile.Directive
import DockCheck.Dockerfile.Run
import DockCheck.Log.Logged
import DockCheck.Report
import DockCheck.Standards
import DockCheck.Text.Lines
import DockCheck.Tool.Builtin
import DockCheck.Tool.Catalog

/-!
# Checkers

A `Checker` checks Dockerfiles against standards.  `Checker.check` makes the report on one, and
`Checker.checkTools` judges the tools that a text mentions.

The tools come from a catalog, or are the built-in ones.  The catalog is read when it is first
needed: `Checker.afterReading` is the checker that remembers it.  A catalog that could not be read
is not remembered.
-/

namespace DockCheck

/-- What Dockerfiles are checked against. -/
structure Checker where
  standards : Standards
  /-- Where the tools are described, unless they are the built-in ones. -/
  catalogPath : Option Path
  policies : Policies
  /-- The tools, once they are known. -/
  known : Option (List ToolSpec)

namespace Checker

/-- A name that is given, or else another one.  An empty name is not given. -/
def nameOr (given : Option Text) (usual : Text) : Text :=
  match given with
  | some (c :: name) => c :: name
  | _ => usual

/-- The checker with the given standards, whose policies count where no other is given. -/
def ofStandards (standards : Standards) (catalogPath : Option Path)
    (precision matching : Option Text) : Checker where
  standards := standards
  catalogPath := catalogPath
  policies :=
    ⟨nameOr precision standards.precision.name, nameOr matching standards.policy.name⟩
  known := none

/-! ### The tools -/

/-- The wording of the record that a catalog was read. -/
def loadedMessage (path : Path) (specs : List ToolSpec) : Text :=
  "Loaded " ++ Text.ofNat specs.length ++ " tool definitions from " ++ path.toText

/-- Reads the tools. -/
def readTools (files : Files) : Option Path → Logged (List ToolSpec)
  | none => pure Builtin.tools
  | some path => do
    let specs ← Logged.ofExcept (Catalog.load files path)
    Logged.log .debug .checker (loadedMessage path specs)
    return specs

/-- The tools, which are read unless they are known. -/
def tools (files : Files) (checker : Checker) : Logged (List ToolSpec) :=
  match checker.known with
  | some specs => pure specs
  | none => readTools files checker.catalogPath

/-- The checker after it asked for the tools. -/
def afterReading (files : Files) (checker : Checker) : Checker :=
  { checker with known := (checker.tools files).outcome.toOption }

/-- A checker that knows the tools stays as it is. -/
theorem afterReading_of_known {checker : Checker} {specs : List ToolSpec}
    (h : checker.known = some specs) (files : Files) : checker.afterReading files = checker := by
  obtain ⟨standards, catalogPath, policies, known⟩ := checker
  subst h
  rfl

/-! ### The check -/

/-- The wording of the record that a tool was detected. -/
def detectedMessage (name version : Text) : Text := name ++ ": detected version " ++ version

/-- Leaves a record of a tool that was detected. -/
def logDetection (result : ToolResult) : Logged Unit :=
  match result.version? with
  | none => pure ()
  | some version => Logged.log .debug .checker (detectedMessage result.name version)

/-- Judges a tool in a text.  A tool without a list of allowed versions is a fault of the
catalog. -/
def checkSpec (checker : Checker) (t : Text) (spec : ToolSpec) : Logged ToolResult :=
  match checker.standards.allowed? spec.key with
  | none =>
    Logged.fail (.reported (.catalogInvalid checker.catalogPath (.unknownKey spec.key)))
  | some allowed => do
    let judged := checkToolBy checker.policies allowed spec t
    let result ← Logged.ofExcept (judged.mapError fun fault => .escaped (.tool fault))
    logDetection result
    return result

/-- Judges the tools in a text. -/
def checkTools (files : Files) (t : Text) (checker : Checker) : Logged (List ToolResult) := do
  let specs ← checker.tools files
  specs.mapM (checker.checkSpec t)

/-- The wording of the record that the instructions were collected. -/
def collectedMessage (instructions lines : List Text) : Text :=
  "Reassembled " ++ Text.ofNat instructions.length ++ " RUN instructions from "
    ++ Text.ofNat lines.length ++ " lines"

/-- Leaves a record of the verdict. -/
def logVerdict (report : Report) : Logged Unit :=
  if report.passed then Logged.log .info .checker "Dockerfile complies with standards"
  else Logged.log .warning .checker "Dockerfile violates standards"

/-- The text in which tools are looked for: the instructions, each on a line of its own. -/
def toolText (instructions : List Text) : Text := Text.join ['\n'] instructions

/-- The report on a Dockerfile. -/
def check (files : Files) (content : Text) (checker : Checker) : Logged Report := do
  let lines := Text.lines content
  let instructions := Dockerfile.runInstructions (Dockerfile.escapeOf lines) lines
  Logged.log .debug .checker (collectedMessage instructions lines)
  let results ← checker.checkTools files (toolText instructions)
  let report : Report := ⟨checkBaseImage lines checker.standards.baseImage, results⟩
  logVerdict report
  return report

end Checker

end DockCheck
