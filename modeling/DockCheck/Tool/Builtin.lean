import DockCheck.Tool

/-!
# The built-in tools

The tools that are looked for when no catalog is given.  Each pattern is written twice, as the text
that describes it and as what it matches, and the kernel checks that the one reads as the other.
The patterns of a tool go from the specific to the general.
-/

namespace DockCheck.Builtin

open Pattern (Node)

/-- Outcomes can be compared. -/
instance decidableEqOutcome {ε α : Type} [DecidableEq ε] [DecidableEq α] :
    DecidableEq (Except ε α)
  | .ok a, .ok b =>
    if h : a = b then isTrue (congrArg Except.ok h) else isFalse fun heq => h (Except.ok.inj heq)
  | .error e, .error f =>
    if h : e = f then isTrue (congrArg Except.error h)
    else isFalse fun heq => h (Except.error.inj heq)
  | .ok _, .error _ => isFalse nofun
  | .error _, .ok _ => isFalse nofun

/-! ### Parts of the patterns -/

/-- A character with the given code point, in any letter case. -/
def letter (c : Char) : Node := .char (.ofCode .unicode false c.toNat)

/-- The characters of a text, in any letter case. -/
def word (t : Text) : List Node := t.map letter

/-- One node after the other. -/
def sequence : List Node → Node
  | [] => .empty
  | [node] => node
  | node :: nodes => .seq node (sequence nodes)

/-- The first of the given nodes that matches. -/
def choice : List Node → Node
  | [] => .empty
  | [node] => node
  | node :: nodes => .alt node (choice nodes)

/-- A character out of the given ones. -/
def oneOf (t : Text) : Pattern.CharTest :=
  .ofItems .unicode false (t.map fun c => .code c.toNat)

/-- A character out of the given ones, or nothing. -/
def maybeOneOf (t : Text) : Node := .run .greedy 0 (some 1) (oneOf t)

/-- A character, or nothing. -/
def maybe (c : Char) : Node := .run .greedy 0 (some 1) (.ofCode .unicode false c.toNat)

/-- A character of a kind. -/
def ofKind (kind : Pattern.CharKind) (negated : Bool) : Pattern.CharTest :=
  .ofItems .unicode false [.kind kind false negated]

/-- A run of decimal digits. -/
def digits : Node := .run .greedy 1 none (ofKind .digit false)

/-- A run of white space. -/
def spaces : Node := .run .greedy 1 none (ofKind .space false)

/-- A dot and digits after it. -/
def dotDigits : Node := .seq (letter '.') digits

/-- Digits, and then any number of times a dot and digits, captured. -/
def version : Node := .group 1 (.seq digits (.times .greedy 0 none dotDigits))

/-- The start of a word. -/
def wordEdge : Node := .anchor (.wordEdge false false)

/-- The pattern with the given parts and text. -/
def pattern (parts : List Node) (source : Text)
    (h : Pattern.compile source = .ok (sequence parts, 1) := by decide +kernel) : Pattern :=
  ⟨source, sequence parts, 1, h, Nat.le_refl 1⟩

/-! ### The tools -/

/-- The install command of the SDK manager for a candidate. -/
def sdkInstall (candidate : Text) : List Node :=
  word "sdk" ++ [spaces] ++ word "install" ++ [spaces] ++ word candidate ++ [spaces, version]

/-- The Java development kit. -/
def java : ToolSpec where
  key := "jdk"
  name := "Java"
  patterns := [
    pattern (sdkInstall "java") "sdk\\s+install\\s+java\\s+(\\d+(?:\\.\\d+)*)",
    pattern (word "openjdk" ++ [maybeOneOf "-@:", version]) "openjdk[-@:]?(\\d+(?:\\.\\d+)*)",
    pattern
      [choice [sequence (word "temurin"), sequence (word "corretto"), sequence (word "zulu")],
        maybeOneOf "-@:", version]
      "(?:temurin|corretto|zulu)[-@:]?(\\d+(?:\\.\\d+)*)",
    pattern (word "jdk" ++ [maybeOneOf "-@:", version]) "jdk[-@:]?(\\d+(?:\\.\\d+)*)",
    pattern (word "java" ++ [maybeOneOf "- ", version]) "java[- ]?(\\d+(?:\\.\\d+)*)"]

/-- The Maven build tool. -/
def maven : ToolSpec where
  key := "maven"
  name := "Maven"
  patterns := [
    pattern (word "apache-maven-" ++ [version]) "apache-maven-(\\d+(?:\\.\\d+)*)",
    pattern (sdkInstall "maven") "sdk\\s+install\\s+maven\\s+(\\d+(?:\\.\\d+)*)",
    pattern (word "maven" ++ [.char (oneOf "-: "), maybe 'v', version])
      "maven[-: ]v?(\\d+(?:\\.\\d+)*)",
    pattern (word "mvn" ++ [.char (oneOf "- "), version]) "mvn[- ](\\d+(?:\\.\\d+)*)"]

/-- The Gradle build tool. -/
def gradle : ToolSpec where
  key := "gradle"
  name := "Gradle"
  patterns := [
    pattern
      (word "gradle-" ++
        [version, letter '-', choice [sequence (word "bin"), sequence (word "all")]])
      "gradle-(\\d+(?:\\.\\d+)*)-(?:bin|all)",
    pattern (sdkInstall "gradle") "sdk\\s+install\\s+gradle\\s+(\\d+(?:\\.\\d+)*)",
    pattern (word "gradle" ++ [.char (oneOf "-: "), maybe 'v', version])
      "gradle[-: ]v?(\\d+(?:\\.\\d+)*)"]

/-- The Go tool chain. -/
def go : ToolSpec where
  key := "go"
  name := "Go"
  patterns := [
    pattern
      (wordEdge :: word "go" ++
        [.group 1 (.seq digits (.times .greedy 1 none dotDigits)), letter '.',
          choice [sequence (word "linux"), sequence (word "darwin"), sequence (word "windows"),
            sequence (word "freebsd")]])
      "\\bgo(\\d+(?:\\.\\d+)+)\\.(?:linux|darwin|windows|freebsd)",
    pattern (word "golang" ++ [.char (oneOf "-: "), maybe 'v', version])
      "golang[-: ]v?(\\d+(?:\\.\\d+)*)",
    pattern
      (wordEdge :: word "go" ++
        [maybeOneOf "- ", maybe 'v',
          .group 1 (sequence [digits, letter '.', digits, .times .greedy 0 none dotDigits])])
      "\\bgo[- ]?v?(\\d+\\.\\d+(?:\\.\\d+)*)"]

/-- The Node run time. -/
def node : ToolSpec where
  key := "node"
  name := "Node"
  patterns := [
    pattern (word "nvm" ++ [spaces] ++ word "install" ++ [spaces, maybe 'v', version])
      "nvm\\s+install\\s+v?(\\d+(?:\\.\\d+)*)",
    pattern (word "setup_" ++ [.group 1 digits, letter '.', letter 'x']) "setup_(\\d+)\\.x",
    pattern (word "node-v" ++ [version]) "node-v(\\d+(?:\\.\\d+)*)",
    pattern
      (word "node" ++
        [.times .greedy 0 (some 1) (sequence (word "js")), .char (oneOf "-@:= "),
          maybe 'v', version])
      "node(?:js)?[-@:= ]v?(\\d+(?:\\.\\d+)*)"]

/-- The Python interpreter. -/
def python : ToolSpec where
  key := "python"
  name := "Python"
  patterns := [
    pattern
      (word "pyenv" ++ [spaces] ++ word "install" ++
        [spaces,
          .times .greedy 0 none
            (sequence [letter '-', .run .greedy 1 none (ofKind .space true), spaces]),
          version])
      "pyenv\\s+install\\s+(?:-\\S+\\s+)*(\\d+(?:\\.\\d+)*)",
    pattern (word "python" ++ [maybeOneOf "- ", maybe 'v', version])
      "python[- ]?v?(\\d+(?:\\.\\d+)*)"]

/-- The built-in tools, in the order in which they are checked. -/
def tools : List ToolSpec := [java, maven, gradle, go, node, python]

end DockCheck.Builtin
