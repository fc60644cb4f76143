import DockCheck.Schema
import DockCheck.Version

/-!
# Standards

A `Standards` document says what an organisation allows: the base image, the versions of each tool,
and the policies by which versions are compared.  `Standards.ofData` reads one.
-/

namespace DockCheck

/-- The tools with a list of allowed versions. -/
inductive ToolKey where
  | jdk
  | maven
  | gradle
  | go
  | node
  | python
  deriving DecidableEq, Repr

namespace ToolKey

/-- The keys, in the order of the lists in a document. -/
def all : List ToolKey := [.jdk, .maven, .gradle, .go, .node, .python]

/-- The name of a key in tool catalogs. -/
def name : ToolKey → Text
  | .jdk => "jdk"
  | .maven => "maven"
  | .gradle => "gradle"
  | .go => "go"
  | .node => "node"
  | .python => "python"

/-- The key of a name. -/
def ofName? (t : Text) : Option ToolKey := all.find? fun key => key.name == t

/-- Reading the name of a key gives the key back. -/
theorem ofName?_name (key : ToolKey) : ofName? key.name = some key := by
  cases key <;> decide

end ToolKey

/-- What an organisation allows. -/
structure Standards where
  baseImage : Text
  jdkVersions : List Text
  mavenVersions : List Text
  gradleVersions : List Text
  goVersions : List Text
  nodeVersions : List Text
  pythonVersions : List Text
  precision : Precision
  policy : MatchPolicy
  deriving DecidableEq, Repr

namespace Standards

/-- The allowed versions of a tool. -/
def versions (standards : Standards) : ToolKey → List Text
  | .jdk => standards.jdkVersions
  | .maven => standards.mavenVersions
  | .gradle => standards.gradleVersions
  | .go => standards.goVersions
  | .node => standards.nodeVersions
  | .python => standards.pythonVersions

/-- The allowed versions under a key of a tool catalog, if there is such a key. -/
def allowed? (standards : Standards) (key : Text) : Option (List Text) :=
  (ToolKey.ofName? key).map standards.versions

open Schema in
/-- The standards of a table.  Each field has a short key and a long one, of which the short one
counts if both are there. -/
def ofEntries (location : List Step) (entries : List (Text × Data)) : Checked Standards :=
  let texts (short long : Text) : Checked (List Text) :=
    field [short, long] Schema.texts location entries
  ((((((((((.ok Standards.mk : Checked _).and
    (field ["baseImage", "base_image"] text location entries)).and
    (texts "jdkVersions" "jdk_versions")).and
    (texts "mavenVersions" "maven_versions")).and
    (texts "gradleVersions" "gradle_versions")).and
    (texts "goVersions" "go_versions")).and
    (texts "nodeVersions" "node_versions")).and
    (texts "pythonVersions" "python_versions")).and
    (fieldOr .truncated ["versionPrecision", "version_precision"]
      (choice Precision.all Precision.name) location entries)).and
    (fieldOr .exact ["versionMatch", "version_match"]
      (choice MatchPolicy.all MatchPolicy.name) location entries))

/-- The entries of standards, under their long keys. -/
def toData (standards : Standards) : Data :=
  let texts (all : List Text) : Data := .list (all.map .text)
  .table
    [("base_image", .text standards.baseImage),
      ("jdk_versions", texts standards.jdkVersions),
      ("maven_versions", texts standards.mavenVersions),
      ("gradle_versions", texts standards.gradleVersions),
      ("go_versions", texts standards.goVersions),
      ("node_versions", texts standards.nodeVersions),
      ("python_versions", texts standards.pythonVersions),
      ("version_precision", .text standards.precision.name),
      ("version_match", .text standards.policy.name)]

/-- The title of the form. -/
def title : Text := "StandardsConfig"

/-- The standards of a document. -/
def ofData (value : Data) : Except Schema.Rejection Standards :=
  (Schema.model title ofEntries [] value).titled title

end Standards

end DockCheck
