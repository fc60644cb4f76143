import DockCheck.Yaml.Value

/-!
# YAML

`Yaml.read` reads a document as `Data`, and `Yaml.readStream` reads one that comes as a stream.
There is one document, or none, which reads as null.
-/

namespace DockCheck.Yaml

/-- Reads the document in a stream. -/
def readStream (stream : Text.Stream) : Except Fault Data := do
  let graph ← graphOf (.ofStream stream)
  graph.check
  return graph.data

/-- Reads a document. -/
def read (document : Text) : Except Fault Data := readStream (.ofText document)

end DockCheck.Yaml
