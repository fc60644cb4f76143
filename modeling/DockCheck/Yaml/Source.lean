import DockCheck.Text.Stream
import DockCheck.Yaml.Token

/-!
# The source of a YAML document

A document may come from a stream that can be read only in part.  The reader of YAML looks at the
text as far as it has to, so a fault before the place where the text breaks off is found first.
-/

namespace DockCheck.Yaml

/-- A document as far as it can be read, and the fault that awaits who reads on, if it does not end
there. -/
structure Source where
  text : Text
  ending : Option Fault
  deriving DecidableEq, Repr

/-- The source in a stream.  It ends before the first piece with a character that may not stand in
a document. -/
def Source.ofStream (stream : Text.Stream) : Source :=
  let pieces := stream.pieces.takeWhile fun piece => piece.all isAllowed
  let ending : Option Fault :=
    if pieces.length < stream.pieces.length then some .malformed
    else stream.fault.map .undecodable
  ⟨pieces.flatten, ending⟩

end DockCheck.Yaml
