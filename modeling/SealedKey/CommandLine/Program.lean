import SealedKey.CommandLine.Arguments
import SealedKey.CommandLine.Help
import SealedKey.Log.Filter

/-!
# The program

The program runs one job on the fixture in a directory, with the usual passphrase and
protection, and prints its report.  It runs on any host; `CommandLine.execute` runs it in
a workspace and collects everything that it leaves behind.
-/

namespace SealedKey.CommandLine

/-- How the program ends. -/
structure Ending where
  exitCode : Nat
  /-- What it prints. -/
  output : String
  /-- What it prints about an error. -/
  complaint : String
deriving DecidableEq, Repr

namespace Ending

/-- The end after printing a text. -/
def printing (text : String) : Ending := ⟨0, text, ""⟩

/-- The end of a program that cannot go on. -/
def aborted : Ending := ⟨101, "", "panic\n"⟩

/-- The end after arguments that were refused. -/
def ofUsageError (cause : UsageError) : Ending := ⟨2, "", s!"error: {cause.message}\n"⟩

/-- The end after a job. -/
def ofJob : Except Stop Report → Ending
  | .ok report => printing (report.describe ++ "\n")
  | .error (.failed cause) => ⟨1, "", s!"Error: {cause.message}\n"⟩
  | .error .exhausted => aborted

end Ending

/-- The paths of the fixture in a directory, or in the usual one. -/
def fixturePaths : Option String → FixturePaths
  | some dir => .inDir dir
  | none => .standard

/-- Runs the program. -/
def run {m : Type → Type} [Monad m] [Host m] (arguments : List String) : m Ending :=
  match Request.ofArguments arguments with
  | .error cause => return .ofUsageError cause
  | .ok .shortHelp => return .printing shortHelpText
  | .ok .longHelp => return .printing longHelpText
  | .ok .version => return .printing versionText
  | .ok (.convert direction dir) => do
    let job : Job := ⟨fixturePaths dir, .fixture, .standard⟩
    return .ofJob (← (job.run direction).run)

/-- What the program leaves behind. -/
structure Outcome where
  exitCode : Nat
  standardOutput : String
  standardError : String
  tree : FileTree

/--
Runs the program in a tree, with a supply of random bytes and a log setting.  Its log goes to
standard error before its complaint; each line of it starts with the same time.  It does
nothing if the setting gives no filter.
-/
def execute (arguments : List String) (setting : Option String) (time : String)
    (tree : FileTree) (supply : Bytes) : Outcome :=
  match Log.Filter.ofSetting? setting with
  | none => ⟨Ending.aborted.exitCode, Ending.aborted.output, Ending.aborted.complaint, tree⟩
  | some filter =>
    let (ending, workspace) :=
      (run arguments : StateM Workspace Ending) ⟨tree, supply, []⟩
    let log := filter.render time workspace.events
    ⟨ending.exitCode, ending.output, log ++ ending.complaint, workspace.tree⟩

end SealedKey.CommandLine
