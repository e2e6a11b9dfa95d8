import StagedRun.Options.Scan
import StagedRun.Pipeline

/-!
# The program

`Program.main` is a whole run from a command line to an exit status.  It reads the options, finds the
directories, carries out the pipeline, and reports a failure: one line with the failure itself and,
in a verbose run, one line for each cause behind it and one for advice.
-/

namespace StagedRun

/-- The surroundings of a whole program. -/
structure Machine (m : Type → Type) extends Host m where
  /-- The path of the program, with all links resolved. -/
  executable : m (Except SystemError Path)
  /-- The current directory. -/
  currentDirectory : m (Except SystemError Path)
  /-- Gives an answer that is not a run: to the standard output, or to the error output. -/
  answer : (requested : Bool) → String → m Unit
  /-- Whether notes are kept from here on. -/
  listen : Bool → m Unit

namespace Program

variable {m : Type → Type} [Monad m]

/-- A cause behind a failure, as the user is told about it. -/
def causeRecord (cause : Cause) : Record := .note ("caused by: " ++ cause.message)

/-- Advice, as the user is told about it. -/
def helpRecord (help : String) : Record := .note ("help: " ++ help)

/-- What the user is told about a failure. -/
def report (verbose : Bool) (failure : Failure) : List Record :=
  .error failure.message :: if verbose then
    failure.chain.map causeRecord ++ (failure.help?.map helpRecord).toList else []

/-- The pipeline that an environment asks for. -/
def pipelineFor (environment : Environment) (config : Config) : Pipeline where
  config := config
  programs := .ofEnvironment environment
  colour := .ofEnvironment environment

/-- Finds the directories and carries out the pipeline. -/
def attempt (machine : Machine m) (environment : Environment) (options : Options) :
    ExceptT Failure m Unit := do
  let executable ← machine.executable
  let current ← machine.currentDirectory
  let layout ← ExceptT.mk (pure (Layout.discover executable current options.root))
  (pipelineFor environment ⟨options, layout⟩).execute machine.toHost

/-- Runs the program. -/
def main (machine : Machine m) (environment : Environment) (arguments : List ByteString) :
    m UInt8 := do
  let root := environment Options.rootVariable
  match Options.parse root arguments with
  | .error usage =>
    machine.answer usage.isRequested (usage.message root)
    return usage.exitStatus
  | .ok options =>
    machine.listen options.verbose
    match ← (attempt machine environment options).run with
    | .ok () => return 0
    | .error failure =>
      (report options.verbose failure).forM
        (machine.toHost.tell (Colour.ofEnvironment environment))
      machine.note (.runFailed failure)
      return failure.exitStatus

end Program

end StagedRun
