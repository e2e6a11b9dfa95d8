import StagedRun.Config
import StagedRun.Host

/-!
# The pipeline

A `Pipeline` knows what a run works on, with which programs, and in which colour it speaks.
`Pipeline.execute` carries out the stages in their order, on a host, and stops at the first failure.

* The clean stage removes the output directory and then the build directory, if the user asked for
  it.  A directory that is not there is no failure.
* The build stage runs the compiler, unless the user asked to skip it.
* The run stage runs the analyzer on the inputs, if there are any.  It needs the build directory, and
  makes the output directory.

A verbose run tells the user about each step before it takes it, and about each success after it.
-/

namespace StagedRun

/-- What a run works on, its programs, and the colour it speaks in. -/
structure Pipeline where
  config : Config
  programs : Programs
  colour : Colour
  deriving DecidableEq, Repr

namespace Pipeline

/-! ## Commands -/

/-- The command of the build stage. -/
def buildCommand (pipeline : Pipeline) : Command :=
  { program := pipeline.programs.compiler }

/-- The command of the run stage: the runtime with the compiled analyzer, the output directory, and
the inputs in the order in which the user gave them. -/
def runCommand (pipeline : Pipeline) : Command where
  program := pipeline.programs.runtime
  arguments :=
    (pipeline.config.layout.build.join (.ofString Config.entryName)).bytes
      :: pipeline.config.layout.output.bytes :: pipeline.config.options.inputs

/-! ## What the user is told -/

/-- A directory is about to be removed. -/
def removing (name : String) : Record :=
  .note ("Removing " ++ name ++ " directory")

/-- The build stage is skipped. -/
def skippingBuild : Record := .note "Skipping build stage"

/-- The compiler is about to start. -/
def startingBuild (pipeline : Pipeline) : Record :=
  .command "Running build command" pipeline.buildCommand.display

/-- The compiler has succeeded. -/
def buildFinished : Record := .styled "Build finished successfully" [.green]

/-- There is nothing to run the analyzer on. -/
def noInputs : Record := .note "No samples or inputs were specified"

/-- The output directory is about to be made. -/
def creatingOutput : Record := .note "Creating output directory"

/-- The analyzer is about to start. -/
def startingAnalyzer (pipeline : Pipeline) : Record :=
  .command "Running analyzer" pipeline.runCommand.display

/-- The analyzer has succeeded. -/
def analyzerFinished : Record := .styled "Analyzer finished successfully" [.green]

/-- Where the result is. -/
def outputLocation (pipeline : Pipeline) : Record :=
  .styled ("Output path: " ++ pipeline.config.outputPath.display) [.bold]

/-! ## Steps -/

variable {m : Type → Type} [Monad m]

/-- Tells the user something, in a verbose run. -/
def mention (pipeline : Pipeline) (host : Host m) (record : Record) : ExceptT Failure m Unit :=
  if pipeline.config.options.verbose then host.tell pipeline.colour record else pure ()

/-- Removes a directory if it is there. -/
def removeDirectory (pipeline : Pipeline) (host : Host m) (name : String) (path : Path) :
    ExceptT Failure m Unit := do
  pipeline.mention host (removing name)
  if ← host.isDirectory path then
    match ← host.removeTree path with
    | .ok () => host.note (.directoryRemoved path)
    | .error reason => throw (.removeDirectory name path reason)
  else host.note (.directoryAbsent path)

/-- Runs a command to success.  `failed` is the failure that a failing child means. -/
def runCommandWith (host : Host m) (failed : ChildFailure → Failure) (command : Command) :
    ExceptT Failure m Unit := do
  match ← host.run command with
  | .error reason => throw (failed (.notStarted command.program reason))
  | .ok exit =>
    if exit.succeeded then pure () else throw (failed (.ended command.program exit))

/-- Makes the output directory if it is not there. -/
def createOutput (pipeline : Pipeline) (host : Host m) : ExceptT Failure m Unit := do
  pipeline.mention host creatingOutput
  match ← host.makeDirectories pipeline.config.layout.output with
  | .ok () => pure ()
  | .error reason => throw (.createOutputDirectory pipeline.config.layout.output reason)

/-! ## Stages -/

/-- The clean stage. -/
def clean (pipeline : Pipeline) (host : Host m) : ExceptT Failure m Unit :=
  if pipeline.config.options.clean then do
    pipeline.removeDirectory host Layout.outputName pipeline.config.layout.output
    pipeline.removeDirectory host Layout.buildName pipeline.config.layout.build
  else pure ()

/-- The build stage. -/
def build (pipeline : Pipeline) (host : Host m) : ExceptT Failure m Unit :=
  if pipeline.config.options.build then do
    pipeline.mention host pipeline.startingBuild
    runCommandWith host .buildFailed pipeline.buildCommand
    pipeline.mention host buildFinished
  else pipeline.mention host skippingBuild

/-- The run stage. -/
def run (pipeline : Pipeline) (host : Host m) : ExceptT Failure m Unit :=
  if pipeline.config.options.inputs.isEmpty then pipeline.mention host noInputs
  else do
    if ← host.isDirectory pipeline.config.layout.build then
      pipeline.createOutput host
      pipeline.mention host pipeline.startingAnalyzer
      runCommandWith host .analyzerFailed pipeline.runCommand
      pipeline.mention host analyzerFinished
      pipeline.mention host pipeline.outputLocation
    else throw (.buildDirectoryMissing pipeline.config.layout.build)

/-- One stage. -/
def stage (pipeline : Pipeline) (host : Host m) : Stage → ExceptT Failure m Unit
  | .clean => pipeline.clean host
  | .build => pipeline.build host
  | .run => pipeline.run host

/-- One stage, with its notes taken in it. -/
def within (pipeline : Pipeline) (host : Host m) (stage : Stage) : ExceptT Failure m Unit :=
  ExceptT.mk do
    host.enter stage
    host.note .enteringStage
    let outcome ← (pipeline.stage host stage).run
    host.leave
    return outcome

/-- All stages in order, up to the first that fails. -/
def execute (pipeline : Pipeline) (host : Host m) : ExceptT Failure m Unit :=
  Stage.all.forM (pipeline.within host)

end Pipeline

end StagedRun
