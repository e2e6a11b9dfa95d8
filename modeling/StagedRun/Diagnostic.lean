import StagedRun.Command
import StagedRun.Failure
import StagedRun.Stage

/-!
# Diagnostics

A run leaves notes for its developers beside what it tells its user.  A `Diagnostic` is one such
note, and `Diagnostic.line` is the line for it, which names the stage in which it was taken.
-/

namespace StagedRun

/-- A note for developers. -/
inductive Diagnostic where
  /-- A stage starts. -/
  | enteringStage
  /-- A directory that should be removed is not there. -/
  | directoryAbsent (path : Path)
  /-- A directory was removed. -/
  | directoryRemoved (path : Path)
  /-- A command is about to start. -/
  | runningCommand (command : Command)
  /-- A child has started. -/
  | childStarted (number : Nat)
  /-- A child has ended. -/
  | childEnded (program : ByteString) (exit : Exit)
  /-- The run has failed. -/
  | runFailed (failure : Failure)
  deriving DecidableEq, Repr

namespace Diagnostic

/-- How much a note matters. -/
def level : Diagnostic → String
  | .runningCommand _ => "INFO"
  | .enteringStage | .directoryAbsent _ | .directoryRemoved _ | .childStarted _ | .childEnded _ _
  | .runFailed _ => "DEBUG"

/-- The part of the program that takes a note. -/
def origin : Diagnostic → String
  | .enteringStage => "graphrun::pipeline"
  | .directoryAbsent _ | .directoryRemoved _ => "graphrun::pipeline::clean"
  | .runningCommand _ | .childStarted _ | .childEnded _ _ => "graphrun::process"
  | .runFailed _ => "graphrun"

/-- The text of a note. -/
def message : Diagnostic → String
  | .enteringStage => "entering stage"
  | .directoryAbsent path => "directory absent; nothing to remove path=" ++ path.display
  | .directoryRemoved path => "removed directory path=" ++ path.display
  | .runningCommand command => "Running command: " ++ command.display
  | .childStarted number => "spawned child process pid=" ++ toString number
  | .childEnded program exit =>
    "child process finished program=" ++ Text.lossy program ++ " exit=" ++ exit.message
  | .runFailed failure => "pipeline failed error=" ++ failure.detail

/-- The part of a line that names the stage. -/
def stageLabel (stage : Stage) : String :=
  "stage" ++ Text.braced ("name=" ++ Text.quote stage.name ++ " index=" ++ toString stage.index)
    ++ ": "

/-- The line for a note, taken in a stage or outside all of them. -/
def line (stage : Option Stage) (diagnostic : Diagnostic) : String :=
  diagnostic.level ++ " " ++ (stage.map stageLabel).getD "" ++ diagnostic.origin ++ ": "
    ++ diagnostic.message

end Diagnostic

end StagedRun
