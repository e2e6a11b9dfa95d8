import StagedRun.Console.Record
import StagedRun.Diagnostic

/-!
# What a run needs of its surroundings

A `Host` is everything that a run does apart from deciding: it asks about directories, changes them,
starts commands, writes to the console and takes notes.  `m` is where these things happen.  So the
decisions of a run are one definition, whether a host acts on the system or on a world that exists
for the sake of an argument.

Writing to the console and taking notes give no answer, and so nothing can hang on how they went.
-/

namespace StagedRun

/-- The surroundings of a run. -/
structure Host (m : Type → Type) where
  /-- Whether a path leads to a directory. -/
  isDirectory : Path → m Bool
  /-- Removes what a path names, with everything in it. -/
  removeTree : Path → m (Except SystemError Unit)
  /-- Makes a directory and the directories above it that are missing. -/
  makeDirectories : Path → m (Except SystemError Unit)
  /-- Starts a command and waits until it has ended. -/
  run : Command → m (Except SystemError Exit)
  /-- Writes to the console and flushes it. -/
  emit : ByteString → m Unit
  /-- Takes a note. -/
  note : Diagnostic → m Unit
  /-- Notes are taken in a stage from here on. -/
  enter : Stage → m Unit
  /-- Notes are taken outside all stages from here on. -/
  leave : m Unit

namespace Host

variable {m : Type → Type} [Monad m]

/-- Tells the user something. -/
def tell (host : Host m) (colour : Colour) (record : Record) : m Unit :=
  (record.chunks colour).forM fun chunk => host.emit (Text.encode chunk)

end Host

/-- Starts a command, waits for the child, and takes notes on the way.  `start` answers the number
of the child, and `wait` how it ended. -/
def supervise {m : Type → Type} [Monad m] (note : Diagnostic → m Unit)
    (start : Command → m (Except SystemError Nat)) (wait : Nat → m (Except SystemError Exit))
    (command : Command) : m (Except SystemError Exit) := do
  note (.runningCommand command)
  match ← start command with
  | .error reason => return .error reason
  | .ok number =>
    note (.childStarted number)
    match ← wait number with
    | .error reason => return .error reason
    | .ok exit =>
      note (.childEnded command.program exit)
      return .ok exit

end StagedRun
