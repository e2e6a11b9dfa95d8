import StagedRun.World.Machine

/-!
# Programs that are not there

`World.absentMachine` gives a program its surroundings in a world that has files but no processes.
A command is answered with the reason for which the system would not start it: a byte that no
argument can have, a program that is not there, or one that is no file.  A program that could be
started is answered with the error of a system without processes.
-/

namespace StagedRun

namespace FileSystem

/-- Why a command is not started. -/
def startError (fs : FileSystem) (current : Place) (command : Command) : SystemError :=
  if command.holdsZero then .zeroInArgument
  else if !command.program.contains Path.separator then .noEntry
  else
    match fs.locate true current ⟨command.program⟩ with
    | .error reason => reason
    | .ok (place, _) =>
      match fs.get? place with
      | some (.file _) => .bare .unsupported
      | _ => Refusal.permissionDenied.error

end FileSystem

namespace World

variable {κ σ : Type}

/-- Tries to start a command and takes the notes that a system takes. -/
def tryCommand (command : Command) : StateM (World κ σ) (Except SystemError Exit) :=
  supervise (fun diagnostic => modify fun world => world.note diagnostic)
    (fun command => do
      let world ← get
      return .error (world.files.startError world.current command))
    (fun _ => return .error (.bare .unsupported)) command

/-- The surroundings of a program in a world without processes. -/
def absentMachine (sink : Sink σ) (executable : Except SystemError Path) :
    Machine (StateM (World Unit σ)) :=
  { machine ⟨fun _ known files => (.error (.bare .unsupported), known, files)⟩ sink executable with
    run := tryCommand }

end World

end StagedRun
