import StagedRun.Console.Sink
import StagedRun.FileSystem.Make
import StagedRun.FileSystem.Remove
import StagedRun.Host

/-!
# Worlds

A `World` holds all that a run can meet: a file system, the children that answer its commands, and a
console.  `World.host` is the host that acts on it.  It gives every run a meaning without the
system, so a law about runs is a law about this host.

Children are arbitrary.  A `Children κ` answers a command from a state of its own and from the file
system, and may leave both changed in any way.  The console is an arbitrary `Sink` for the same
reason.

What happens in a world is kept in `World.history`, in order: the bytes given to the console, the
changes that the run itself made, and the commands with the file system before and after.  So what
holds at the moment a child starts can be said about a world that has gone past it.
-/

namespace StagedRun

/-- Children that answer commands. -/
structure Children (κ : Type) where
  answer : Command → κ → FileSystem → Except SystemError Exit × κ × FileSystem

/-- Something that has happened in a world. -/
inductive Happening where
  /-- The console was given bytes. -/
  | wrote (bytes : ByteString)
  /-- The run changed files, or tried to. -/
  | changed (before after : FileSystem)
  /-- A child answered a command. -/
  | ran (command : Command) (before : FileSystem) (answer : Except SystemError Exit)
      (after : FileSystem)

/-- All that a run can meet. -/
structure World (κ σ : Type) where
  /-- The file system. -/
  files : FileSystem
  /-- The current directory. -/
  current : Place
  /-- What the children know. -/
  children : κ
  /-- What the console holds. -/
  console : σ
  /-- The stage in which notes are taken. -/
  stage : Option Stage
  /-- Whether notes are kept. -/
  listening : Bool
  /-- The lines of the error output. -/
  lines : List String
  /-- What has happened so far. -/
  history : List Happening

namespace World

variable {κ σ : Type}

/-- A world in which nothing has happened. -/
def fresh (files : FileSystem) (current : Place) (children : κ) (console : σ) : World κ σ :=
  { files, current, children, console, stage := none, listening := true, lines := [],
    history := [] }

/-- The world after something has happened in it. -/
def record (world : World κ σ) (happening : Happening) : World κ σ :=
  { world with history := world.history ++ [happening] }

/-- The world after an action on its files. -/
def change (world : World κ σ) (outcome : FileSystem × Except SystemError Unit) :
    Except SystemError Unit × World κ σ :=
  (outcome.2, { world.record (.changed world.files outcome.1) with files := outcome.1 })

/-- The world after a child has answered. -/
def ran (world : World κ σ) (command : Command)
    (outcome : Except SystemError Exit × κ × FileSystem) :
    Except SystemError Exit × World κ σ :=
  (outcome.1,
    { world.record (.ran command world.files outcome.1 outcome.2.2) with
      children := outcome.2.1, files := outcome.2.2 })

/-- The world after its console was given bytes. -/
def emit (world : World κ σ) (sink : Sink σ) (bytes : ByteString) : World κ σ :=
  { world.record (.wrote bytes) with console := sink.emit world.console bytes }

/-- The world after a note. -/
def note (world : World κ σ) (diagnostic : Diagnostic) : World κ σ :=
  if world.listening then
    { world with lines := world.lines ++ [diagnostic.line world.stage] }
  else world

/-- The host that acts on a world. -/
def host (children : Children κ) (sink : Sink σ) : Host (StateM (World κ σ)) where
  isDirectory path := do
    let world ← get
    return world.files.isDirectory world.current path
  removeTree path := modifyGet fun world =>
    world.change (world.files.removeTree world.current path)
  makeDirectories path := modifyGet fun world =>
    world.change (world.files.makeDirectories world.current path)
  run command := modifyGet fun world =>
    world.ran command (children.answer command world.children world.files)
  emit bytes := modify fun world => world.emit sink bytes
  note diagnostic := modify fun world => world.note diagnostic
  enter stage := modify fun world => { world with stage := some stage }
  leave := modify fun world => { world with stage := none }

/-! ## Reading a history -/

/-- The commands that were handed to the children, in order. -/
def commands (world : World κ σ) : List Command :=
  world.history.filterMap fun happening =>
    match happening with
    | .ran command _ _ _ => some command
    | .wrote _ | .changed _ _ => none

/-- Everything that the console was given, in order. -/
def written (world : World κ σ) : ByteString :=
  world.history.flatMap fun happening =>
    match happening with
    | .wrote bytes => bytes
    | .changed _ _ | .ran _ _ _ _ => []

end World

end StagedRun
