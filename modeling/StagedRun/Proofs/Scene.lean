import StagedRun.Proofs.Mirroring
import StagedRun.World.Basic

/-!
# Scenes

A `Scene` is what is left of a world when the console, the notes and everything that only serves
them are taken away: the files, the current directory, the children, and the history.  The host on
scenes mirrors the host on worlds (`World.mirrors_scene`), whatever the sink.  So every law about
the outcome of a run, its files and its history is proved on scenes, and holds in every world.

The history of a scene still tells what was written.  `Scene.hushed` forgets that too, and
`Scene.mirrors_hushed` says that it can be forgotten: a host that drops everything it is told serves
a run as well as one that keeps it.

`dealingsOf` picks the commands out of a history, each with the files at the moment it was handed
over and with its answer.
-/

namespace StagedRun

/-! ## Histories -/

/-- A command that was handed to the children, with the files that its child started on. -/
structure Dealing where
  command : Command
  files : FileSystem
  answer : Except SystemError Exit

namespace Happening

/-- The command that was handed over, if one was. -/
def dealing? : Happening → Option Dealing
  | .ran command before answer _ => some ⟨command, before, answer⟩
  | .wrote _ | .changed _ _ => none

/-- Whether the console was given bytes. -/
def isWrite : Happening → Bool
  | .wrote _ => true
  | .changed _ _ | .ran _ _ _ _ => false

end Happening

/-- The commands of a history, in order. -/
def dealingsOf (history : List Happening) : List Dealing :=
  history.filterMap Happening.dealing?

lemma dealingsOf_append (history more : List Happening) :
    dealingsOf (history ++ more) = dealingsOf history ++ dealingsOf more :=
  List.filterMap_append

/-- A history without what was written. -/
def hush (history : List Happening) : List Happening :=
  history.filter (!·.isWrite)

lemma hush_append (history more : List Happening) :
    hush (history ++ more) = hush history ++ hush more :=
  List.filter_append ..

lemma dealingsOf_hush (history : List Happening) :
    dealingsOf (hush history) = dealingsOf history := by
  induction history with
  | nil => rfl
  | cons happening rest ih =>
    cases happening with
    | wrote bytes => exact ih
    | changed before after => exact ih
    | ran command before answer after => exact congrArg (⟨command, before, answer⟩ :: ·) ih

namespace World

variable {κ σ : Type}

/-- The commands that were handed to the children of a world. -/
def dealings (world : World κ σ) : List Dealing :=
  dealingsOf world.history

lemma commands_eq_map_dealings (world : World κ σ) :
    world.commands = world.dealings.map Dealing.command := by
  rw [commands, dealings, dealingsOf, List.map_filterMap]
  congr 1
  funext happening
  cases happening <;> rfl

end World

/-! ## Scenes and their host -/

/-- A world without its console and its notes. -/
structure Scene (κ : Type) where
  files : FileSystem
  current : Place
  children : κ
  history : List Happening

namespace Scene

variable {κ : Type}

/-- The scene after something has happened in it. -/
def record (scene : Scene κ) (happenings : List Happening) : Scene κ :=
  { scene with history := scene.history ++ happenings }

@[simp] lemma record_nil (scene : Scene κ) : scene.record [] = scene := by
  rw [record, List.append_nil]

@[simp] lemma record_record (scene : Scene κ) (happenings more : List Happening) :
    (scene.record happenings).record more = scene.record (happenings ++ more) := by
  rw [record, record, record, List.append_assoc]

/-- The scene after its files were changed, or were meant to be. -/
def changed (scene : Scene κ) (files : FileSystem) : Scene κ :=
  { scene.record [.changed scene.files files] with files }

/-- What the children of a scene answer to a command. -/
def answerTo (children : Children κ) (command : Command) (scene : Scene κ) :
    Except SystemError Exit :=
  (children.answer command scene.children scene.files).1

/-- The scene after a command was handed to its children. -/
def handed (children : Children κ) (command : Command) (scene : Scene κ) : Scene κ :=
  let outcome := children.answer command scene.children scene.files
  { scene.record [.ran command scene.files outcome.1 outcome.2.2] with
    children := outcome.2.1, files := outcome.2.2 }

/-- The commands that were handed to the children of a scene. -/
def dealings (scene : Scene κ) : List Dealing :=
  dealingsOf scene.history

@[simp] lemma dealings_changed (scene : Scene κ) (files : FileSystem) :
    (scene.changed files).dealings = scene.dealings := by
  rw [changed, record, dealings, dealingsOf_append]
  exact List.append_nil _

@[simp] lemma dealings_handed (children : Children κ) (command : Command) (scene : Scene κ) :
    (scene.handed children command).dealings =
      scene.dealings ++ [⟨command, scene.files, scene.answerTo children command⟩] := by
  rw [handed, record, dealings, dealingsOf_append]
  rfl

/-- Whether a path leads to a directory. -/
def isDirectory (scene : Scene κ) (path : Path) : Bool :=
  scene.files.isDirectory scene.current path

/-- The host that acts on a scene. -/
def host (children : Children κ) : Host (StateM (Scene κ)) where
  isDirectory path := do return (← get).isDirectory path
  removeTree path := modifyGet fun scene =>
    let outcome := scene.files.removeTree scene.current path
    (outcome.2, scene.changed outcome.1)
  makeDirectories path := modifyGet fun scene =>
    let outcome := scene.files.makeDirectories scene.current path
    (outcome.2, scene.changed outcome.1)
  run command := modifyGet fun scene =>
    (scene.answerTo children command, scene.handed children command)
  emit bytes := modify fun scene => scene.record [.wrote bytes]
  note _ := pure ()
  enter _ := pure ()
  leave := pure ()

/-- The host that acts on a scene and forgets what it is told. -/
def silentHost (children : Children κ) : Host (StateM (Scene κ)) :=
  { host children with emit := fun _ => pure () }

/-- The scene without what was written in it. -/
def hushed (scene : Scene κ) : Scene κ :=
  { scene with history := hush scene.history }

lemma hushed_changed (scene : Scene κ) (files : FileSystem) :
    (scene.changed files).hushed = scene.hushed.changed files := by
  simp only [changed, record, hushed, hush_append]
  rfl

lemma hushed_handed (children : Children κ) (command : Command) (scene : Scene κ) :
    (scene.handed children command).hushed = scene.hushed.handed children command := by
  simp only [handed, record, hushed, hush_append]
  rfl

lemma hushed_wrote (scene : Scene κ) (bytes : ByteString) :
    (scene.record [.wrote bytes]).hushed = scene.hushed := by
  simp only [record, hushed, hush_append]
  simp [hush, Happening.isWrite]

/-- What was written can be forgotten on the way. -/
lemma mirrors_hushed (children : Children κ) :
    Host.Mirrors hushed (host children) (silentHost children) where
  isDirectory _ _ := rfl
  removeTree _ scene := Prod.ext rfl (hushed_changed scene _).symm
  makeDirectories _ scene := Prod.ext rfl (hushed_changed scene _).symm
  run _ scene := Prod.ext rfl (hushed_handed children _ scene).symm
  emit bytes scene := Prod.ext rfl (hushed_wrote scene bytes).symm
  note _ _ := rfl
  enter _ _ := rfl
  leave _ := rfl

end Scene

namespace World

variable {κ σ : Type}

/-- What a run can see of a world, and what it has done in it. -/
def scene (world : World κ σ) : Scene κ where
  files := world.files
  current := world.current
  children := world.children
  history := world.history

lemma scene_note (world : World κ σ) (diagnostic : Diagnostic) :
    (world.note diagnostic).scene = world.scene := by
  unfold note
  split <;> rfl

/-- A run sees and does on scenes what it sees and does in worlds, whatever becomes of its
output. -/
lemma mirrors_scene (children : Children κ) (sink : Sink σ) :
    Host.Mirrors scene (host children sink) (Scene.host children) where
  isDirectory _ _ := rfl
  removeTree _ _ := rfl
  makeDirectories _ _ := rfl
  run _ _ := rfl
  emit _ _ := rfl
  note diagnostic world := Prod.ext rfl (scene_note world diagnostic).symm
  enter _ _ := rfl
  leave _ := rfl

/-- A world without its console, its notes and what was written. -/
def quiet (world : World κ σ) : Scene κ :=
  world.scene.hushed

lemma dealingsOf_quiet (world : World κ σ) : dealingsOf world.quiet.history = world.dealings :=
  dealingsOf_hush world.history

end World

end StagedRun
