import StagedRun.FileSystem.Resolve

/-!
# Removing trees

`FileSystem.removeTree` removes what a path names.  The last name of the path is not followed: a link
is removed itself, and what it leads to stays.  The same holds inside a tree, so a removal never
leaves it.

A removal is planned before it is carried out.  `FileSystem.removal` lists its steps: a directory is
opened, what is in it is removed in the order in which it is listed, and then the directory itself.
`FileSystem.perform` carries steps out until one of them fails.  Planning first is no restriction,
because a removal changes nothing that the rest of its plan asks about.
-/

namespace StagedRun.FileSystem

/-- A step of a removal. -/
inductive RemovalStep where
  /-- Opens a directory to list it. -/
  | openDirectory (place : Place)
  /-- Removes an entry that is no directory. -/
  | removeEntry (place : Place)
  /-- Removes a directory without entries. -/
  | removeDirectory (place : Place)
  deriving DecidableEq, Repr

/-- The steps that remove a directory, if no directory in it is more than `depth` directories
deep. -/
def removal (fs : FileSystem) : Nat → Place → List RemovalStep
  | 0, place => [.removeDirectory place]
  | depth + 1, place =>
    .openDirectory place :: ((fs.names place).flatMap fun name =>
      match fs.get? (name :: place) with
      | some .directory => fs.removal depth (name :: place)
      | _ => [.removeEntry (name :: place)]) ++ [.removeDirectory place]

/-- Checks that an entry can be taken out of its directory. -/
def checkRemove (fs : FileSystem) (place : Place) : Except SystemError Unit := do
  if place = [] then .error Refusal.busy.error
  fs.checkEnter place.tail
  fs.permit .remove place

/-- Takes what is at a place out of its directory. -/
def remove (fs : FileSystem) (place : Place) : Except SystemError FileSystem := do
  fs.checkRemove place
  if bare : fs.names place = [] then .ok (fs.erase place bare) else .error .notEmpty

/-- Carries out a step. -/
def performStep (fs : FileSystem) : RemovalStep → Except SystemError FileSystem
  | .openDirectory place => do
    fs.permit .enter place.tail
    fs.permit .list place
    return fs
  | .removeEntry place | .removeDirectory place => fs.remove place

/-- Carries out steps until one of them fails. -/
def perform (fs : FileSystem) : List RemovalStep → FileSystem × Except SystemError Unit
  | [] => (fs, .ok ())
  | step :: rest =>
    match fs.performStep step with
    | .ok next => next.perform rest
    | .error reason => (fs, .error reason)

/-- Removes what is at a place, with everything in it. -/
def removeAt (fs : FileSystem) (place : Place) : FileSystem × Except SystemError Unit :=
  match fs.get? place with
  | some .directory => fs.perform (fs.removal (fs.height + 1) place)
  | some (.link _) => fs.perform [.removeEntry place]
  | some (.file _) | some .other => (fs, .error .noDirectory)
  | none => (fs, .error .noEntry)

/-- Removes what a path names, with everything in it. -/
def removeTree (fs : FileSystem) (current : Place) (path : Path) :
    FileSystem × Except SystemError Unit :=
  match fs.locate false current path with
  | .ok (place, _) => fs.removeAt place
  | .error reason => (fs, .error reason)

end StagedRun.FileSystem
