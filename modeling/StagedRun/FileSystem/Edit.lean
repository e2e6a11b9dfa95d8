import StagedRun.FileSystem.Make
import StagedRun.FileSystem.Remove

/-!
# Edits

The changes that others make to a file system: children while they run, and users before.  An
`Edit` makes the directories above its path if they are missing, and one that cannot be made changes
nothing else.
-/

namespace StagedRun

/-- A change that somebody makes. -/
inductive Edit where
  /-- Makes a directory. -/
  | directory (path : Path)
  /-- Writes a file. -/
  | file (path : Path) (contents : ByteString)
  /-- Makes a link. -/
  | link (path target : Path)
  /-- Makes an entry of another type. -/
  | other (path : Path)
  /-- Removes what a path names, with everything in it. -/
  | removal (path : Path)
  deriving DecidableEq, Repr

namespace FileSystem

/-- The file system with the directories above a path. -/
def withParents (fs : FileSystem) (current : Place) (path : Path) : FileSystem :=
  match path.parent? with
  | some parent => (fs.makeDirectories current parent).1
  | none => fs

/-- The file system with a new entry at the end of a path, where one can be made. -/
def withEntry (fs : FileSystem) (current : Place) (path : Path) (entry : Entry) : FileSystem :=
  match fs.makeAt current path entry with
  | .ok made => made
  | .error _ => fs

/-- The file system without what is at a place. -/
def withoutTree (fs : FileSystem) (place : Place) : FileSystem :=
  match fs.get? place with
  | some .directory => (fs.removeAt place).1
  | some _ => (fs.perform [.removeEntry place]).1
  | none => fs

/-- The file system with a file at the end of a path.  A file that is there is replaced.  A link at
the end is followed, at most `links` times, and the file is then made where it leads. -/
def withFile (fs : FileSystem) (contents : ByteString) (links : Nat) (current : Place)
    (path : Path) : FileSystem :=
  match fs.locate false current path with
  | .ok (place, _) =>
    match fs.get? place, links with
    | some (.file _), _ =>
      (fs.withoutTree place).withEntry current (Place.path place) (.file contents)
    | some (.link target), links + 1 => fs.withFile contents links place.tail target
    | _, _ => fs
  | .error _ => fs.withEntry current path (.file contents)

/-- The file system after an edit, seen from a current directory. -/
def edit (fs : FileSystem) (current : Place) : Edit → FileSystem
  | .directory path => (fs.makeDirectories current path).1
  | .file path contents => (fs.withParents current path).withFile contents maxLinks current path
  | .link path target => (fs.withParents current path).withEntry current path (.link target)
  | .other path => (fs.withParents current path).withEntry current path .other
  | .removal path =>
    match fs.locate false current path with
    | .ok (place, _) => fs.withoutTree place
    | .error _ => fs

end FileSystem

end StagedRun
