import StagedRun.FileSystem.Basic

/-!
# What a path leads to

`FileSystem.resolve` follows a path from a directory, one `Path.Step` at a time.  Links on the way
are always followed, and a link at the end is followed on request.  A link is replaced by the steps
of its target, so a path through links can take more steps than it has.  What bounds it is the number
of links that one path may meet: `resolve` counts them down and gives back how many are left, because
a walk that goes on below the path goes on counting.

`FileSystem.locate` is `resolve` for a path as it is given: it checks the text before it looks at
the tree.
-/

namespace StagedRun

/-! ## Steps -/

/-- One step of a path as the system takes it. -/
inductive Path.Step where
  /-- Nothing is named, but what was reached has to be a directory. -/
  | directory
  /-- The directory itself. -/
  | stay
  /-- The directory above. -/
  | up
  /-- An entry of the directory. -/
  | name (name : Name)
  deriving DecidableEq, Repr

/-- The step that a segment of a path asks for. -/
def Path.Step.ofSegment (segment : ByteString) : Path.Step :=
  if segment = [] then .directory
  else if segment = [Path.dot] then .stay
  else if segment = [Path.dot, Path.dot] then .up
  else .name segment

/-- The steps that a path asks for. -/
def Path.steps (path : Path) : List Path.Step :=
  (Path.split path.bytes).map Path.Step.ofSegment

/-- The path that leads to a place when no link is on the way. -/
def Place.path (place : Place) : Path :=
  ⟨Path.separator :: Path.unsplit place.reverse⟩

namespace FileSystem

/-- How many links one path may meet. -/
def maxLinks : Nat := 40

/-- How many bytes a name may have. -/
def maxName : Nat := 255

/-- How many bytes a path may have. -/
def maxPath : Nat := 4095

/-! ## Following steps -/

/-- Checks that there is a directory at a place. -/
def checkDirectory (fs : FileSystem) (place : Place) : Except SystemError Unit :=
  match fs.get? place with
  | some .directory => .ok ()
  | some _ => .error .noDirectory
  | none => .error .noEntry

/-- Checks that names can be looked up at a place. -/
def checkEnter (fs : FileSystem) (place : Place) : Except SystemError Unit := do
  fs.checkDirectory place
  fs.permit .enter place

/-- The place from which the target of a link in a directory is followed. -/
def linkBase (target : Path) (directory : Place) : Place :=
  if target.isAbsolute then [] else directory

/-- Follows steps from a place.  `links` is the number of links that may still be met, and `follow`
tells whether a link at the end is followed. -/
def resolve (fs : FileSystem) (follow : Bool) (links : Nat) (here : Place) :
    List Path.Step → Except SystemError (Place × Nat)
  | [] => .ok (here, links)
  | .directory :: rest => do
    fs.checkDirectory here
    fs.resolve follow links here rest
  | .stay :: rest => do
    fs.checkEnter here
    fs.resolve follow links here rest
  | .up :: rest => do
    fs.checkEnter here
    fs.resolve follow links here.tail rest
  | .name name :: rest => do
    fs.checkEnter here
    if maxName < name.length then .error .nameTooLong
    match fs.get? (name :: here) with
    | none => .error .noEntry
    | some (.link target) =>
      if rest.isEmpty && !follow then .ok (name :: here, links)
      else
        match links with
        | 0 => .error .tooManyLinks
        | links + 1 =>
          if target.isEmpty then .error .noEntry
          else fs.resolve follow links (linkBase target here) (target.steps ++ rest)
    | some _ => fs.resolve follow links (name :: here) rest
termination_by steps => (links, steps.length)

/-! ## Following paths -/

/-- Checks the text of a path. -/
def checkPath (path : Path) : Except SystemError Unit :=
  if path.bytes.contains 0 then .error .zeroInPath
  else if maxPath < path.bytes.length then .error .nameTooLong
  else if path.isEmpty then .error .noEntry
  else .ok ()

/-- The place from which a path is followed. -/
def start (path : Path) (current : Place) : Place :=
  if path.isAbsolute then [] else current

/-- What a path leads to from a current directory, and how many links may still be met after it. -/
def locate (fs : FileSystem) (follow : Bool) (current : Place) (path : Path) :
    Except SystemError (Place × Nat) := do
  checkPath path
  fs.resolve follow maxLinks (start path current) path.steps

/-- Whether a path leads to a directory. -/
def isDirectory (fs : FileSystem) (current : Place) (path : Path) : Bool :=
  match fs.locate true current path with
  | .ok (place, _) => fs.get? place == some .directory
  | .error _ => false

theorem isDirectory_iff (fs : FileSystem) (current : Place) (path : Path) :
    fs.isDirectory current path = true ↔
      ∃ place links, fs.locate true current path = .ok (place, links) ∧
        fs.get? place = some .directory := by
  unfold isDirectory
  split
  · next place links h => simp [h]
  · next error h => simp [h]

end FileSystem

end StagedRun
