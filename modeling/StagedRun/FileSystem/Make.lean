import StagedRun.FileSystem.Resolve

/-!
# Making directories

`FileSystem.makeDirectory` makes one directory at the end of a path, and `FileSystem.makeDirectories`
makes the directories above it as well where they are missing.  The latter is content with a
directory that is there already, however the path leads to it.
-/

namespace StagedRun.FileSystem

/-- A path without separators at its end. -/
def trimSeparators (path : Path) : Path :=
  ⟨(path.bytes.reverse.dropWhile (· == Path.separator)).reverse⟩

/-- Makes an entry in a directory. -/
def makeEntry (fs : FileSystem) (name : Name) (above : Place) (entry : Entry) :
    Except SystemError FileSystem := do
  fs.checkEnter above
  if maxName < name.length then .error .nameTooLong
  match free : fs.get? (name :: above) with
  | some _ => .error .entryExists
  | none =>
    fs.permit .make (name :: above)
    if directory : fs.get? above = some .directory then
      .ok (fs.insert name above entry directory free)
    else .error .noEntry

/-- Makes a new entry at the end of a path. -/
def makeAt (fs : FileSystem) (current : Place) (path : Path) (entry : Entry) :
    Except SystemError FileSystem := do
  checkPath path
  let steps := (trimSeparators path).steps
  let (above, _) ← fs.resolve true maxLinks (start path current) steps.dropLast
  match steps.getLast? with
  | some (.name name) => fs.makeEntry name above entry
  | _ => .error .entryExists

/-- Makes a directory at the end of a path. -/
def makeDirectory (fs : FileSystem) (current : Place) (path : Path) :
    Except SystemError FileSystem :=
  fs.makeAt current path .directory

/-- Makes a directory, unless there is one already. -/
def ensureDirectory (fs : FileSystem) (current : Place) (path : Path) :
    FileSystem × Except SystemError Unit :=
  match fs.makeDirectory current path with
  | .ok made => (made, .ok ())
  | .error reason => (fs, if fs.isDirectory current path then .ok () else .error reason)

/-- Makes the first directory of a list, where the rest of the list are the directories above it, the
nearest first. -/
def makeChain (fs : FileSystem) (current : Place) :
    List Path → FileSystem × Except SystemError Unit
  | [] => (fs, .error (.refused .uncategorized "failed to create whole tree"))
  | path :: above =>
    if path.isEmpty then (fs, .ok ())
    else
      match fs.makeDirectory current path with
      | .ok made => (made, .ok ())
      | .error reason =>
        if reason.kind = .notFound then
          match fs.makeChain current above with
          | (made, .ok ()) => made.ensureDirectory current path
          | (made, .error reason) => (made, .error reason)
        else (fs, if fs.isDirectory current path then .ok () else .error reason)

/-- Makes a directory at the end of a path, and the directories above it that are missing. -/
def makeDirectories (fs : FileSystem) (current : Place) (path : Path) :
    FileSystem × Except SystemError Unit :=
  fs.makeChain current path.ancestors

end StagedRun.FileSystem
