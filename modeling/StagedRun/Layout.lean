import StagedRun.Path.Absolute
import StagedRun.Failure

/-!
# The directories of a run

Everything that a run touches hangs off two directories: the one that holds the program and the
root of the repository.  `Layout` keeps these two, and the others follow from the root.

`Layout.discover` finds them.  Without further information the root is the directory above the one
that holds the program, and `Layout.ofToolPath` fails where the path of the program has no such
directory.  A root that is named explicitly is made absolute and replaces the one found.
-/

namespace StagedRun

/-- The two directories from which all others follow. -/
structure Layout where
  /-- The directory that holds the program. -/
  tool : Path
  /-- The root of the repository. -/
  root : Path
  deriving DecidableEq, Repr

namespace Layout

/-- The name of the directory with the compiled analyzer. -/
def buildName : String := "build"

/-- The name of the directory for what the analyzer writes. -/
def outputName : String := "out"

/-- The name of the directory with the samples. -/
def sourcesName : String := "sources"

/-- The directory with the compiled analyzer. -/
def build (layout : Layout) : Path :=
  layout.root.join (.ofString buildName)

/-- The directory for what the analyzer writes. -/
def output (layout : Layout) : Path :=
  layout.root.join (.ofString outputName)

/-- The directory with the samples. -/
def sources (layout : Layout) : Path :=
  layout.root.join (.ofString sourcesName)

/-- The directory that holds what a path names. -/
def parentOf (path : Path) : Except Failure Path :=
  match path.enclosing? with
  | some parent => .ok parent
  | none => .error (.noParentDirectory path)

/-- The directories that follow from the path of the program. -/
def ofToolPath (path : Path) : Except Failure Layout := do
  let tool ← parentOf path
  let root ← parentOf tool
  return ⟨tool, root⟩

/-- A path that is a text. -/
def checkUtf8 (path : Path) : Except Failure Path :=
  if path.isUtf8 then .ok path else .error (.nonUtf8Path path)

/-- What a path means, seen from the current directory, if that is needed and known. -/
def makeAbsolute (path : Path) (current : Except SystemError Path) : Except SystemError Path :=
  if path.isEmpty then .error .emptyPath
  else if path.isAbsolute then .ok (path.absolute .root)
  else current.map path.absolute

/-- An answer of the system about a place, as a step of the discovery. -/
def located (answer : Except SystemError Path) : Except Failure Path :=
  answer.mapError .toolLocation

/-- The directories of a run.  `executable` is the program with all links resolved, `current` is
the current directory, and `root` is the root that a user named. -/
def discover (executable current : Except SystemError Path) (root : Option Path) :
    Except Failure Layout := do
  let path ← checkUtf8 (← located executable)
  match root with
  | none => ofToolPath path
  | some named =>
    let tool ← parentOf path
    let root ← checkUtf8 (← located (makeAbsolute named current))
    return ⟨tool, root⟩

end Layout

end StagedRun
