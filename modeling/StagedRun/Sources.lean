import StagedRun.FileSystem.Resolve
import StagedRun.Text.Quoted

/-!
# Sample files

`Sources.items` lists the files below a root, with an error in the place of everything that cannot
be looked at.  Links are followed.  The items of a directory come in the order of the names in it,
and everything below a name comes where the name stands.

## Loops

A link to a directory that is on the way from the root to the link would be followed without end, so
it is an error and is not followed.  An entry that is itself a directory is not checked: it stands
below its directory, and it can be on the way only when a link led above the root before.

`Sources.below` ends for two reasons together.  A link that is followed puts a directory on the way
that was not on it, and there are only so many; an entry that is itself a directory leads deeper into
the tree, which is only so high.
-/

namespace StagedRun

/-! ## Failures of a walk -/

/-- Why a walk could not look at something. -/
inductive WalkError where
  /-- The system refused.  The path is missing where a directory was only to be compared. -/
  | system (path : Option Path) (reason : SystemError)
  /-- A link leads to a directory on the way to it. -/
  | loop (ancestor child : Path)
  deriving DecidableEq, Repr

/-- An item that is no file that can be used. -/
inductive SourceFailure where
  /-- Something below `root` could not be looked at, `depth` directories below it. -/
  | walk (root : Path) (depth : Nat) (error : WalkError)
  /-- The path of a file is no text. -/
  | nonUtf8 (path : Path)
  deriving DecidableEq, Repr

namespace WalkError

/-- The text of an error. -/
def message : WalkError → String
  | .system none reason => reason.message
  | .system (some path) reason =>
    "IO error for operation on " ++ path.display ++ ": " ++ reason.message
  | .loop ancestor child =>
    "File system loop found: " ++ child.display ++ " points to an ancestor " ++ ancestor.display

/-- The texts of an error and of what lies behind it. -/
def chain (error : WalkError) : List String :=
  match error with
  | .system _ reason => error.message :: reason.message :: reason.behind
  | .loop _ _ => [error.message]

/-- An error with its fields. -/
def detail : WalkError → String
  | .system path reason =>
    Text.record "Io"
      [("path", Text.optional (path.map fun path => Text.quoteBytes path.bytes)),
        ("err", reason.detail)]
  | .loop ancestor child =>
    Text.record "Loop"
      [("ancestor", Text.quoteBytes ancestor.bytes), ("child", Text.quoteBytes child.bytes)]

end WalkError

namespace SourceFailure

/-- The text that reports a failure. -/
def message : SourceFailure → String
  | .walk root _ _ => "failed to walk sources below " ++ root.display
  | .nonUtf8 path => "source path " ++ path.display ++ " is not valid UTF-8"

/-- The code under which a failure is documented. -/
def code : SourceFailure → String
  | .walk _ _ _ => "graphrun::sources::walk"
  | .nonUtf8 _ => "graphrun::sources::non_utf8"

/-- The texts of everything behind a failure, the nearest first. -/
def chain : SourceFailure → List String
  | .walk _ _ error => error.chain
  | .nonUtf8 _ => []

/-- A failure with its fields. -/
def detail : SourceFailure → String
  | .walk root depth error =>
    Text.record "Walk"
      [("root", Text.quoteBytes root.bytes),
        ("source", Text.record "Error" [("depth", toString depth), ("inner", error.detail)])]
  | .nonUtf8 path => Text.record "NonUtf8" [("path", Text.quoteBytes path.bytes)]

end SourceFailure

namespace Sources

/-- A file, or why there is none. -/
abbrev Item := Except SourceFailure Path

/-- The item of a regular file. -/
def fileItem (path : Path) : Item :=
  if path.isUtf8 then .ok path else .error (.nonUtf8 path)

/-! ## The way to a directory -/

/-- A directory on the way, under the path by which it was reached. -/
structure Visit where
  path : Path
  place : Place
  deriving DecidableEq, Repr

/-- The places that are directories. -/
def directories (fs : FileSystem) : List Place :=
  [] :: (fs.entries.filter (·.2 == .directory)).map Prod.fst

/-- The directories that are not on the way. -/
def unseen (fs : FileSystem) (way : List Visit) : List Place :=
  (directories fs).filter fun place => !(way.map Visit.place).contains place

theorem mem_directories {fs : FileSystem} {place : Place}
    (h : fs.get? place = some .directory) : place ∈ directories fs := by
  by_cases hplace : place = []
  · simp [directories, hplace]
  · refine List.mem_cons_of_mem _ (List.mem_map.2 ⟨(place, .directory), ?_, rfl⟩)
    exact List.mem_filter.2 ⟨(fs.get?_eq_some_iff hplace).1 h, by simp⟩

theorem unseen_cons (fs : FileSystem) (visit : Visit) (way : List Visit) :
    unseen fs (visit :: way) = (unseen fs way).filter fun place => !(place == visit.place) := by
  rw [unseen, unseen, List.filter_filter]
  refine List.filter_congr fun place _ => ?_
  simp only [List.map_cons, List.contains_cons, Bool.not_or]

theorem length_unseen_cons_le (fs : FileSystem) (visit : Visit) (way : List Visit) :
    (unseen fs (visit :: way)).length ≤ (unseen fs way).length := by
  rw [unseen_cons]
  exact List.length_filter_le _ _

theorem length_unseen_cons_lt {fs : FileSystem} {visit : Visit} {way : List Visit}
    (directory : fs.get? visit.place = some .directory)
    (fresh : ∀ other ∈ way, other.place ≠ visit.place) :
    (unseen fs (visit :: way)).length < (unseen fs way).length := by
  rw [unseen_cons]
  refine List.length_filter_lt_length_iff_exists.2 ⟨visit.place, ?_, by simp⟩
  refine List.mem_filter.2 ⟨mem_directories directory, ?_⟩
  simpa using fresh

/-! ## Walking -/

/-- The names in a directory, in the order of their bytes. -/
def sortedNames (fs : FileSystem) (place : Place) : List Name :=
  (fs.names place).mergeSort fun a b => decide (a ≤ b)

/-- What an entry of a directory leads to.  `links` is the number of links that may still be met. -/
def reach (fs : FileSystem) (links : Nat) (place : Place) (path : Path) (name : Name) :
    Except SystemError (Place × Nat) := do
  FileSystem.checkPath path
  fs.resolve true links place [.name name]

/-- The items below a directory.  It is the first on `way`, which lists the directories on the way
from the root, the nearest first. -/
def below (fs : FileSystem) (root : Path) (way : List Visit) (links : Nat) (here : Visit) :
    List Item :=
  let failure (depth : Nat) (error : WalkError) : List Item := [.error (.walk root depth error)]
  match fs.refusal .list here.place with
  | some refusal => failure way.length (.system (some here.path) refusal.error)
  | none =>
    (sortedNames fs here.place).flatMap fun name =>
      let path := here.path.join ⟨name⟩
      let depth := way.length + 1
      match _entry : fs.get? (name :: here.place) with
      | none | some .other => []
      | some (.file _) => [fileItem path]
      | some .directory =>
        match reach fs links here.place path name with
        | .error reason => failure depth (.system (some path) reason)
        | .ok (_, links) => below fs root (here :: way) links ⟨path, name :: here.place⟩
      | some (.link _) =>
        match reach fs links here.place path name with
        | .error reason => failure depth (.system (some path) reason)
        | .ok (place, links) =>
          match _target : fs.get? place with
          | some (.file _) => [fileItem path]
          | some .directory =>
            match fs.refusal .list place with
            | some refusal => failure depth (.system none refusal.error)
            | none =>
              match _seen : (here :: way).find? (·.place = place) with
              | some ancestor => failure depth (.loop ancestor.path path)
              | none => below fs root (here :: way) links ⟨path, place⟩
          | some (.link _) | some .other | none => []
termination_by ((unseen fs (here :: way)).length, fs.height - here.place.length)
decreasing_by
  · refine Prod.Lex.right' _ (length_unseen_cons_le fs _ _) ?_
    have := fs.length_le_height _entry
    simp only [List.length_cons] at this ⊢
    omega
  · refine Prod.Lex.left _ _ (length_unseen_cons_lt _target ?_)
    simpa using List.find?_eq_none.1 _seen

/-- The items of a walk from a root, seen from a current directory. -/
def items (fs : FileSystem) (current : Place) (root : Path) : List Item :=
  let failure (error : WalkError) : List Item := [.error (.walk root 0 error)]
  let visit (place : Place) (links : Nat) : List Item :=
    match fs.get? place with
    | some (.file _) => [fileItem root]
    | some .directory => below fs root [] links ⟨root, place⟩
    | some (.link _) | some .other | none => []
  match fs.locate false current root with
  | .error reason => failure (.system (some root) reason)
  | .ok (place, links) =>
    match fs.get? place with
    | some (.link _) =>
      match fs.locate true current root with
      | .error reason => failure (.system (some root) reason)
      | .ok (place, links) =>
        match fs.get? place, fs.refusal .list place with
        | some .directory, some refusal => failure (.system none refusal.error)
        | _, _ => visit place links
    | _ => visit place links

/-- The files of a walk, or the first failure in it. -/
def collect (fs : FileSystem) (current : Place) (root : Path) : Except SourceFailure (List Path) :=
  (items fs current root).mapM id

end Sources

end StagedRun
