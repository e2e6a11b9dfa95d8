import StagedRun.Path.Basic

/-!
# Absolute paths

`Path.absolute` is the absolute path that means what a path means, found without looking at any
file.  Segments that name nothing go, with two exceptions that the meaning of a path hangs on:

* a trailing separator stays, because it asks for a directory;
* exactly two leading separators stay two, because a system may give them a meaning of their own,
  whereas three and more mean one.

A `..` stays as well: what is above a directory that is reached through a link cannot be told from
the text.
-/

namespace StagedRun.Path

/-- The root directory. -/
def root : Path := ⟨[separator]⟩

/-- Whether a path starts with exactly two separators. -/
def hasDoubleRoot (p : Path) : Bool :=
  match p.bytes with
  | a :: b :: rest => a == separator && b == separator && rest.head? != some separator
  | _ => false

/-- Where the names of a path are counted from: the root directory, or the current directory for a
path that is not absolute. -/
def base (p current : Path) : Path :=
  if p.isAbsolute then if p.hasDoubleRoot then ⟨[separator, separator]⟩ else root else current

/-- The path `p` seen from the directory `current`, as an absolute path. -/
def absolute (p current : Path) : Path :=
  let named := p.names.foldl (fun q name => q.join ⟨name⟩) (p.base current)
  if p.endsInSeparator then named.join ⟨[]⟩ else named

end StagedRun.Path
