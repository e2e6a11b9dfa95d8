import StagedRun.Text.Bytes

/-!
# Paths

A path is kept as the text that it was given as: `a//b`, `a/b/` and `./a/b` stay three paths.
What the text means is said by its `Path.components`, and the two operations here are chosen so
that they can be stated on components while they keep as much of the text as they can.

* `Path.join` puts a path below another one.  An absolute path is below nothing else, so it
  replaces the path that it is joined to.
* `Path.parent?` drops the last component with everything around it that means nothing.

## How a text is cut up

A path is its `Path.anchor`, the leading separator or the leading dot, followed by segments between
separators.  Segments that are empty or a dot name nothing: they come from repeated separators, from
a trailing separator, and from `.` inside a path.  A leading dot is the one dot that is kept,
because it tells a path from a plain name.  `Path.ofParts_anchor_segments` says that cutting up
loses nothing.
-/

namespace StagedRun

/-- A path as it was written. -/
structure Path where
  bytes : ByteString
  deriving DecidableEq, Repr, Inhabited

namespace Path

/-- The byte that stands between the segments of a path. -/
def separator : UInt8 := 0x2F

/-- The byte that names the directory itself. -/
def dot : UInt8 := 0x2E

/-- A path given as text. -/
def ofString (s : String) : Path :=
  ⟨Text.encode s⟩

/-- A path as text, where bytes that encode nothing are replaced. -/
def display (p : Path) : String :=
  Text.lossy p.bytes

/-- Whether a path is UTF-8. -/
def isUtf8 (p : Path) : Bool :=
  Text.isUtf8 p.bytes

/-- Whether there is no text at all. -/
def isEmpty (p : Path) : Bool :=
  p.bytes.isEmpty

/-- Whether a path starts at the root directory. -/
def isAbsolute (p : Path) : Bool :=
  p.bytes.head? == some separator

/-- Whether a path ends in a separator. -/
def endsInSeparator (p : Path) : Bool :=
  p.bytes.getLast? == some separator

/-! ## Joining -/

/-- The path `q` seen from the directory `p`. -/
def join (p q : Path) : Path :=
  if q.isAbsolute then q
  else if p.isEmpty || p.endsInSeparator then ⟨p.bytes ++ q.bytes⟩
  else ⟨p.bytes ++ separator :: q.bytes⟩

theorem join_of_isAbsolute (p : Path) {q : Path} (h : q.isAbsolute = true) : p.join q = q := by
  simp [join, h]

/-! ## Segments -/

/-- Cuts a text at every separator. -/
def split : ByteString → List ByteString
  | [] => [[]]
  | b :: rest =>
    if b = separator then [] :: split rest
    else
      match split rest with
      | [] => [[b]]
      | segment :: more => (b :: segment) :: more

/-- Puts a separator between segments. -/
def unsplit : List ByteString → ByteString
  | [] => []
  | [segment] => segment
  | segment :: next :: more => segment ++ separator :: unsplit (next :: more)

theorem split_ne_nil (bytes : ByteString) : split bytes ≠ [] := by
  cases bytes with
  | nil => simp [split]
  | cons b rest =>
    unfold split
    split
    · simp
    · split <;> simp

/-- Nothing is lost by cutting. -/
@[simp] theorem unsplit_split (bytes : ByteString) : unsplit (split bytes) = bytes := by
  induction bytes with
  | nil => rfl
  | cons b rest ih =>
    unfold split
    cases h : split rest with
    | nil => exact absurd h (split_ne_nil rest)
    | cons segment more =>
      rw [h] at ih
      by_cases hb : b = separator
      · simp [hb, unsplit, ih]
      · cases more <;> simp_all [unsplit]

/-- What a path starts with. -/
inductive Anchor where
  /-- The path starts with a name. -/
  | bare
  /-- The path starts at the root directory. -/
  | root
  /-- The path starts with a dot that stands for the current directory. -/
  | here
  deriving DecidableEq, Repr

/-- The text of an anchor. -/
def Anchor.bytes : Anchor → ByteString
  | .bare => []
  | .root => [separator]
  | .here => [dot]

/-- What a text starts with. -/
def anchorOf : ByteString → Anchor
  | [] => .bare
  | [b] => if b = separator then .root else if b = dot then .here else .bare
  | b :: c :: _ =>
    if b = separator then .root else if b = dot ∧ c = separator then .here else .bare

/-- What a path starts with. -/
def anchor (p : Path) : Anchor :=
  anchorOf p.bytes

/-- What stands between the separators after the anchor. -/
def segments (p : Path) : List ByteString :=
  split (p.bytes.drop p.anchor.bytes.length)

/-- The path with an anchor and segments. -/
def ofParts (anchor : Anchor) (segments : List ByteString) : Path :=
  ⟨anchor.bytes ++ unsplit segments⟩

theorem anchor_bytes_append_drop (bytes : ByteString) :
    (anchorOf bytes).bytes ++ bytes.drop (anchorOf bytes).bytes.length = bytes := by
  match bytes with
  | [] => rfl
  | [b] =>
    by_cases h : b = separator
    · simp [anchorOf, Anchor.bytes, h]
    · by_cases h' : b = dot <;> simp [anchorOf, Anchor.bytes, h, h']
      simp_all
  | b :: c :: rest =>
    by_cases h : b = separator
    · simp [anchorOf, Anchor.bytes, h]
    · by_cases h' : b = dot ∧ c = separator <;> simp [anchorOf, Anchor.bytes, h, h']
      simp_all

/-- A path is its anchor and its segments. -/
@[simp] theorem ofParts_anchor_segments (p : Path) : ofParts p.anchor p.segments = p := by
  obtain ⟨bytes⟩ := p
  simp [ofParts, segments, anchor, anchor_bytes_append_drop]

/-! ## Components -/

/-- One step of a path. -/
inductive Component where
  /-- The root directory, at the front only. -/
  | root
  /-- The current directory, at the front only. -/
  | here
  /-- The directory above. -/
  | up
  /-- An entry of the directory reached so far. -/
  | name (name : ByteString)
  deriving DecidableEq, Repr

/-- Whether a segment names nothing. -/
def isBlank (segment : ByteString) : Bool :=
  segment.isEmpty || segment == [dot]

/-- The component of a segment that names something. -/
def componentOf (segment : ByteString) : Component :=
  if segment = [dot, dot] then .up else .name segment

/-- The component of an anchor. -/
def Anchor.components : Anchor → List Component
  | .bare => []
  | .root => [.root]
  | .here => [.here]

/-- The segments that name something. -/
def names (p : Path) : List ByteString :=
  p.segments.filter (!isBlank ·)

/-- The steps of a path in order. -/
def components (p : Path) : List Component :=
  p.anchor.components ++ p.names.map componentOf

/-! ## Parents -/

/-- Drops the segments at the end that name nothing. -/
def trimEnd (segments : List ByteString) : List ByteString :=
  (segments.reverse.dropWhile isBlank).reverse

/-- The path without its last component, if there is a component that can be dropped.  The root
directory is no such component, and what is left may be no text at all. -/
def parent? (p : Path) : Option Path :=
  match p.segments.reverse.dropWhile isBlank with
  | _ :: above => some (ofParts p.anchor (trimEnd above.reverse))
  | [] =>
    match p.anchor with
    | .here => some ⟨[]⟩
    | .bare | .root => none

/-- The directory that holds what a path names, where the text says which one that is. -/
def enclosing? (p : Path) : Option Path :=
  p.parent?.filter (!·.isEmpty)

/-! ## Parents are shorter -/

theorem length_unsplit_append_le (l m : List ByteString) :
    (unsplit l).length ≤ (unsplit (l ++ m)).length := by
  induction l with
  | nil => simp [unsplit]
  | cons segment more ih =>
    cases more with
    | nil => cases m <;> simp [unsplit]
    | cons next rest =>
      simp only [List.cons_append] at ih ⊢
      simp only [unsplit, List.length_append, List.length_cons]
      omega

theorem length_unsplit_lt_append (l : List ByteString) {segment : ByteString}
    (h : segment ≠ []) (m : List ByteString) :
    (unsplit l).length < (unsplit (l ++ segment :: m)).length := by
  have hpos : 0 < segment.length := List.length_pos_iff.2 h
  induction l with
  | nil =>
    cases m with
    | nil => exact hpos
    | cons next rest =>
      simp only [List.nil_append, unsplit, List.length_append, List.length_nil]
      omega
  | cons first more ih =>
    cases more with
    | nil => cases m <;> simp [unsplit]
    | cons next rest =>
      simp only [List.cons_append] at ih ⊢
      simp only [unsplit, List.length_append, List.length_cons]
      omega

theorem exists_trimEnd_append (segments : List ByteString) :
    ∃ blanks, segments = trimEnd segments ++ blanks := by
  refine ⟨(segments.reverse.takeWhile isBlank).reverse, ?_⟩
  rw [trimEnd, ← List.reverse_append, List.takeWhile_append_dropWhile, List.reverse_reverse]

theorem length_lt_of_parent? {p q : Path} (h : p.parent? = some q) :
    q.bytes.length < p.bytes.length := by
  have hp : p.bytes = p.anchor.bytes ++ unsplit p.segments :=
    congrArg Path.bytes (ofParts_anchor_segments p).symm
  unfold parent? at h
  split at h
  · next last above hdrop =>
    obtain rfl := Option.some.inj h
    have hlast : last ≠ [] := by
      rintro rfl
      have := List.head?_dropWhile_not isBlank p.segments.reverse
      simp [hdrop, isBlank] at this
    have hsegments : p.segments
        = above.reverse ++ last :: (p.segments.reverse.takeWhile isBlank).reverse := by
      have := List.takeWhile_append_dropWhile (p := isBlank) (l := p.segments.reverse)
      rw [hdrop] at this
      have := congrArg List.reverse this
      simpa using this.symm
    obtain ⟨blanks, hblanks⟩ := exists_trimEnd_append above.reverse
    have h₁ := length_unsplit_append_le (trimEnd above.reverse) blanks
    rw [← hblanks] at h₁
    have h₂ := length_unsplit_lt_append above.reverse hlast
      (p.segments.reverse.takeWhile isBlank).reverse
    rw [← hsegments] at h₂
    rw [hp]
    simp only [ofParts, List.length_append]
    omega
  · split at h
    · next hanchor =>
      obtain rfl := Option.some.inj h
      rw [hp, hanchor]
      simp [Anchor.bytes]
    · simp at h
    · simp at h

/-- A path, the path without its last component, and so on as long as there is one. -/
def ancestors (p : Path) : List Path :=
  match _h : p.parent? with
  | none => [p]
  | some q => p :: q.ancestors
termination_by p.bytes.length
decreasing_by exact length_lt_of_parent? _h

end Path

end StagedRun
