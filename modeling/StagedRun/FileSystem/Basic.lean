import StagedRun.Path.Basic
import StagedRun.SystemError

/-!
# File systems

A `FileSystem` is a finite tree of directories, files, links and entries of other types, together
with what the system refuses to do in it.

## Places

A `Place` says where an entry is without any link on the way: the names from the entry up to the
root directory, so `b` in `a` is `[b, a]`.  What is below a place are the places that end in it.  A
place is not a path: a path is a text whose meaning depends on links, and
`StagedRun.FileSystem.Resolve` leads from the one to the other.

## The tree

The entries are kept as a list, in the order in which a directory lists them.  Two facts hold of
every file system, and the operations keep them: no place has two entries, and every entry stands in
a directory.  The root directory is always there and has no entry.

There are two ways to change the tree, `FileSystem.insert` and `FileSystem.erase`, and
`get?_insert` and `get?_erase` say that each of them changes one place and leaves the others alone.

## Refusals

Whether an action at a place is refused is part of the file system too: `refusal` covers permissions
as well as a disk that is full, read-only or faulty.
-/

namespace StagedRun

/-- The name of an entry in its directory. -/
abbrev Name := ByteString

/-- Where an entry is: its name, the name of its directory, and so on up to the root directory. -/
abbrev Place := List Name

/-- What can be found at a place. -/
inductive Entry where
  | directory
  | file (contents : ByteString)
  | link (target : Path)
  /-- A pipe, a socket or a device. -/
  | other
  deriving DecidableEq, Repr

/-- What can be refused at a place. -/
inductive Action where
  /-- To list the directory there. -/
  | list
  /-- To look up names in the directory there. -/
  | enter
  /-- To make an entry there. -/
  | make
  /-- To remove the entry there. -/
  | remove
  deriving DecidableEq, Repr

/-- Why an action is refused that the tree would allow. -/
inductive Refusal where
  | notPermitted
  | faultyDevice
  | permissionDenied
  | busy
  | tooManyOpenFiles
  | full
  | readOnly
  deriving DecidableEq, Repr

/-- The error that reports a refusal. -/
def Refusal.error : Refusal → SystemError
  | .notPermitted => .numbered 1
  | .faultyDevice => .numbered 5
  | .permissionDenied => .numbered 13
  | .busy => .numbered 16
  | .tooManyOpenFiles => .numbered 24
  | .full => .numbered 28
  | .readOnly => .numbered 30

/-- A tree of entries, and what is refused in it. -/
structure FileSystem where
  /-- The entries, in the order in which directories list them. -/
  entries : List (Place × Entry)
  /-- What is refused, and why. -/
  refusal : Action → Place → Option Refusal
  /-- No place has two entries. -/
  distinct : (entries.map Prod.fst).Nodup
  /-- Every entry has a name and stands in a directory. -/
  rooted : ∀ place entry, (place, entry) ∈ entries →
    ∃ name above, place = name :: above ∧ (above = [] ∨ (above, Entry.directory) ∈ entries)

namespace FileSystem

/-- The file system with nothing but the root directory, in which nothing is refused. -/
def empty : FileSystem where
  entries := []
  refusal _ _ := none
  distinct := List.nodup_nil
  rooted := by simp

/-- What is at a place. -/
def get? (fs : FileSystem) (place : Place) : Option Entry :=
  if place = [] then some .directory else fs.entries.lookup place

/-- The names in a directory, in the order in which it lists them. -/
def names (fs : FileSystem) (place : Place) : List Name :=
  fs.entries.filterMap fun (key, _) =>
    match key with
    | [] => none
    | name :: above => if above = place then some name else none

/-- An action that is refused is an error. -/
def permit (fs : FileSystem) (action : Action) (place : Place) : Except SystemError Unit :=
  match fs.refusal action place with
  | some refusal => .error refusal.error
  | none => .ok ()

/-- Every place has at most this many names. -/
def height (fs : FileSystem) : Nat :=
  fs.entries.foldr (fun entry height => max entry.1.length height) 0

/-! ## Looking up -/

@[simp] theorem get?_nil (fs : FileSystem) : fs.get? [] = some .directory := by
  simp [get?]

theorem mem_of_lookup_eq_some {entries : List (Place × Entry)} {place : Place} {entry : Entry}
    (h : entries.lookup place = some entry) : (place, entry) ∈ entries := by
  induction entries with
  | nil => simp at h
  | cons first rest ih =>
    obtain ⟨key, value⟩ := first
    rw [List.lookup_cons] at h
    by_cases hkey : place = key
    · subst hkey
      simp only [BEq.rfl] at h
      simp_all
    · rw [beq_false_of_ne hkey] at h
      exact List.mem_cons_of_mem _ (ih h)

theorem lookup_eq_some_of_mem {entries : List (Place × Entry)}
    (distinct : (entries.map Prod.fst).Nodup) {place : Place} {entry : Entry}
    (h : (place, entry) ∈ entries) : entries.lookup place = some entry := by
  induction entries with
  | nil => simp at h
  | cons first rest ih =>
    obtain ⟨key, value⟩ := first
    rw [List.map_cons, List.nodup_cons] at distinct
    rw [List.lookup_cons]
    rcases List.mem_cons.1 h with hfirst | hrest
    · obtain ⟨rfl, rfl⟩ := Prod.mk.inj hfirst
      simp
    · have hkey : place ≠ key := fun heq =>
        distinct.1 (heq ▸ List.mem_map.2 ⟨(place, entry), hrest, rfl⟩)
      rw [beq_false_of_ne hkey]
      exact ih distinct.2 hrest

theorem ne_nil_of_mem (fs : FileSystem) {place : Place} {entry : Entry}
    (h : (place, entry) ∈ fs.entries) : place ≠ [] := by
  obtain ⟨name, above, rfl, _⟩ := fs.rooted place entry h
  simp

theorem get?_eq_some_iff (fs : FileSystem) {place : Place} {entry : Entry} (h : place ≠ []) :
    fs.get? place = some entry ↔ (place, entry) ∈ fs.entries := by
  rw [get?, if_neg h]
  exact ⟨mem_of_lookup_eq_some, lookup_eq_some_of_mem fs.distinct⟩

theorem get?_eq_some_of_mem (fs : FileSystem) {place : Place} {entry : Entry}
    (h : (place, entry) ∈ fs.entries) : fs.get? place = some entry :=
  (fs.get?_eq_some_iff (fs.ne_nil_of_mem h)).2 h

/-- An entry stands in a directory. -/
theorem get?_above (fs : FileSystem) {name : Name} {above : Place} {entry : Entry}
    (h : fs.get? (name :: above) = some entry) : fs.get? above = some .directory := by
  obtain ⟨_, _, heq, habove⟩ := fs.rooted _ _ ((fs.get?_eq_some_iff (by simp)).1 h)
  obtain ⟨rfl, rfl⟩ := List.cons.inj heq
  rcases habove with rfl | habove
  · exact fs.get?_nil
  · exact fs.get?_eq_some_of_mem habove

theorem mem_names (fs : FileSystem) {name : Name} {place : Place} :
    name ∈ fs.names place ↔ ∃ entry, fs.get? (name :: place) = some entry := by
  constructor
  · intro h
    obtain ⟨⟨key, entry⟩, hmem, hname⟩ := List.mem_filterMap.1 h
    refine ⟨entry, (fs.get?_eq_some_iff (by simp)).2 ?_⟩
    match key, hname with
    | found :: above, hname =>
      by_cases habove : above = place
      · simp only [habove, if_pos] at hname
        obtain rfl := Option.some.inj hname
        rwa [← habove]
      · simp [habove] at hname
  · rintro ⟨entry, h⟩
    exact List.mem_filterMap.2
      ⟨(name :: place, entry), (fs.get?_eq_some_iff (by simp)).1 h, by simp⟩

theorem length_le_height_of_mem {entries : List (Place × Entry)} {place : Place} {entry : Entry}
    (h : (place, entry) ∈ entries) :
    place.length ≤ entries.foldr (fun entry height => max entry.1.length height) 0 := by
  induction entries with
  | nil => simp at h
  | cons first rest ih =>
    rcases List.mem_cons.1 h with rfl | h
    · exact Nat.le_max_left _ _
    · exact Nat.le_trans (ih h) (Nat.le_max_right _ _)

theorem length_le_height (fs : FileSystem) {place : Place} {entry : Entry}
    (h : fs.get? place = some entry) : place.length ≤ fs.height := by
  by_cases hplace : place = []
  · simp [hplace]
  · exact length_le_height_of_mem ((fs.get?_eq_some_iff hplace).1 h)

/-! ## Changing the tree -/

/-- The file system with one entry more, in a directory and at a place where nothing is. -/
def insert (fs : FileSystem) (name : Name) (above : Place) (entry : Entry)
    (directory : fs.get? above = some .directory) (free : fs.get? (name :: above) = none) :
    FileSystem where
  entries := fs.entries ++ [(name :: above, entry)]
  refusal := fs.refusal
  distinct := by
    rw [List.map_append, List.nodup_append]
    refine ⟨fs.distinct, by simp, ?_⟩
    rintro place hplace _ hnew rfl
    obtain ⟨⟨key, found⟩, hmem, rfl⟩ := List.mem_map.1 hplace
    simp only [List.map_cons, List.map_nil, List.mem_singleton] at hnew
    rw [hnew] at hmem
    rw [fs.get?_eq_some_of_mem hmem] at free
    simp at free
  rooted := by
    intro place found hmem
    rcases List.mem_append.1 hmem with hmem | hmem
    · obtain ⟨first, rest, rfl, habove⟩ := fs.rooted place found hmem
      exact ⟨first, rest, rfl, habove.imp id (List.mem_append_left _)⟩
    · obtain ⟨rfl, rfl⟩ := Prod.mk.inj (List.mem_singleton.1 hmem)
      refine ⟨name, above, rfl, ?_⟩
      by_cases habove : above = []
      · exact .inl habove
      · exact .inr (List.mem_append_left _ ((fs.get?_eq_some_iff habove).1 directory))

/-- The file system without what is at a place, which must not have entries in it. -/
def erase (fs : FileSystem) (place : Place) (bare : fs.names place = []) : FileSystem where
  entries := fs.entries.filter fun entry => entry.1 ≠ place
  refusal := fs.refusal
  distinct :=
    fs.distinct.sublist (List.filter_sublist.map Prod.fst)
  rooted := by
    intro spot found hkept
    have hmem := (List.mem_filter.1 hkept).1
    obtain ⟨name, above, rfl, habove⟩ := fs.rooted spot found hmem
    refine ⟨name, above, rfl, habove.imp id fun habove => List.mem_filter.2 ⟨habove, ?_⟩⟩
    have hne : above ≠ place := by
      intro heq
      have := fs.mem_names.2 ⟨found, heq ▸ fs.get?_eq_some_of_mem hmem⟩
      simp [bare] at this
    simpa using hne

theorem get?_insert (fs : FileSystem) (name : Name) (above : Place) (entry : Entry)
    (directory : fs.get? above = some .directory) (free : fs.get? (name :: above) = none)
    (place : Place) :
    (fs.insert name above entry directory free).get? place
      = if place = name :: above then some entry else fs.get? place := by
  by_cases hplace : place = []
  · subst hplace
    simp
  · have hiff : ∀ found, (fs.insert name above entry directory free).get? place = some found ↔
        (if place = name :: above then some entry else fs.get? place) = some found := by
      intro found
      rw [get?_eq_some_iff _ hplace]
      simp only [insert, List.mem_append, List.mem_singleton, Prod.mk.injEq]
      rw [← get?_eq_some_iff _ hplace]
      split
      · next heq =>
        subst heq
        simp [free, eq_comm]
      · next hne => simp [hne]
    exact Option.ext hiff

theorem get?_erase (fs : FileSystem) (place : Place) (bare : fs.names place = []) (spot : Place)
    (h : spot ≠ []) :
    (fs.erase place bare).get? spot = if spot = place then none else fs.get? spot := by
  have hiff : ∀ found, (fs.erase place bare).get? spot = some found ↔
      (if spot = place then none else fs.get? spot) = some found := by
    intro found
    rw [get?_eq_some_iff _ h]
    simp only [erase, List.mem_filter, decide_not, Bool.not_eq_true', decide_eq_false_iff_not]
    rw [← get?_eq_some_iff _ h]
    split <;> simp_all
  exact Option.ext hiff

end FileSystem

end StagedRun
