import Mathlib.Data.List.Sort
import Mathlib.Tactic.Lemma
import StagedRun.Proofs.FileSystem.Reordered
import StagedRun.Proofs.Sources.Depth

/-!
# What is collected from a walk

`Sources.collect` gives the files of a walk, or one failure.  `Sources.collect_gathers` says which.
The files are those of the trails that resolve to one, in the order of the walk, and there are files
only if all trails of the walk are sound (`Walk.IsSound`).  Otherwise the failure is the item of the
first trail that is not.

Neither depends on the order in which directories list their entries.  A trail of the walk is one in
every other order too, and has the same item there, because all of it is looked up by name
(`Walk.isOn_withFiles`, `Walk.item?_withFiles`).  The order of the walk is that of the names.
-/

namespace StagedRun

open FileSystem

/-! ## The first failure in a row -/

section Row

variable {ε α : Type} {items : List (Except ε α)} {values : List α} {failure : ε}

lemma mapM_id_eq_ok_iff : items.mapM id = .ok values ↔ items = values.map .ok := by
  induction items generalizing values with
  | nil => cases values <;> simp [pure, Except.pure]
  | cons item items ih =>
    rw [List.mapM_cons, bind_eq_ok_iff]
    simp only [bind_eq_ok_iff, ih, id]
    constructor
    · rintro ⟨value, rfl, rest, rfl, hvalues⟩
      rw [← Except.ok.inj hvalues, List.map_cons]
    · intro hitems
      cases values with
      | nil => cases hitems
      | cons value rest =>
        obtain ⟨hitem, hrest⟩ := List.cons.inj hitems
        exact ⟨value, hitem, rest, hrest, rfl⟩

lemma mapM_id_eq_error_iff :
    items.mapM id = .error failure ↔
      ∃ (before : List α) (after : List (Except ε α)),
        items = before.map .ok ++ .error failure :: after := by
  induction items with
  | nil => simp [pure, Except.pure]
  | cons item items ih =>
    rw [List.mapM_cons, bind_eq_error_iff]
    simp only [bind_eq_error_iff, ih, id]
    constructor
    · rintro (rfl | ⟨value, rfl, ⟨before, after, rfl⟩ | ⟨_, _, hvalues⟩⟩)
      · exact ⟨[], items, rfl⟩
      · exact ⟨value :: before, after, rfl⟩
      · cases hvalues
    · rintro ⟨before, after, hitems⟩
      cases before with
      | nil => exact .inl (List.cons.inj hitems).1
      | cons value before =>
        obtain ⟨hitem, hrest⟩ := List.cons.inj hitems
        exact .inr ⟨value, hitem, .inl ⟨before, after, hrest⟩⟩

end Row

namespace Walk

variable {walk : Walk} {trail : Trail} {failure : SourceFailure} {trails : List Trail}

/-! ## Sound trails -/

variable (walk) in
/-- Nothing keeps a walk from what a trail leads to. -/
structure IsSound (trail : Trail) : Prop where
  resolved : ∃ found, walk.resolves trail = .ok found
  /-- A directory can be listed. -/
  readable : walk.resolves trail = .ok (some .directory) → walk.refused trail = none
  /-- No link leads back to a directory on the trail. -/
  straight : ∀ earlier, ¬ walk.LeadsBackTo trail earlier
  /-- The path of a file is a text. -/
  isUtf8 : ∀ contents, walk.resolves trail = .ok (some (.file contents)) →
    (walk.path trail).isUtf8 = true

variable (walk) in
/-- A trail resolves to a regular file. -/
def IsFile (trail : Trail) : Prop :=
  ∃ contents, walk.resolves trail = .ok (some (.file contents))

lemma item?_of_file {contents : ByteString}
    (h : walk.resolves trail = .ok (some (.file contents))) :
    walk.item? trail = some (Sources.fileItem (walk.path trail)) := by
  simp only [item?, h, Sources.fileItem]

/-- A trail that is not a file has no file for its item. -/
lemma isFile_of_item? {path : Path} (h : walk.item? trail = some (.ok path)) :
    walk.IsFile trail ∧ path = walk.path trail := by
  cases hresolves : walk.resolves trail with
  | error reason => simp [item?, hresolves] at h
  | ok found =>
    cases found with
    | none => simp [item?, hresolves] at h
    | some entry =>
      cases entry with
      | link _ | other => simp [item?, hresolves] at h
      | directory =>
        cases hrefused : walk.refused trail <;> simp [item?, hresolves, hrefused] at h
      | file contents =>
        rw [item?_of_file hresolves, Sources.fileItem] at h
        by_cases htext : (walk.path trail).isUtf8 = true
        · rw [if_pos htext] at h
          exact ⟨⟨contents, hresolves⟩, (Except.ok.inj (Option.some.inj h)).symm⟩
        · rw [if_neg htext] at h
          cases Option.some.inj h

/-- The trails of a walk that are not sound are those with a failure for their item. -/
lemma IsOn.isSound_iff (hon : walk.IsOn trail) :
    walk.IsSound trail ↔ ∀ failure, walk.item? trail ≠ some (.error failure) := by
  constructor
  · intro hsound failure hitem
    obtain ⟨found, hfound⟩ := hsound.resolved
    cases found with
    | none => simp [item?, hfound] at hitem
    | some entry =>
      cases entry with
      | link _ | other => simp [item?, hfound] at hitem
      | file contents =>
        rw [item?_of_file hfound, Sources.fileItem, if_pos (hsound.isUtf8 contents hfound)] at hitem
        cases Option.some.inj hitem
      | directory =>
        have hfresh : walk.ancestor? trail = none := by
          by_contra hback
          obtain ⟨earlier, hearlier⟩ := Option.ne_none_iff_exists'.1 hback
          exact hsound.straight earlier (leadsBackTo_of_ancestor? hearlier)
        simp [item?, hfound, hsound.readable hfound, hfresh] at hitem
  · intro hitem
    constructor
    case resolved =>
      cases hresolves : walk.resolves trail with
      | ok found => exact ⟨found, rfl⟩
      | error reason =>
        have hfailure : walk.item? trail = some (.error (.walk walk.root trail.length
            (.system (some (walk.path trail)) reason))) := by
          simp only [item?, hresolves]
        exact absurd hfailure (hitem _)
    case readable =>
      intro hdirectory
      cases hrefused : walk.refused trail with
      | none => rfl
      | some refusal =>
        have hfailure : walk.item? trail = some (.error (.walk walk.root trail.length
            (.system (if walk.isLink trail then none else some (walk.path trail))
              refusal.error))) := by
          simp only [item?, hdirectory, hrefused]
        exact absurd hfailure (hitem _)
    case straight =>
      intro earlier hback
      obtain ⟨_, _, hloop⟩ := hback.item?_eq hon
      exact hitem _ hloop
    case isUtf8 =>
      intro contents hfile
      by_contra htext
      refine hitem (.nonUtf8 (walk.path trail)) ?_
      rw [item?_of_file hfile, Sources.fileItem, if_neg htext]

/-! ## The paths of trails -/

lemma stepsInto_path (hplain : ∀ name ∈ trail, Path.IsPlain name) :
    (walk.path trail).stepsInto = walk.root.stepsInto ++ trail.reverse.map .name := by
  induction trail with
  | nil => simp [path]
  | cons name above ih =>
    obtain ⟨hname, habove⟩ := List.forall_mem_cons.1 hplain
    rw [path, Path.stepsInto_join _ hname, ih habove]
    simp

/-- Different trails have different paths. -/
lemma eq_of_path_eq {other : Trail} (hplain : ∀ name ∈ trail, Path.IsPlain name)
    (hother : ∀ name ∈ other, Path.IsPlain name) (h : walk.path trail = walk.path other) :
    trail = other := by
  have hsteps := congrArg Path.stepsInto h
  rw [stepsInto_path hplain, stepsInto_path hother, List.append_cancel_left_eq] at hsteps
  have hname : Function.Injective Path.Step.name := fun _ _ hsame => Path.Step.name.inj hsame
  exact List.reverse_injective (List.map_injective_iff.2 hname hsteps)

variable (walk) in
/-- Every entry has a name that a path can end in. -/
def HasPlainNames : Prop :=
  ∀ place entry, (place, entry) ∈ walk.fs.entries → ∀ name ∈ place, Path.IsPlain name

lemma HasPlainNames.isPlain (hplain : walk.HasPlainNames) (hon : walk.IsOn trail) :
    ∀ name ∈ trail, Path.IsPlain name := by
  intro name hname
  obtain ⟨⟨place, entry⟩, hmem, hhead⟩ := List.mem_filterMap.1 (hon.mem_entryNames name hname)
  exact hplain place entry hmem name (List.mem_of_head? hhead)

/-! ## The same walk over other file systems -/

/-- The same walk over another file system. -/
def withFiles (walk : Walk) (fs : FileSystem) : Walk :=
  { walk with fs }

variable {other : FileSystem}

lemma path_withFiles (walk : Walk) (other : FileSystem) (trail : Trail) :
    (walk.withFiles other).path trail = walk.path trail := by
  induction trail with
  | nil => rfl
  | cons name above ih => rw [path, path, ih]

lemma leads_withFiles (h : walk.fs.Reordered other) (trail : Trail) :
    (walk.withFiles other).leads trail = walk.leads trail := by
  rw [leads, leads, path_withFiles]
  exact congrArg _ (funext fun _ => (h.resolve_eq _ _ _ _).symm)

lemma entryAt_withFiles (h : walk.fs.Reordered other) (trail : Trail) :
    (walk.withFiles other).entryAt trail = walk.entryAt trail := by
  cases trail with
  | nil =>
    rw [entryAt, entryAt]
    simp only [withFiles, h.locate_eq, h.get?_eq]
  | cons name above =>
    rw [entryAt, entryAt, leads_withFiles h]
    simp only [withFiles, h.get?_eq]

lemma resolves_withFiles (h : walk.fs.Reordered other) (trail : Trail) :
    (walk.withFiles other).resolves trail = walk.resolves trail := by
  rw [resolves, resolves, entryAt_withFiles h, leads_withFiles h]
  simp only [withFiles, h.get?_eq]

lemma isLink_withFiles (h : walk.fs.Reordered other) (trail : Trail) :
    (walk.withFiles other).isLink trail = walk.isLink trail := by
  rw [isLink, isLink, entryAt_withFiles h]

lemma refused_withFiles (h : walk.fs.Reordered other) (trail : Trail) :
    (walk.withFiles other).refused trail = walk.refused trail := by
  rw [refused, refused, leads_withFiles h]
  simp only [withFiles, h.refusal]

lemma leadsTo_withFiles (h : walk.fs.Reordered other) (trail : Trail) (place : Place) :
    (walk.withFiles other).leadsTo trail place = walk.leadsTo trail place := by
  rw [leadsTo, leadsTo, leads_withFiles h]

lemma ancestor?_withFiles (h : walk.fs.Reordered other) (trail : Trail) :
    (walk.withFiles other).ancestor? trail = walk.ancestor? trail := by
  cases trail with
  | nil => rfl
  | cons name above =>
    rw [ancestor?, ancestor?]
    simp only [leads_withFiles h, isLink_withFiles h, leadsTo_withFiles h]

/-- A trail has the same item, however directories list their entries. -/
lemma item?_withFiles (h : walk.fs.Reordered other) (trail : Trail) :
    (walk.withFiles other).item? trail = walk.item? trail := by
  have hroot : (walk.withFiles other).root = walk.root := rfl
  simp only [item?, resolves_withFiles h, path_withFiles, refused_withFiles h, isLink_withFiles h,
    ancestor?_withFiles h, hroot]

lemma opens_withFiles (h : walk.fs.Reordered other) (trail : Trail) :
    (walk.withFiles other).Opens trail ↔ walk.Opens trail := by
  constructor
  · rintro ⟨hdirectory, hreadable, hfresh⟩
    rw [resolves_withFiles h] at hdirectory
    rw [refused_withFiles h] at hreadable
    rw [ancestor?_withFiles h] at hfresh
    exact ⟨hdirectory, hreadable, hfresh⟩
  · rintro ⟨hdirectory, hreadable, hfresh⟩
    rw [← resolves_withFiles h] at hdirectory
    rw [← refused_withFiles h] at hreadable
    rw [← ancestor?_withFiles h] at hfresh
    exact ⟨hdirectory, hreadable, hfresh⟩

/-- The trails of a walk are the same, however directories list their entries. -/
lemma isOn_withFiles (h : walk.fs.Reordered other) (trail : Trail) :
    (walk.withFiles other).IsOn trail ↔ walk.IsOn trail := by
  constructor
  · intro hon
    induction hon with
    | root => exact .root
    | entry _ hopens hentry ih =>
      rw [opens_withFiles h] at hopens
      rw [entryAt_withFiles h] at hentry
      exact .entry ih hopens hentry
  · intro hon
    induction hon with
    | root => exact .root
    | entry _ hopens hentry ih =>
      rw [← opens_withFiles h] at hopens
      rw [← entryAt_withFiles h] at hentry
      exact .entry ih hopens hentry

/-! ## What is collected -/

/-- Where nothing is wrong, the trails with an item are the files. -/
lemma isSome_item?_iff (hsound : ∀ failure, walk.item? trail ≠ some (.error failure)) :
    (walk.item? trail).isSome = true ↔ walk.IsFile trail := by
  constructor
  · intro hsome
    obtain ⟨item, hitem⟩ := Option.isSome_iff_exists.1 hsome
    cases item with
    | error failure => exact absurd hitem (hsound failure)
    | ok path => exact (isFile_of_item? hitem).1
  · rintro ⟨contents, hfile⟩
    rw [item?_of_file hfile]
    rfl

/-- Items that are all files are the paths of the trails that resolve to one. -/
lemma exists_files {files : List Path} (horder : trails.Pairwise Trail.Precedes)
    (hsound : ∀ trail ∈ trails, ∀ failure, walk.item? trail ≠ some (.error failure))
    (hfiles : trails.filterMap walk.item? = files.map .ok) :
    ∃ kept : List Trail, kept.Pairwise Trail.Precedes ∧
      (∀ trail, trail ∈ kept ↔ trail ∈ trails ∧ walk.IsFile trail) ∧
      files = kept.map walk.path := by
  let hasItem (trail : Trail) : Bool := (walk.item? trail).isSome
  have hitem (trail : Trail) (htrail : trail ∈ trails) : walk.item? trail =
      (Option.guard hasItem trail).map fun trail => .ok (walk.path trail) := by
    cases hitem : walk.item? trail with
    | none => simp [Option.guard, hasItem, hitem]
    | some item =>
      cases item with
      | error failure => exact absurd hitem (hsound trail htrail failure)
      | ok path =>
        obtain ⟨_, rfl⟩ := isFile_of_item? hitem
        simp [Option.guard, hasItem, hitem]
  refine ⟨trails.filter hasItem, horder.filter _, fun trail => ?_, ?_⟩
  · rw [List.mem_filter]
    exact and_congr_right fun htrail => isSome_item?_iff (hsound trail htrail)
  · have hok : Function.Injective (Except.ok : Path → Sources.Item) := fun _ _ hsame =>
      Except.ok.inj hsame
    apply List.map_injective_iff.2 hok
    calc
      files.map .ok = trails.filterMap walk.item? := hfiles.symm
      _ = trails.filterMap fun trail =>
          (Option.guard hasItem trail).map fun trail => .ok (walk.path trail) :=
        List.filterMap_congr hitem
      _ = ((trails.filter hasItem).map walk.path).map .ok := by
        rw [← List.map_filterMap, List.filterMap_eq_filter, List.map_map]
        rfl

/-- The failure that comes first among the items is that of a trail before all others that have
one. -/
lemma exists_first_failure {before : List Path} {after : List Sources.Item}
    (horder : trails.Pairwise Trail.Precedes)
    (hitems : trails.filterMap walk.item? = before.map .ok ++ .error failure :: after) :
    ∃ trail ∈ trails, walk.item? trail = some (.error failure) ∧
      ∀ other ∈ trails, ∀ reason, walk.item? other = some (.error reason) →
        other = trail ∨ Trail.Precedes trail other := by
  obtain ⟨front, back, rfl, hfront, hback⟩ := List.filterMap_eq_append_iff.1 hitems
  obtain ⟨bare, trail, rest, rfl, hbare, htrail, _⟩ := List.filterMap_eq_cons_iff.1 hback
  refine ⟨trail, by simp, htrail, fun other hother reason hreason => ?_⟩
  -- Another trail gave one of the files before, or no item, or comes after.
  rcases List.mem_append.1 hother with hother | hother
  · have hmem : Except.error reason ∈ before.map (Except.ok (ε := SourceFailure)) := by
      rw [← hfront]
      exact List.mem_filterMap.2 ⟨other, hother, hreason⟩
    simp at hmem
  rcases List.mem_append.1 hother with hother | hother
  · cases (hbare other hother).symm.trans hreason
  rcases List.mem_cons.1 hother with rfl | hother
  · exact .inl rfl
  · have hrest := (List.pairwise_append.1 (List.pairwise_append.1 horder).2.1).2.1
    exact .inr ((List.pairwise_cons.1 hrest).1 other hother)

/-- What is collected from a walk. -/
structure Gathers (walk : Walk) (outcome : Except SourceFailure (List Path)) : Prop where
  /-- There are files if and only if nothing is wrong anywhere on the walk. -/
  ok_iff : (∃ files, outcome = .ok files) ↔ ∀ trail, walk.IsOn trail → walk.IsSound trail
  /-- The files are those of the trails that resolve to one, in the order of the walk. -/
  files : ∀ files, outcome = .ok files → ∃ trails : List Trail,
    trails.Pairwise Trail.Precedes ∧
      (∀ trail, trail ∈ trails ↔ walk.IsOn trail ∧ walk.IsFile trail) ∧
      files = trails.map walk.path
  /-- No file is given twice. -/
  nodup : walk.HasPlainNames → ∀ files, outcome = .ok files → files.Nodup
  /-- A failure is that of the first trail where something is wrong. -/
  failure : ∀ failure, outcome = .error failure → ∃ trail,
    walk.IsOn trail ∧ walk.item? trail = some (.error failure) ∧
      ∀ other, walk.IsOn other → ¬ walk.IsSound other →
        other = trail ∨ Trail.Precedes trail other

lemma gathers_items (walk : Walk) :
    walk.Gathers ((Sources.items walk.fs walk.current walk.root).mapM id) := by
  obtain ⟨trails, horder, htrails, hitems⟩ := walk.lists_items
  have hon (trail : Trail) : trail ∈ trails ↔ walk.IsOn trail := by
    simp [htrails trail]
  rw [hitems]
  -- Each of the two outcomes settles both directions of `ok_iff`, so they are read first.
  have hfiles {files : List Path} (h : (trails.filterMap walk.item?).mapM id = .ok files) :
      (∀ trail, walk.IsOn trail → walk.IsSound trail) ∧ ∃ kept : List Trail,
        kept.Pairwise Trail.Precedes ∧
          (∀ trail, trail ∈ kept ↔ walk.IsOn trail ∧ walk.IsFile trail) ∧
          files = kept.map walk.path := by
    have hall := mapM_id_eq_ok_iff.1 h
    have hsound (trail : Trail) (htrail : trail ∈ trails) (failure : SourceFailure) :
        walk.item? trail ≠ some (.error failure) := by
      intro hitem
      have hmem : .error failure ∈ trails.filterMap walk.item? :=
        List.mem_filterMap.2 ⟨trail, htrail, hitem⟩
      simp [hall] at hmem
    refine ⟨fun trail htrail => htrail.isSound_iff.2 (hsound trail ((hon trail).2 htrail)), ?_⟩
    simpa only [hon] using exists_files horder hsound hall
  have hfailure {failure : SourceFailure}
      (h : (trails.filterMap walk.item?).mapM id = .error failure) :
      ∃ trail, walk.IsOn trail ∧ walk.item? trail = some (.error failure) ∧
        ∀ other, walk.IsOn other → ¬ walk.IsSound other →
          other = trail ∨ Trail.Precedes trail other := by
    obtain ⟨before, after, hsplit⟩ := mapM_id_eq_error_iff.1 h
    obtain ⟨trail, htrail, hitem, hfirst⟩ := exists_first_failure horder hsplit
    refine ⟨trail, (hon trail).1 htrail, hitem, fun other hother hflawed => ?_⟩
    rw [hother.isSound_iff, not_forall] at hflawed
    obtain ⟨reason, hreason⟩ := hflawed
    exact hfirst other ((hon other).2 hother) reason (not_not.1 hreason)
  constructor
  case ok_iff =>
    constructor
    · rintro ⟨files, h⟩
      exact (hfiles h).1
    · intro hsound
      cases h : (trails.filterMap walk.item?).mapM id with
      | ok files => exact ⟨files, rfl⟩
      | error failure =>
        obtain ⟨trail, htrail, hitem, _⟩ := hfailure h
        exact absurd hitem (htrail.isSound_iff.1 (hsound trail htrail) failure)
  case files => exact fun files h => (hfiles h).2
  case nodup =>
    intro hplain files h
    obtain ⟨_, kept, horder, hkept, rfl⟩ := hfiles h
    refine horder.nodup.map_on fun trail htrail other hother hpath => ?_
    exact eq_of_path_eq (hplain.isPlain ((hkept trail).1 htrail).1)
      (hplain.isPlain ((hkept other).1 hother).1) hpath
  case failure => exact fun failure h => hfailure h

/-- The items of a walk are the same, however directories list their entries. -/
lemma items_withFiles (walk : Walk) (h : walk.fs.Reordered other) :
    Sources.items other walk.current walk.root =
      Sources.items walk.fs walk.current walk.root := by
  obtain ⟨trails, horder, htrails, hitems⟩ := walk.lists_items
  obtain ⟨trails', horder', htrails', hitems'⟩ := (walk.withFiles other).lists_items
  have hmem (trail : Trail) : trail ∈ trails' ↔ trail ∈ trails := by
    rw [htrails, htrails', isOn_withFiles h]
  have hsame : trails' = trails := horder'.eq_of_mem_iff horder hmem
  calc
    Sources.items other walk.current walk.root = trails'.filterMap (walk.withFiles other).item? :=
      hitems'
    _ = trails.filterMap walk.item? := by
      rw [hsame]
      exact List.filterMap_congr fun trail _ => item?_withFiles h trail
    _ = Sources.items walk.fs walk.current walk.root := hitems.symm

end Walk

/-- **What is collected.**  Files are collected if and only if all trails of the walk are sound, and
then they are those of the trails that resolve to one, each once and in the order of the walk.
Otherwise the failure is that of the first trail that is not sound.  The order in which directories
list their entries makes no difference. -/
theorem Sources.collect_gathers (fs : FileSystem) (current : Place) (root : Path) :
    Walk.Gathers ⟨fs, current, root⟩ (Sources.collect fs current root) ∧
      ∀ other : FileSystem, fs.Reordered other →
        Sources.collect other current root = Sources.collect fs current root := by
  refine ⟨Walk.gathers_items _, fun other h => ?_⟩
  have hitems : Sources.items other current root = Sources.items fs current root :=
    Walk.items_withFiles ⟨fs, current, root⟩ h
  rw [collect, collect, hitems]

end StagedRun
