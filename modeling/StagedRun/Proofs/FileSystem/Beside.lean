import StagedRun.Proofs.FileSystem.Making
import StagedRun.Proofs.Path.Steps

/-!
# Making a directory beside another one

Making a directory can leave directories above it behind, also when it fails.  It cannot beside a
directory that is there (`makeDirectories_beside`).  The two paths share all steps but the last, so
these steps lead into a directory in which names can be looked up.  What can go wrong there is never
that something is missing, and only that makes the directories above be made.  So the file system
stays as it is, or it gets the one entry more.  A directory that is there itself is left alone
(`makeDirectories_of_isDirectory`).
-/

namespace StagedRun

namespace Path

variable {path : Path} {name known : Name}

/-- A path with another name is as good a path, if the name is no longer. -/
lemma checkPath_join (hname : IsPlain name) (hknown : IsPlain known) (hzero : 0 ∉ name)
    (hlength : name.length ≤ known.length)
    (h : FileSystem.checkPath (path.join ⟨known⟩) = .ok ()) :
    FileSystem.checkPath (path.join ⟨name⟩) = .ok () := by
  have hclean : 0 ∉ (path.join ⟨known⟩).bytes ∧
      ¬FileSystem.maxPath < (path.join ⟨known⟩).bytes.length := by
    unfold FileSystem.checkPath at h
    split at h
    · cases h
    · next hcontains =>
      split at h
      · cases h
      · next hshort => exact ⟨by simpa using hcontains, hshort⟩
  obtain ⟨hzero', hshort⟩ := hclean
  have hother : 0 ∉ (path.join ⟨name⟩).bytes ∧
      (path.join ⟨name⟩).bytes.length ≤ (path.join ⟨known⟩).bytes.length := by
    rw [join_bytes path hknown.isNaming] at hzero' ⊢
    rw [join_bytes path hname.isNaming]
    split
    · exact ⟨hzero, hlength⟩
    · split
      · simp_all
      · simp_all
  have hfits : ¬FileSystem.maxPath < (path.join ⟨name⟩).bytes.length := by omega
  rw [FileSystem.checkPath, if_neg (by simpa using hother.1), if_neg hfits,
    path.isEmpty_join hname.isNaming]
  rfl

end Path

namespace FileSystem

variable {fs made : FileSystem} {current above : Place} {root path : Path} {name known : Name}

/-- Names that are joined to a path are looked up in the directory at `above`. -/
def LeadsInto (fs : FileSystem) (current : Place) (path : Path) (above : Place) : Prop :=
  ∃ links, fs.resolve true maxLinks (start path current) path.stepsInto = .ok (above, links)

/-- The entry that a path names stands at `place`.  A link at the end of the path names itself. -/
def Names (fs : FileSystem) (current : Place) (path : Path) (place : Place) : Prop :=
  ∃ links, fs.locate false current path = .ok (place, links)

lemma LeadsInto.unique {other : Place} (h : fs.LeadsInto current path above)
    (h' : fs.LeadsInto current path other) : other = above := by
  obtain ⟨links, h⟩ := h
  obtain ⟨links', h'⟩ := h'
  rw [h] at h'
  exact (Prod.mk.inj (Except.ok.inj h')).1.symm

lemma start_join (root : Path) (hname : Path.IsPlain name) (current : Place) :
    start (root.join ⟨name⟩) current = start root current := by
  rw [start, start, Path.isAbsolute_join root hname.isNaming]

lemma LeadsInto.within (hwithin : fs.Within made) (h : fs.LeadsInto current path above) :
    made.LeadsInto current path above := by
  obtain ⟨links, h⟩ := h
  exact ⟨links, hwithin.resolve h⟩

/-- A joined name that leads somewhere leads into the directory that the path leads into. -/
lemma leadsInto_of_locate {follow : Bool} {found : Place × Nat} (hname : Path.IsPlain name)
    (h : fs.locate follow current (root.join ⟨name⟩) = .ok found) :
    checkPath (root.join ⟨name⟩) = .ok () ∧ ∃ above fewer entry,
      fs.LeadsInto current root above ∧ fs.lookUp above name = .ok entry ∧
      fs.pass follow fewer above name [] entry = .ok found := by
  rw [locate_eq_ok_iff, root.steps_join hname, resolve_append_name_eq_ok_iff,
    start_join root hname] at h
  obtain ⟨hcheck, above, fewer, entry, habove, hentry, hpass⟩ := h
  exact ⟨hcheck, above, fewer, entry, ⟨fewer, habove⟩, hentry, hpass⟩

/-- A joined name names an entry of that directory. -/
lemma Names.eq {place : Place} (hname : Path.IsPlain name)
    (h : fs.Names current (root.join ⟨name⟩) place) (habove : fs.LeadsInto current root above) :
    place = name :: above := by
  obtain ⟨links, hlocate⟩ := h
  obtain ⟨_, other, fewer, entry, hother, _, hpass⟩ := leadsInto_of_locate hname hlocate
  rw [pass_last] at hpass
  rw [← habove.unique hother]
  exact (Prod.mk.inj (Except.ok.inj hpass)).1.symm

lemma names_of_isDirectory (hname : Path.IsPlain name)
    (h : fs.isDirectory current (root.join ⟨name⟩) = true)
    (habove : fs.LeadsInto current root above) :
    fs.Names current (root.join ⟨name⟩) (name :: above) := by
  obtain ⟨place, links, hlocate, _⟩ := (fs.isDirectory_iff current _).1 h
  obtain ⟨hcheck, other, _, entry, hother, hentry, _⟩ := leadsInto_of_locate hname hlocate
  obtain rfl := habove.unique hother
  obtain ⟨fewer, hresolve⟩ := habove
  refine ⟨fewer, ?_⟩
  rw [locate_eq_ok_iff, root.steps_join hname, resolve_append_name_eq_ok_iff,
    start_join root hname]
  exact ⟨hcheck, _, fewer, entry, hresolve, hentry, pass_last fs fewer _ name entry⟩

/-! ## Directories on a path without links -/

lemma leadsInto_root (fs : FileSystem) (current : Place) :
    fs.LeadsInto current (.ofString "/") [] := by
  have hcheck : fs.checkDirectory [] = .ok () := checkDirectory_eq_ok_iff.2 fs.get?_nil
  refine ⟨maxLinks, ?_⟩
  show fs.resolve true maxLinks [] [.directory] = .ok ([], maxLinks)
  rw [resolve, hcheck]
  show fs.resolve true maxLinks [] [] = .ok ([], maxLinks)
  rw [resolve]

/-- Names that are joined to a directory in a directory are looked up in that one. -/
lemma LeadsInto.join (hname : Path.IsPlain name) (hlength : name.length ≤ maxName)
    (habove : fs.LeadsInto current root above) (henter : fs.refusal .enter above = none)
    (hentry : fs.get? (name :: above) = some .directory) :
    fs.LeadsInto current (root.join ⟨name⟩) (name :: above) := by
  obtain ⟨links, hresolve⟩ := habove
  have hfound : fs.lookUp above name = .ok .directory :=
    lookUp_eq_ok_iff.2 ⟨checkEnter_eq_ok_iff.2 ⟨fs.get?_above hentry, henter⟩, hlength, hentry⟩
  refine ⟨links, ?_⟩
  rw [start_join root hname, root.stepsInto_join hname, resolve_append_name_eq_ok_iff]
  exact ⟨above, links, .directory, hresolve, hfound, by rw [pass, resolve]⟩

/-- A path leads to a directory if names that are joined to it are looked up in one. -/
lemma LeadsInto.isDirectory (hname : Path.IsPlain name)
    (hcheck : checkPath (root.join ⟨name⟩) = .ok ())
    (h : fs.LeadsInto current (root.join ⟨name⟩) above) (hthere : fs.get? above = some .directory) :
    fs.isDirectory current (root.join ⟨name⟩) = true := by
  obtain ⟨links, hresolve⟩ := h
  have hsteps : (root.join ⟨name⟩).steps = (root.join ⟨name⟩).stepsInto := by
    rw [root.steps_join hname, root.stepsInto_join hname]
  refine (fs.isDirectory_iff current _).2 ⟨above, links, locate_eq_ok_iff.2 ⟨hcheck, ?_⟩, hthere⟩
  rw [hsteps, hresolve]

/-! ## Making -/

lemma kind_error_ne_notFound (refusal : Refusal) : refusal.error.kind ≠ .notFound := by
  cases refusal <;> decide

/-- In a directory in which names can be looked up, an entry is made, or something else than a
missing entry is in the way. -/
lemma makeEntry_cases (entry : Entry) (henter : fs.checkEnter above = .ok ())
    (hlength : name.length ≤ maxName) :
    (∃ directory free, fs.makeEntry name above entry = .ok (fs.insert name above entry directory free)) ∨
      ∃ reason, fs.makeEntry name above entry = .error reason ∧ reason.kind ≠ .notFound := by
  have hdirectory : fs.get? above = some .directory := (checkEnter_eq_ok_iff.1 henter).1
  rw [makeEntry, henter, if_neg (Nat.not_lt.2 hlength)]
  simp only [bind, Except.bind]
  split
  · next found hfound => exact .inr ⟨.entryExists, rfl, by decide⟩
  · next free =>
    cases hpermit : fs.refusal .make (name :: above) with
    | some refusal =>
      refine .inr ⟨refusal.error, ?_, kind_error_ne_notFound refusal⟩
      simp [permit, hpermit]
    | none =>
      refine .inl ⟨hdirectory, free, ?_⟩
      simp [permit, hpermit, hdirectory]

lemma makeDirectory_join (hname : Path.IsPlain name)
    (hcheck : checkPath (root.join ⟨name⟩) = .ok ()) (habove : fs.LeadsInto current root above) :
    fs.makeDirectory current (root.join ⟨name⟩) = fs.makeEntry name above .directory := by
  obtain ⟨links, habove⟩ := habove
  rw [makeDirectory, makeAt, hcheck, root.trimSeparators_join hname.isNaming, root.steps_join hname,
    start_join root hname]
  simp only [List.dropLast_concat, List.getLast?_concat, habove]
  rfl

lemma makeDirectories_of_made (hname : Path.IsPlain name)
    (hmake : fs.makeDirectory current (root.join ⟨name⟩) = .ok made) :
    fs.makeDirectories current (root.join ⟨name⟩) = (made, .ok ()) := by
  obtain ⟨others, hancestors⟩ := exists_ancestors_eq (root.join ⟨name⟩)
  rw [makeDirectories, hancestors, makeChain, if_neg (by simp [root.isEmpty_join hname.isNaming]),
    hmake]

/-- The directories above are not made unless one of them is missing. -/
lemma makeDirectories_of_error {reason : SystemError} (hname : Path.IsPlain name)
    (hmake : fs.makeDirectory current (root.join ⟨name⟩) = .error reason)
    (hkind : reason.kind ≠ .notFound) :
    fs.makeDirectories current (root.join ⟨name⟩) =
      (fs, if fs.isDirectory current (root.join ⟨name⟩) then .ok () else .error reason) := by
  obtain ⟨others, hancestors⟩ := exists_ancestors_eq (root.join ⟨name⟩)
  rw [makeDirectories, hancestors, makeChain, if_neg (by simp [root.isEmpty_join hname.isNaming]),
    hmake]
  simp only [if_neg hkind]

/-- **Making a directory beside one that is there.**  The file system stays as it is, or it gets
that directory and nothing else. -/
theorem makeDirectories_beside (hname : Path.IsPlain name) (hknown : Path.IsPlain known)
    (hzero : 0 ∉ name) (hshort : name.length ≤ maxName) (hlength : name.length ≤ known.length)
    (hthere : fs.isDirectory current (root.join ⟨known⟩) = true) :
    (fs.makeDirectories current (root.join ⟨name⟩)).1 = fs ∨
      ∃ above directory free, fs.LeadsInto current root above ∧
        fs.makeDirectories current (root.join ⟨name⟩) =
          (fs.insert name above .directory directory free, .ok ()) := by
  obtain ⟨place, links, hlocate, _⟩ := (fs.isDirectory_iff current _).1 hthere
  obtain ⟨hcheck, above, _, _, habove, hentry, _⟩ := leadsInto_of_locate hknown hlocate
  have henter : fs.checkEnter above = .ok () := (lookUp_eq_ok_iff.1 hentry).1
  have hmake : fs.makeDirectory current (root.join ⟨name⟩) = fs.makeEntry name above .directory :=
    makeDirectory_join hname (Path.checkPath_join hname hknown hzero hlength hcheck) habove
  rcases makeEntry_cases .directory henter hshort with ⟨directory, free, hmade⟩ | ⟨reason, hmade, hkind⟩
  · exact .inr ⟨above, directory, free, habove, makeDirectories_of_made hname (hmake.trans hmade)⟩
  · rw [makeDirectories_of_error hname (hmake.trans hmade) hkind]
    exact .inl rfl

/-- A directory that is there already is not made, and this is no error. -/
theorem makeDirectories_of_isDirectory (hname : Path.IsPlain name)
    (hthere : fs.isDirectory current (root.join ⟨name⟩) = true) :
    fs.makeDirectories current (root.join ⟨name⟩) = (fs, .ok ()) := by
  obtain ⟨place, links, hlocate, _⟩ := (fs.isDirectory_iff current _).1 hthere
  obtain ⟨hcheck, above, _, entry, habove, hlookup, _⟩ := leadsInto_of_locate hname hlocate
  obtain ⟨henter, hlength, hentry⟩ := lookUp_eq_ok_iff.1 hlookup
  have hmake : fs.makeDirectory current (root.join ⟨name⟩) = .error .entryExists := by
    rw [makeDirectory_join hname hcheck habove, makeEntry, henter, if_neg (Nat.not_lt.2 hlength)]
    simp only [bind, Except.bind]
    split
    · rfl
    · next free =>
      rw [hentry] at free
      cases free
  rw [makeDirectories_of_error hname hmake (by decide), if_pos hthere]

end FileSystem

end StagedRun
