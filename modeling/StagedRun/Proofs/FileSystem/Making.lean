import StagedRun.Proofs.FileSystem.Growth

/-!
# What making directories leaves

Making a directory and the directories above it adds entries and takes none away, also when it stops
at a directory that cannot be made (`makeDirectories_within`).  When it succeeds, the path leads to a
directory (`isDirectory_makeDirectories`): either the directory was made, or one was found where the
path leads, possibly through links.
-/

namespace StagedRun.FileSystem

variable {fs made : FileSystem} {current : Place} {path : Path}

/-! ## Making one entry -/

lemma makeEntry_eq_ok {name : Name} {above : Place} {entry : Entry}
    (h : fs.makeEntry name above entry = .ok made) :
    fs.Within made ∧ made.lookUp above name = .ok entry := by
  rw [makeEntry, check_bind_eq_ok_iff] at h
  obtain ⟨henter, h⟩ := h
  by_cases hlength : maxName < name.length
  · simp [hlength, bind, Except.bind] at h
  simp only [hlength, if_false] at h
  split at h
  · cases h
  · next free =>
    obtain ⟨_, h⟩ := check_bind_eq_ok_iff.1 h
    by_cases hdirectory : fs.get? above = some .directory
    · rw [dif_pos hdirectory] at h
      obtain rfl := Except.ok.inj h
      have hwithin := fs.within_insert name above entry hdirectory free
      refine ⟨hwithin, lookUp_eq_ok_iff.2 ⟨hwithin.checkEnter henter, Nat.not_lt.1 hlength, ?_⟩⟩
      rw [get?_insert, if_pos rfl]
    · rw [dif_neg hdirectory] at h
      cases h

lemma makeAt_eq_ok {entry : Entry} (h : fs.makeAt current path entry = .ok made) :
    checkPath path = .ok () ∧ ∃ above links name,
      fs.resolve true maxLinks (start path current) (trimSeparators path).steps.dropLast =
        .ok (above, links) ∧
      (trimSeparators path).steps.getLast? = some (.name name) ∧
      fs.makeEntry name above entry = .ok made := by
  rw [makeAt, check_bind_eq_ok_iff, bind_eq_ok_iff] at h
  obtain ⟨hcheck, ⟨above, links⟩, hresolve, hmake⟩ := h
  refine ⟨hcheck, above, links, ?_⟩
  simp only at hmake
  split at hmake
  · next name hlast => exact ⟨name, hresolve, hlast, hmake⟩
  · cases hmake

lemma makeDirectory_within (h : fs.makeDirectory current path = .ok made) : fs.Within made := by
  obtain ⟨_, _, _, _, _, _, hmake⟩ := makeAt_eq_ok h
  exact (makeEntry_eq_ok hmake).1

lemma isDirectory_makeDirectory (htrim : trimSeparators path = path)
    (h : fs.makeDirectory current path = .ok made) : made.isDirectory current path = true := by
  obtain ⟨hcheck, above, links, name, hresolve, hlast, hmake⟩ := makeAt_eq_ok h
  rw [htrim] at hresolve hlast
  obtain ⟨hwithin, hthere⟩ := makeEntry_eq_ok hmake
  obtain ⟨_, _, hdirectory⟩ := lookUp_eq_ok_iff.1 hthere
  have hsteps : path.steps = path.steps.dropLast ++ [.name name] := by
    obtain ⟨front, hfront⟩ := List.getLast?_eq_some_iff.1 hlast
    rw [hfront, List.dropLast_concat]
  refine (made.isDirectory_iff current path).2 ⟨name :: above, links, ?_, hdirectory⟩
  rw [locate_eq_ok_iff, hsteps, resolve_append_name_eq_ok_iff]
  exact ⟨hcheck, above, links, .directory, hwithin.resolve hresolve, hthere, by rw [pass, resolve]⟩

/-! ## Making the directories above -/

lemma isDirectory_of_accepted {reason : SystemError}
    (h : (fs, if fs.isDirectory current path then Except.ok () else .error reason) =
      (made, .ok ())) :
    made.isDirectory current path = true := by
  obtain ⟨rfl, houtcome⟩ := Prod.mk.inj h
  by_cases hthere : fs.isDirectory current path = true
  · exact hthere
  · rw [if_neg hthere] at houtcome
    cases houtcome

lemma ensureDirectory_within (fs : FileSystem) (current : Place) (path : Path) :
    fs.Within (fs.ensureDirectory current path).1 := by
  unfold ensureDirectory
  split
  · next made hmake => exact makeDirectory_within hmake
  · exact Within.refl fs

lemma isDirectory_ensureDirectory (htrim : trimSeparators path = path)
    (h : fs.ensureDirectory current path = (made, .ok ())) :
    made.isDirectory current path = true := by
  unfold ensureDirectory at h
  split at h
  · next found hmake =>
    obtain ⟨rfl, _⟩ := Prod.mk.inj h
    exact isDirectory_makeDirectory htrim hmake
  · exact isDirectory_of_accepted h

lemma makeChain_within (fs : FileSystem) (current : Place) (paths : List Path) :
    fs.Within (fs.makeChain current paths).1 := by
  induction paths with
  | nil => exact Within.refl fs
  | cons path above ih =>
    rw [makeChain]
    split
    · exact Within.refl fs
    split
    · next made hmake => exact makeDirectory_within hmake
    split
    · split
      · next made hchain =>
        rw [hchain] at ih
        exact ih.trans (made.ensureDirectory_within current path)
      · next made reason hchain =>
        rw [hchain] at ih
        exact ih
    · exact Within.refl fs

/-- Making directories takes nothing away, whether it succeeds or not. -/
theorem makeDirectories_within (fs : FileSystem) (current : Place) (path : Path) :
    fs.Within (fs.makeDirectories current path).1 :=
  fs.makeChain_within current path.ancestors

lemma isDirectory_makeChain {above : List Path} (hpath : path.isEmpty = false)
    (htrim : trimSeparators path = path)
    (h : fs.makeChain current (path :: above) = (made, .ok ())) :
    made.isDirectory current path = true := by
  rw [makeChain, if_neg (by simp [hpath])] at h
  split at h
  · next found hmake =>
    obtain ⟨rfl, _⟩ := Prod.mk.inj h
    exact isDirectory_makeDirectory htrim hmake
  · next reason hmake =>
    split at h
    · split at h
      · next found hchain => exact isDirectory_ensureDirectory htrim h
      · cases h
    · exact isDirectory_of_accepted h

lemma exists_ancestors_eq (path : Path) : ∃ above, path.ancestors = path :: above := by
  rw [Path.ancestors]
  split
  · exact ⟨[], rfl⟩
  · exact ⟨_, rfl⟩

/-- A path leads to a directory once its directories have been made. -/
theorem isDirectory_makeDirectories (hpath : path.isEmpty = false)
    (htrim : trimSeparators path = path)
    (h : fs.makeDirectories current path = (made, .ok ())) :
    made.isDirectory current path = true := by
  obtain ⟨above, habove⟩ := exists_ancestors_eq path
  rw [makeDirectories, habove] at h
  exact isDirectory_makeChain hpath htrim h

end StagedRun.FileSystem
