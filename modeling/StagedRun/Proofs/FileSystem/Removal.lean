import StagedRun.Proofs.FileSystem.Growth

/-!
# What a removal leaves

A removal takes entries away and adds none, also when it stops at a step that fails
(`removeTree_within`).  When it succeeds, the place that the path led to is empty.

A path through links can lead to a directory in many ways, so it is not plain that the path leads to
none after the removal.  It does not when it ends in a name (`isDirectory_removeTree`).  The steps
before the name lead where they led before the removal, if they lead anywhere, because there is not
more than before.  There the name is looked up in vain.

A removal stays below the place that it starts from, also when it fails midway
(`get?_removeTree_of_not_below`).  Its plan names places below that place only, because a plan is
made along the tree and never along a link.
-/

namespace StagedRun.FileSystem

variable {fs after : FileSystem}

/-! ## Steps of a removal -/

lemma remove_eq_ok {place : Place} (h : fs.remove place = .ok after) :
    after.Within fs ∧ after.get? place = none := by
  rw [remove, check_bind_eq_ok_iff] at h
  obtain ⟨hcheck, hremove⟩ := h
  have hplace : place ≠ [] := by
    rintro rfl
    simp [checkRemove, bind, Except.bind] at hcheck
  by_cases hbare : fs.names place = []
  · rw [dif_pos hbare] at hremove
    obtain rfl := Except.ok.inj hremove
    refine ⟨fs.erase_within place hbare, ?_⟩
    rw [get?_erase _ _ _ _ hplace, if_pos rfl]
  · rw [dif_neg hbare] at hremove
    cases hremove

lemma performStep_within {step : RemovalStep} (h : fs.performStep step = .ok after) :
    after.Within fs := by
  cases step with
  | openDirectory place =>
    rw [performStep, check_bind_eq_ok_iff, check_bind_eq_ok_iff] at h
    obtain rfl := Except.ok.inj h.2.2
    exact Within.refl fs
  | removeEntry place => exact (remove_eq_ok h).1
  | removeDirectory place => exact (remove_eq_ok h).1

lemma perform_within (fs : FileSystem) (steps : List RemovalStep) :
    (fs.perform steps).1.Within fs := by
  induction steps generalizing fs with
  | nil => exact Within.refl fs
  | cons step rest ih =>
    rw [perform]
    cases hstep : fs.performStep step with
    | error reason => exact Within.refl fs
    | ok next => exact (ih next).trans (performStep_within hstep)

lemma perform_append_ok {steps : List RemovalStep} {last : RemovalStep}
    (h : fs.perform (steps ++ [last]) = (after, .ok ())) :
    ∃ midway : FileSystem, midway.performStep last = .ok after := by
  induction steps generalizing fs with
  | nil =>
    rw [List.nil_append, perform] at h
    cases hlast : fs.performStep last with
    | error reason => simp [hlast] at h
    | ok next =>
      simp only [hlast, perform, Prod.mk.injEq, and_true] at h
      exact ⟨fs, h ▸ hlast⟩
  | cons step rest ih =>
    rw [List.cons_append, perform] at h
    cases hstep : fs.performStep step with
    | error reason => simp [hstep] at h
    | ok next =>
      simp only [hstep] at h
      exact ih h

/-- The directory itself is removed last. -/
lemma exists_removal_eq (fs : FileSystem) (depth : Nat) (place : Place) :
    ∃ steps, fs.removal depth place = steps ++ [.removeDirectory place] := by
  cases depth with
  | zero => exact ⟨[], by rw [removal, List.nil_append]⟩
  | succ depth => exact ⟨_, by rw [removal]⟩

/-! ## Removing trees -/

lemma removeAt_within (fs : FileSystem) (place : Place) : (fs.removeAt place).1.Within fs := by
  unfold removeAt
  split
  · exact fs.perform_within _
  · exact fs.perform_within _
  · exact Within.refl fs
  · exact Within.refl fs
  · exact Within.refl fs

lemma get?_removeAt {place : Place} (h : fs.removeAt place = (after, .ok ())) :
    after.get? place = none := by
  unfold removeAt at h
  split at h
  · obtain ⟨steps, hsteps⟩ := fs.exists_removal_eq (fs.height + 1) place
    rw [hsteps] at h
    obtain ⟨midway, hlast⟩ := perform_append_ok h
    exact (remove_eq_ok hlast).2
  · rw [← List.nil_append [RemovalStep.removeEntry place]] at h
    obtain ⟨midway, hlast⟩ := perform_append_ok h
    exact (remove_eq_ok hlast).2
  · cases h
  · cases h
  · cases h

variable {current : Place} {path : Path}

/-- A removal adds nothing, whether it succeeds or not. -/
theorem removeTree_within (fs : FileSystem) (current : Place) (path : Path) :
    (fs.removeTree current path).1.Within fs := by
  unfold removeTree
  split
  · exact fs.removeAt_within _
  · exact Within.refl fs

lemma within_of_removeTree {outcome : Except SystemError Unit}
    (h : fs.removeTree current path = (after, outcome)) : after.Within fs := by
  have hwithin := fs.removeTree_within current path
  rwa [h] at hwithin

lemma removeTree_eq_ok (h : fs.removeTree current path = (after, .ok ())) :
    ∃ place links, fs.locate false current path = .ok (place, links) ∧
      after.get? place = none := by
  unfold removeTree at h
  split at h
  · next place links hlocate => exact ⟨place, links, hlocate, get?_removeAt h⟩
  · cases h

/-- A path that ends in a name leads to no directory once what it names has been removed. -/
theorem isDirectory_removeTree {steps : List Path.Step} {name : Name}
    (hsteps : path.steps = steps ++ [.name name])
    (h : fs.removeTree current path = (after, .ok ())) :
    after.isDirectory current path = false := by
  have hwithin : after.Within fs := within_of_removeTree h
  obtain ⟨place, links, hlocate, hgone⟩ := removeTree_eq_ok h
  rw [locate_eq_ok_iff, hsteps, resolve_append_name_eq_ok_iff] at hlocate
  obtain ⟨_, above, fewer, entry, habove, _, hpass⟩ := hlocate
  rw [pass_last] at hpass
  obtain ⟨rfl, rfl⟩ := Prod.mk.inj (Except.ok.inj hpass)
  rw [Bool.eq_false_iff]
  intro hdirectory
  obtain ⟨_, _, hlater, _⟩ := (after.isDirectory_iff current path).1 hdirectory
  rw [locate_eq_ok_iff, hsteps, resolve_append_name_eq_ok_iff] at hlater
  obtain ⟨_, spot, others, found, hspot, hfound, _⟩ := hlater
  have hsame := (hwithin.resolve hspot).symm.trans habove
  obtain ⟨rfl, rfl⟩ := Prod.mk.inj (Except.ok.inj hsame)
  obtain ⟨_, _, hthere⟩ := lookUp_eq_ok_iff.1 hfound
  rw [hgone] at hthere
  cases hthere

/-! ## What a removal leaves alone -/

/-- The place that a step is about. -/
def RemovalStep.place : RemovalStep → Place
  | .openDirectory place | .removeEntry place | .removeDirectory place => place

lemma get?_remove_of_ne {place spot : Place} (h : fs.remove place = .ok after)
    (hspot : spot ≠ place) : after.get? spot = fs.get? spot := by
  rw [remove, check_bind_eq_ok_iff] at h
  obtain ⟨_, hremove⟩ := h
  by_cases hroot : spot = []
  · rw [hroot, get?_nil, get?_nil]
  by_cases hbare : fs.names place = []
  · rw [dif_pos hbare] at hremove
    obtain rfl := Except.ok.inj hremove
    rw [get?_erase _ _ _ _ hroot, if_neg hspot]
  · rw [dif_neg hbare] at hremove
    cases hremove

lemma get?_performStep_of_ne {step : RemovalStep} {spot : Place}
    (h : fs.performStep step = .ok after) (hspot : spot ≠ step.place) :
    after.get? spot = fs.get? spot := by
  cases step with
  | openDirectory place =>
    rw [performStep, check_bind_eq_ok_iff, check_bind_eq_ok_iff] at h
    obtain rfl := Except.ok.inj h.2.2
    rfl
  | removeEntry place => exact get?_remove_of_ne h hspot
  | removeDirectory place => exact get?_remove_of_ne h hspot

variable {place spot : Place}

/-- Steps below a place leave everything else alone. -/
lemma get?_perform_of_not_below (hspot : ¬place <:+ spot) {steps : List RemovalStep}
    (hsteps : ∀ step ∈ steps, place <:+ step.place) :
    (fs.perform steps).1.get? spot = fs.get? spot := by
  induction steps generalizing fs with
  | nil => rfl
  | cons step rest ih =>
    rw [perform]
    cases hstep : fs.performStep step with
    | error reason => rfl
    | ok next =>
      have hne : spot ≠ step.place := by
        rintro rfl
        exact hspot (hsteps step List.mem_cons_self)
      have hnext : next.get? spot = fs.get? spot := get?_performStep_of_ne hstep hne
      show (next.perform rest).1.get? spot = fs.get? spot
      rw [ih fun other hother => hsteps other (List.mem_cons_of_mem _ hother), hnext]

/-- The plan of a removal stays below the place that is to be removed. -/
lemma below_of_mem_removal {depth : Nat} {step : RemovalStep} (h : step ∈ fs.removal depth place) :
    place <:+ step.place := by
  induction depth generalizing place with
  | zero =>
    rw [removal, List.mem_singleton] at h
    rw [h]
    exact List.suffix_refl _
  | succ depth ih =>
    rw [removal, List.mem_append, List.mem_cons, List.mem_singleton] at h
    rcases h with (rfl | hinside) | rfl
    · exact List.suffix_refl _
    · obtain ⟨name, _, hstep⟩ := List.mem_flatMap.1 hinside
      have hbelow : (name :: place) <:+ step.place := by
        split at hstep
        · exact ih hstep
        · rw [List.mem_singleton.1 hstep]
          exact List.suffix_refl _
      exact (List.suffix_cons name place).trans hbelow
    · exact List.suffix_refl _

lemma get?_removeAt_of_not_below (hspot : ¬place <:+ spot) :
    (fs.removeAt place).1.get? spot = fs.get? spot := by
  unfold removeAt
  split
  · exact get?_perform_of_not_below hspot fun step hstep => below_of_mem_removal hstep
  · refine get?_perform_of_not_below hspot fun step hstep => ?_
    rw [List.mem_singleton.1 hstep]
    exact List.suffix_refl _
  · rfl
  · rfl
  · rfl

/-- A removal leaves everything alone that is not below what its path names.  A link at the end of
the path names itself, and what is below a place is reached through no link. -/
theorem get?_removeTree_of_not_below
    (h : ∀ place links, fs.locate false current path = .ok (place, links) → ¬place <:+ spot) :
    (fs.removeTree current path).1.get? spot = fs.get? spot := by
  unfold removeTree
  split
  · next place links hlocate => exact get?_removeAt_of_not_below (h place links hlocate)
  · rfl

/-- What is below a place stands in a directory there. -/
lemma get?_of_below {entry : Entry} (h : fs.get? spot = some entry) (hbelow : place <:+ spot)
    (hne : spot ≠ place) : fs.get? place = some .directory := by
  induction spot generalizing entry with
  | nil => exact absurd (List.suffix_nil.1 hbelow).symm hne
  | cons name above ih =>
    have habove : fs.get? above = some .directory := fs.get?_above h
    rcases List.suffix_cons_iff.1 hbelow with heq | hbelow
    · exact absurd heq.symm hne
    · by_cases hsame : above = place
      · rw [← hsame, habove]
      · exact ih habove hbelow hsame

end StagedRun.FileSystem
