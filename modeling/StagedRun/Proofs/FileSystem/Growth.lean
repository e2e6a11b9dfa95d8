import Mathlib.Tactic.Lemma
import StagedRun.FileSystem.Make
import StagedRun.FileSystem.Remove
import StagedRun.Proofs.CarryOut

/-!
# File systems that grow

`fs.Within more` says that everything in `fs` is in `more` too, under the same refusals.  Making
an entry leads from `fs` to a larger file system, and removing one to a smaller.  A path that leads
somewhere leads to the same place in every larger file system (`Within.resolve`): on its way it only
meets entries that are there.  So making directories keeps every directory that a path leads to, and
a removal makes no path lead to a directory that it did not lead to before.

`resolve_append` cuts a path in two: what comes after the cut is followed from where the part before
it leads.
-/

namespace StagedRun

namespace FileSystem

variable {fs more : FileSystem}

/-- Everything in `fs` is in `more` too, and the same is refused. -/
structure Within (fs more : FileSystem) : Prop where
  entries : ∀ place entry, fs.get? place = some entry → more.get? place = some entry
  refusal : fs.refusal = more.refusal

namespace Within

lemma refl (fs : FileSystem) : fs.Within fs :=
  ⟨fun _ _ h => h, rfl⟩

lemma trans {other : FileSystem} (h : fs.Within more) (h' : more.Within other) :
    fs.Within other :=
  ⟨fun place entry hentry => h'.entries place entry (h.entries place entry hentry),
    h.refusal.trans h'.refusal⟩

end Within

lemma within_insert (fs : FileSystem) (name : Name) (above : Place) (entry : Entry)
    (directory : fs.get? above = some .directory) (free : fs.get? (name :: above) = none) :
    fs.Within (fs.insert name above entry directory free) where
  entries place found h := by
    rw [get?_insert, if_neg]
    · exact h
    · rintro rfl
      rw [free] at h
      cases h
  refusal := rfl

lemma erase_within (fs : FileSystem) (place : Place) (bare : fs.names place = []) :
    (fs.erase place bare).Within fs where
  entries spot found h := by
    by_cases hspot : spot = []
    · subst hspot
      rw [get?_nil] at h ⊢
      exact h
    · rw [get?_erase fs place bare spot hspot] at h
      split at h
      · cases h
      · exact h
  refusal := rfl

/-! ## Checks -/

lemma permit_eq_ok_iff {action : Action} {place : Place} :
    fs.permit action place = .ok () ↔ fs.refusal action place = none := by
  unfold permit
  split
  · next h => simp [h]
  · next h => simp [h]

lemma checkDirectory_eq_ok_iff {place : Place} :
    fs.checkDirectory place = .ok () ↔ fs.get? place = some .directory := by
  unfold checkDirectory
  split
  · next h => simp [h]
  · next entry hentry h => simpa [h] using hentry
  · next h => simp [h]

lemma checkEnter_eq_ok_iff {place : Place} :
    fs.checkEnter place = .ok () ↔
      fs.get? place = some .directory ∧ fs.refusal .enter place = none := by
  rw [← checkDirectory_eq_ok_iff, ← permit_eq_ok_iff, checkEnter, check_bind_eq_ok_iff]

lemma Within.checkDirectory (h : fs.Within more) {place : Place}
    (hcheck : fs.checkDirectory place = .ok ()) : more.checkDirectory place = .ok () :=
  checkDirectory_eq_ok_iff.2 (h.entries _ _ (checkDirectory_eq_ok_iff.1 hcheck))

lemma Within.checkEnter (h : fs.Within more) {place : Place}
    (hcheck : fs.checkEnter place = .ok ()) : more.checkEnter place = .ok () := by
  obtain ⟨hdirectory, hrefusal⟩ := checkEnter_eq_ok_iff.1 hcheck
  rw [h.refusal] at hrefusal
  exact checkEnter_eq_ok_iff.2 ⟨h.entries _ _ hdirectory, hrefusal⟩

/-! ## Following a name -/

/-- Follows the target of a link, and then what comes after the link. -/
def jump (fs : FileSystem) (follow : Bool) (links : Nat) (here : Place) (target : Path)
    (rest : List Path.Step) : Except SystemError (Place × Nat) :=
  match links with
  | 0 => .error .tooManyLinks
  | links + 1 =>
    if target.isEmpty then .error .noEntry
    else fs.resolve follow links (linkBase target here) (target.steps ++ rest)

/-- Goes on from a name once its entry is known. -/
def pass (fs : FileSystem) (follow : Bool) (links : Nat) (here : Place) (name : Name)
    (rest : List Path.Step) : Entry → Except SystemError (Place × Nat)
  | .link target =>
    if rest.isEmpty && !follow then .ok (name :: here, links)
    else fs.jump follow links here target rest
  | .directory | .file _ | .other => fs.resolve follow links (name :: here) rest

/-- Looks a name up in a directory. -/
def lookUp (fs : FileSystem) (here : Place) (name : Name) : Except SystemError Entry := do
  fs.checkEnter here
  if maxName < name.length then .error .nameTooLong
  match fs.get? (name :: here) with
  | some entry => return entry
  | none => .error .noEntry

lemma resolve_name (fs : FileSystem) (follow : Bool) (links : Nat) (here : Place) (name : Name)
    (rest : List Path.Step) :
    fs.resolve follow links here (.name name :: rest) =
      fs.lookUp here name >>= fs.pass follow links here name rest := by
  rw [resolve, lookUp]
  cases fs.checkEnter here with
  | error reason => rfl
  | ok _ =>
    by_cases hlength : maxName < name.length
    · simp [hlength, bind, Except.bind]
    · simp only [hlength, if_false]
      cases fs.get? (name :: here) with
      | none => rfl
      | some entry => cases entry <;> rfl

lemma lookUp_eq_ok_iff {here : Place} {name : Name} {entry : Entry} :
    fs.lookUp here name = .ok entry ↔
      fs.checkEnter here = .ok () ∧ name.length ≤ maxName ∧
        fs.get? (name :: here) = some entry := by
  rw [lookUp, check_bind_eq_ok_iff, and_congr_right_iff]
  intro _
  by_cases hlength : maxName < name.length
  · simp [hlength, bind, Except.bind, Nat.not_le.2 hlength]
  · cases hentry : fs.get? (name :: here) with
    | none => simp [hlength]
    | some found => simp [hlength, pure, Except.pure, Nat.not_lt.1 hlength]

lemma jump_eq_ok_iff {follow : Bool} {links : Nat} {here : Place} {target : Path}
    {rest : List Path.Step} {found : Place × Nat} :
    fs.jump follow links here target rest = .ok found ↔
      ∃ fewer, links = fewer + 1 ∧ target.isEmpty = false ∧
        fs.resolve follow fewer (linkBase target here) (target.steps ++ rest) = .ok found := by
  cases links with
  | zero => simp [jump]
  | succ links =>
    by_cases htarget : target.isEmpty
    · simp [jump, htarget]
    · simp [jump, htarget]

/-! ## Following steps in a larger file system -/

lemma Within.lookUp (h : fs.Within more) {here : Place} {name : Name} {entry : Entry}
    (hentry : fs.lookUp here name = .ok entry) : more.lookUp here name = .ok entry := by
  obtain ⟨hcheck, hlength, hthere⟩ := lookUp_eq_ok_iff.1 hentry
  exact lookUp_eq_ok_iff.2 ⟨h.checkEnter hcheck, hlength, h.entries _ _ hthere⟩

/-- A path leads to the same place in every larger file system. -/
theorem Within.resolve (h : fs.Within more) {follow : Bool} {links : Nat} {here : Place}
    {steps : List Path.Step} {found : Place × Nat}
    (hfound : fs.resolve follow links here steps = .ok found) :
    more.resolve follow links here steps = .ok found := by
  induction links, here, steps using FileSystem.resolve.induct with
  | case1 links here =>
    rw [FileSystem.resolve] at hfound ⊢
    exact hfound
  | case2 links here rest ih =>
    rw [FileSystem.resolve] at hfound ⊢
    obtain ⟨hcheck, hrest⟩ := check_bind_eq_ok_iff.1 hfound
    exact check_bind_eq_ok_iff.2 ⟨h.checkDirectory hcheck, ih hrest⟩
  | case3 links here rest ih =>
    rw [FileSystem.resolve] at hfound ⊢
    obtain ⟨hcheck, hrest⟩ := check_bind_eq_ok_iff.1 hfound
    exact check_bind_eq_ok_iff.2 ⟨h.checkEnter hcheck, ih hrest⟩
  | case4 links here rest ih =>
    rw [FileSystem.resolve] at hfound ⊢
    obtain ⟨hcheck, hrest⟩ := check_bind_eq_ok_iff.1 hfound
    exact check_bind_eq_ok_iff.2 ⟨h.checkEnter hcheck, ih hrest⟩
  | case5 links here name rest ihlink ih =>
    rw [resolve_name] at hfound ⊢
    obtain ⟨entry, hentry, hpass⟩ := bind_eq_ok_iff.1 hfound
    refine bind_eq_ok_iff.2 ⟨entry, h.lookUp hentry, ?_⟩
    cases entry with
    | directory => exact ih hpass
    | file contents => exact ih hpass
    | other => exact ih hpass
    | link target =>
      by_cases hlast : rest.isEmpty && !follow
      · simp only [pass, if_pos hlast] at hpass ⊢
        exact hpass
      · simp only [pass, if_neg hlast] at hpass ⊢
        obtain ⟨fewer, rfl, htarget, hjump⟩ := jump_eq_ok_iff.1 hpass
        exact jump_eq_ok_iff.2 ⟨fewer, rfl, htarget, ihlink target hjump⟩

/-! ## Cutting steps in two -/

/-- Steps in a row: the later ones start where the earlier ones lead.  A link at the end of the
earlier ones is followed in any case, because something comes after it. -/
theorem resolve_append (fs : FileSystem) (follow : Bool) (links : Nat) (here : Place)
    (steps : List Path.Step) {rest : List Path.Step} (hrest : rest ≠ []) :
    fs.resolve follow links here (steps ++ rest) =
      fs.resolve true links here steps >>= fun found =>
        fs.resolve follow found.2 found.1 rest := by
  induction links, here, steps using FileSystem.resolve.induct with
  | case1 links here =>
    rw [resolve.eq_def fs true]
    rfl
  | case2 links here steps ih =>
    rw [List.cons_append, resolve, resolve, bind_assoc, ih]
  | case3 links here steps ih =>
    rw [List.cons_append, resolve, resolve, bind_assoc, ih]
  | case4 links here steps ih =>
    rw [List.cons_append, resolve, resolve, bind_assoc, ih]
  | case5 links here name steps ihlink ih =>
    rw [List.cons_append, resolve_name, resolve_name, bind_assoc]
    congr 1
    funext entry
    cases entry with
    | directory => exact ih
    | file contents => exact ih
    | other => exact ih
    | link target =>
      have hmore : (steps ++ rest).isEmpty = false := by simp [hrest]
      simp only [pass, hmore, Bool.false_and, Bool.not_true, Bool.and_false, jump]
      cases links with
      | zero => rfl
      | succ links =>
        by_cases htarget : target.isEmpty
        · simp only [htarget]
          rfl
        · simp only [htarget, ← List.append_assoc]
          exact ihlink target

/-- Steps that end in a name: the name is looked up where the steps before it lead. -/
lemma resolve_append_name_eq_ok_iff {follow : Bool} {links : Nat} {here : Place}
    {steps : List Path.Step} {name : Name} {found : Place × Nat} :
    fs.resolve follow links here (steps ++ [.name name]) = .ok found ↔
      ∃ above fewer entry, fs.resolve true links here steps = .ok (above, fewer) ∧
        fs.lookUp above name = .ok entry ∧
        fs.pass follow fewer above name [] entry = .ok found := by
  rw [resolve_append _ _ _ _ _ (List.cons_ne_nil _ _), bind_eq_ok_iff, Prod.exists]
  simp only [resolve_name, bind_eq_ok_iff, exists_and_left]

/-- A name at the end that is not followed leads to what stands under it. -/
lemma pass_last (fs : FileSystem) (links : Nat) (here : Place) (name : Name) (entry : Entry) :
    fs.pass false links here name [] entry = .ok (name :: here, links) := by
  cases entry with
  | directory => rw [pass, resolve]
  | file contents => rw [pass, resolve]
  | link target => rfl
  | other => rw [pass, resolve]

/-! ## Paths -/

variable {current : Place} {path : Path}

lemma locate_eq_ok_iff {follow : Bool} {found : Place × Nat} :
    fs.locate follow current path = .ok found ↔
      checkPath path = .ok () ∧
        fs.resolve follow maxLinks (start path current) path.steps = .ok found := by
  rw [locate, check_bind_eq_ok_iff]

lemma Within.locate (h : fs.Within more) {follow : Bool} {found : Place × Nat}
    (hfound : fs.locate follow current path = .ok found) :
    more.locate follow current path = .ok found := by
  obtain ⟨hcheck, hresolve⟩ := locate_eq_ok_iff.1 hfound
  exact locate_eq_ok_iff.2 ⟨hcheck, h.resolve hresolve⟩

/-- What a path leads to a directory in, it leads to a directory in when there is more. -/
theorem Within.isDirectory (h : fs.Within more) (hdirectory : fs.isDirectory current path = true) :
    more.isDirectory current path = true := by
  obtain ⟨place, links, hlocate, hplace⟩ := (fs.isDirectory_iff current path).1 hdirectory
  exact (more.isDirectory_iff current path).2
    ⟨place, links, h.locate hlocate, h.entries _ _ hplace⟩

lemma Within.isDirectory_eq_false (h : fs.Within more)
    (hdirectory : more.isDirectory current path = false) :
    fs.isDirectory current path = false := by
  by_cases hless : fs.isDirectory current path = true
  · rw [h.isDirectory hless] at hdirectory
    cases hdirectory
  · exact Bool.eq_false_iff.2 hless

end FileSystem

end StagedRun
