import Mathlib.Data.List.Infix
import Mathlib.Tactic.Lemma
import StagedRun.Proofs.FileSystem.Beside
import StagedRun.Sources

/-!
# The paths of a walk

A walk is the unfolding of a file system from a root along its links.  A `Trail` is a place in this
unfolding: the names from an entry up to the root, each of them in the directory that the rest of
the trail leads to.  This module tells what a walk has to list, one trail at a time and without the
order in which it goes:

* `Walk.IsOn`: the root is on the walk, and so is every entry of a directory that the walk opens;
* `Walk.Opens`: the walk opens what resolves to a directory that can be listed, unless a link leads
  back to a directory on the trail itself;
* `Walk.item?`: the item of a trail, if it has one.

## What a trail resolves to

`Walk.leads` follows the whole trail from where the path of the root starts, and it is `locate` for
the path of the trail (`Walk.leads_eq_locate`).  It is not asked about every entry.  A directory that
is listed tells of each entry whether it is a link, a directory, a regular file or something else,
and only links and directories are looked up again (`Walk.resolves`).  So a file in a directory that
can be listed but not entered is found, although its path leads nowhere.  Where a path does lead
somewhere, what it resolves to is there (`Walk.resolves_eq_of_leads`).
-/

namespace StagedRun

open FileSystem

/-- The names from an entry up to the root of a walk. -/
abbrev Trail := List Name

/-- The order of a walk: file names are compared from the root on, each by its bytes. -/
def Trail.Precedes (first second : Trail) : Prop :=
  first.reverse < second.reverse

/-- A root, the file system it is in, and the directory from which its path is seen. -/
structure Walk where
  fs : FileSystem
  current : Place
  root : Path

namespace Walk

variable (walk : Walk)

/-! ## Trails -/

/-- The path of a trail. -/
def path : Trail → Path
  | [] => walk.root
  | name :: above => (path above).join ⟨name⟩

/-- The steps of a trail. -/
def steps (trail : Trail) : List Path.Step :=
  walk.root.steps ++ trail.reverse.map .name

/-- What the whole of a trail leads to, and how many links may still be met after it. -/
def leads (trail : Trail) : Except SystemError (Place × Nat) := do
  checkPath (walk.path trail)
  walk.fs.resolve true maxLinks (start walk.root walk.current) (walk.steps trail)

/-- The entry that a trail ends in, which may be a link. -/
def entryAt : Trail → Except SystemError (Option Entry)
  | [] => do return walk.fs.get? (← walk.fs.locate false walk.current walk.root).1
  | name :: above => do return walk.fs.get? (name :: (← walk.leads above).1)

/-- What a trail resolves to.  Links and directories are looked up. -/
def resolves (trail : Trail) : Except SystemError (Option Entry) := do
  match ← walk.entryAt trail with
  | some (.link _) | some .directory => return walk.fs.get? (← walk.leads trail).1
  | entry => return entry

/-- Whether a trail ends in a link. -/
def isLink (trail : Trail) : Bool :=
  match walk.entryAt trail with
  | .ok (some (.link _)) => true
  | _ => false

/-- Why the directory that a trail leads to cannot be listed. -/
def refused (trail : Trail) : Option Refusal :=
  match walk.leads trail with
  | .ok (place, _) => walk.fs.refusal .list place
  | .error _ => none

/-- Whether a trail leads to a place. -/
def leadsTo (trail : Trail) (place : Place) : Bool :=
  match walk.leads trail with
  | .ok (found, _) => found == place
  | .error _ => false

/-- The nearest directory on a trail that the link at its end leads back to. -/
def ancestor? : Trail → Option Trail
  | [] => none
  | name :: above =>
    match walk.leads (name :: above) with
    | .ok (place, _) =>
      if walk.isLink (name :: above) then above.tails.find? (walk.leadsTo · place) else none
    | .error _ => none

/-! ## What is on a walk -/

/-- A directory that the walk goes into. -/
structure Opens (trail : Trail) : Prop where
  directory : walk.resolves trail = .ok (some .directory)
  readable : walk.refused trail = none
  fresh : walk.ancestor? trail = none

/-- The trails of a walk. -/
inductive IsOn : Trail → Prop
  | root : IsOn []
  | entry {name : Name} {above : Trail} {entry : Entry} (habove : IsOn above)
      (hopens : walk.Opens above) (hentry : walk.entryAt (name :: above) = .ok (some entry)) :
      IsOn (name :: above)

/-- The item of a trail, if it has one.  A directory that cannot be listed is not named where a link
leads to it. -/
def item? (trail : Trail) : Option Sources.Item :=
  let path := walk.path trail
  let failure (error : WalkError) : Sources.Item := .error (.walk walk.root trail.length error)
  match walk.resolves trail with
  | .error reason => some (failure (.system (some path) reason))
  | .ok (some (.file _)) => some (if path.isUtf8 then .ok path else .error (.nonUtf8 path))
  | .ok (some .directory) =>
    match walk.refused trail with
    | some refusal =>
      some (failure (.system (if walk.isLink trail then none else some path) refusal.error))
    | none =>
      (walk.ancestor? trail).map fun ancestor => failure (.loop (walk.path ancestor) path)
  | .ok (some (.link _)) | .ok (some .other) | .ok none => none

/-! ## What trails lead to -/

variable {walk} {name : Name} {above trail : Trail} {place : Place} {links : Nat}

lemma steps_cons (name : Name) (above : Trail) :
    walk.steps (name :: above) = walk.steps above ++ [.name name] := by
  simp [steps]

/-- A trail leads on from where the trail above it leads. -/
lemma leads_cons (h : walk.leads above = .ok (place, links)) (name : Name) :
    walk.leads (name :: above) =
      Sources.reach walk.fs links place (walk.path (name :: above)) name := by
  have habove : walk.fs.resolve true maxLinks (start walk.root walk.current) (walk.steps above) =
      .ok (place, links) := (check_bind_eq_ok_iff.1 h).2
  rw [leads, steps_cons, resolve_append _ _ _ _ _ (List.cons_ne_nil _ _), habove]
  rfl

/-- An entry that is no link is what its name leads to. -/
lemma eq_of_reach {path : Path} {entry : Entry} {found : Place × Nat}
    (hentry : walk.fs.get? (name :: place) = some entry) (hlink : ∀ target, entry ≠ .link target)
    (h : Sources.reach walk.fs links place path name = .ok found) : found.1 = name :: place := by
  have hresolve := (check_bind_eq_ok_iff.1 h).2
  rw [resolve_name] at hresolve
  obtain ⟨same, hsame, hpass⟩ := bind_eq_ok_iff.1 hresolve
  obtain rfl : same = entry := Option.some.inj ((lookUp_eq_ok_iff.1 hsame).2.2.symm.trans hentry)
  cases same with
  | link target => exact absurd rfl (hlink target)
  | directory | file _ | other =>
    rw [FileSystem.pass, resolve] at hpass
    exact (congrArg Prod.fst (Except.ok.inj hpass)).symm

/-- Whether the last link is followed makes a difference only where a link is at the end. -/
lemma resolve_false_cases (fs : FileSystem) (links : Nat) (here : Place)
    (steps : List Path.Step) :
    fs.resolve false links here steps = fs.resolve true links here steps ∨
      ∃ place fewer target, fs.resolve false links here steps = .ok (place, fewer) ∧
        fs.get? place = some (.link target) := by
  induction links, here, steps using FileSystem.resolve.induct with
  | case1 links here =>
    rw [resolve, resolve]
    exact .inl rfl
  | case2 links here rest ih =>
    rw [resolve, resolve]
    cases fs.checkDirectory here with
    | error reason => exact .inl rfl
    | ok _ => exact ih
  | case3 links here rest ih =>
    rw [resolve, resolve]
    cases fs.checkEnter here with
    | error reason => exact .inl rfl
    | ok _ => exact ih
  | case4 links here rest ih =>
    rw [resolve, resolve]
    cases fs.checkEnter here with
    | error reason => exact .inl rfl
    | ok _ => exact ih
  | case5 links here name rest ihlink ih =>
    rw [resolve_name, resolve_name]
    cases hlookUp : fs.lookUp here name with
    | error reason => exact .inl rfl
    | ok entry =>
      cases entry with
      | directory | file _ | other => exact ih
      | link target =>
        cases rest with
        | nil => exact .inr ⟨name :: here, links, target, rfl, (lookUp_eq_ok_iff.1 hlookUp).2.2⟩
        | cons step rest =>
          cases links with
          | zero => exact .inl rfl
          | succ fewer =>
            by_cases htarget : target.isEmpty
            · refine .inl ?_
              show fs.jump false (fewer + 1) here target (step :: rest) =
                fs.jump true (fewer + 1) here target (step :: rest)
              simp only [jump, htarget, if_true]
            · show fs.jump false (fewer + 1) here target (step :: rest) =
                  fs.jump true (fewer + 1) here target (step :: rest) ∨
                ∃ place left target', fs.jump false (fewer + 1) here target (step :: rest) =
                  .ok (place, left) ∧ fs.get? place = some (.link target')
              simp only [jump, if_neg htarget]
              exact ihlink target

/-- Before a name it makes no difference to check for a directory first. -/
lemma resolve_stepsInto (fs : FileSystem) (here : Place) (path : Path) (rest : List Path.Step) :
    fs.resolve true links here (path.stepsInto ++ .name name :: rest) =
      fs.resolve true links here (path.steps ++ .name name :: rest) := by
  rcases path.steps_cases with hsteps | hsteps
  · rw [hsteps]
  · have hcheck (place : Place) (links : Nat) :
        fs.resolve true links place (.directory :: .name name :: rest) =
          fs.resolve true links place (.name name :: rest) := by
      rw [resolve, resolve_name, lookUp, checkEnter]
      cases fs.checkDirectory place with
      | error reason => rfl
      | ok _ => rfl
    rw [hsteps, List.append_assoc, List.singleton_append,
      resolve_append _ _ _ _ _ (List.cons_ne_nil _ _),
      resolve_append _ _ _ _ _ (List.cons_ne_nil _ _)]
    exact congrArg _ (funext fun found => (hcheck found.1 found.2).symm)

/-- The steps of a trail and the steps of its path lead on alike. -/
lemma resolve_path (hplain : ∀ name ∈ trail, Path.IsPlain name) (rest : List Path.Step) :
    walk.fs.resolve true links place ((walk.path trail).stepsInto ++ .name name :: rest) =
      walk.fs.resolve true links place (walk.steps trail ++ .name name :: rest) := by
  induction trail generalizing name rest with
  | nil =>
    rw [path, steps, resolve_stepsInto]
    simp
  | cons first above ih =>
    obtain ⟨hfirst, habove⟩ := List.forall_mem_cons.1 hplain
    rw [path, Path.stepsInto_join _ hfirst, steps_cons, List.append_assoc, List.append_assoc]
    exact ih habove _

/-- A trail leads where the system finds its path, if it goes through names that paths can hold. -/
theorem leads_eq_locate (hplain : ∀ name ∈ trail, Path.IsPlain name) :
    walk.leads trail = walk.fs.locate true walk.current (walk.path trail) := by
  have hstart : start (walk.path trail) walk.current = start walk.root walk.current := by
    induction trail with
    | nil => rfl
    | cons name above ih =>
      obtain ⟨hname, habove⟩ := List.forall_mem_cons.1 hplain
      rw [path, start_join _ hname, ih habove]
  have hsteps : walk.fs.resolve true maxLinks (start walk.root walk.current) (walk.steps trail) =
      walk.fs.resolve true maxLinks (start walk.root walk.current) (walk.path trail).steps := by
    cases trail with
    | nil => simp [steps, path]
    | cons name above =>
      obtain ⟨hname, habove⟩ := List.forall_mem_cons.1 hplain
      rw [steps_cons, path, Path.steps_join _ hname, resolve_path habove]
  rw [leads, locate, hstart, hsteps]

/-! ## What trails resolve to -/

lemma entryAt_cons (h : walk.leads above = .ok (place, links)) (name : Name) :
    walk.entryAt (name :: above) = .ok (walk.fs.get? (name :: place)) := by
  rw [entryAt, h]
  rfl

lemma refused_of_leads (h : walk.leads trail = .ok (place, links)) :
    walk.refused trail = walk.fs.refusal .list place := by
  rw [refused, h]

/-- Links and directories are looked up. -/
lemma resolves_of_lookedUp {entry : Entry} (h : walk.entryAt trail = .ok (some entry))
    (hentry : entry = .directory ∨ ∃ target, entry = .link target) :
    walk.resolves trail = (walk.leads trail).map fun found => walk.fs.get? found.1 := by
  rw [resolves, h]
  rcases hentry with rfl | ⟨target, rfl⟩ <;> cases walk.leads trail <;> rfl

/-- Everything else is what the listing tells. -/
lemma resolves_of_listed {entry : Entry} (h : walk.entryAt trail = .ok (some entry))
    (hdirectory : entry ≠ .directory) (hlink : ∀ target, entry ≠ .link target) :
    walk.resolves trail = .ok (some entry) := by
  rw [resolves, h]
  cases entry with
  | directory => exact absurd rfl hdirectory
  | link target => exact absurd rfl (hlink target)
  | file contents => rfl
  | other => rfl

/-- The root leads to its entry unless that is a link. -/
lemma leads_root_cases :
    walk.fs.locate false walk.current walk.root = walk.leads [] ∨
      ∃ found target, walk.fs.locate false walk.current walk.root = .ok found ∧
        walk.fs.get? found.1 = some (.link target) := by
  have hsteps : walk.steps [] = walk.root.steps := by simp [steps]
  rw [leads, locate, path, hsteps]
  cases checkPath walk.root with
  | error reason => exact .inl rfl
  | ok _ =>
    rcases resolve_false_cases walk.fs maxLinks (start walk.root walk.current) walk.root.steps with
      hsame | ⟨place, links, target, hfound, hlink⟩
    · exact .inl hsame
    · exact .inr ⟨(place, links), target, hfound, hlink⟩

/-- A trail that the walk opens leads to a directory that can be listed. -/
lemma Opens.leads_eq (h : walk.Opens trail) :
    ∃ place links, walk.leads trail = .ok (place, links) ∧
      walk.fs.get? place = some .directory ∧ walk.fs.refusal .list place = none := by
  have hleads : (walk.leads trail).map (fun found => walk.fs.get? found.1) =
      .ok (some .directory) := by
    have hresolves := h.directory
    cases hentry : walk.entryAt trail with
    | error reason =>
      rw [resolves, hentry] at hresolves
      cases hresolves
    | ok found =>
      cases found with
      | none =>
        rw [resolves, hentry] at hresolves
        cases hresolves
      | some entry =>
        cases entry with
        | directory => rwa [resolves_of_lookedUp hentry (.inl rfl)] at hresolves
        | link target => rwa [resolves_of_lookedUp hentry (.inr ⟨target, rfl⟩)] at hresolves
        | file _ | other =>
          rw [resolves_of_listed hentry nofun nofun] at hresolves
          cases hresolves
  cases hfound : walk.leads trail with
  | error reason =>
    rw [hfound] at hleads
    cases hleads
  | ok found =>
    have hreadable := (refused_of_leads hfound).symm.trans h.readable
    rw [hfound] at hleads
    exact ⟨found.1, found.2, rfl, Except.ok.inj hleads, hreadable⟩

/-- What a trail of the walk leads to is what it resolves to. -/
theorem resolves_eq_of_leads (h : walk.IsOn trail) (hleads : walk.leads trail = .ok (place, links)) :
    walk.resolves trail = .ok (walk.fs.get? place) := by
  have hlookedUp {entry : Entry} (hentry : walk.entryAt trail = .ok (some entry))
      (hlook : entry = .directory ∨ ∃ target, entry = .link target) :
      walk.resolves trail = .ok (walk.fs.get? place) := by
    rw [resolves_of_lookedUp hentry hlook, hleads]
    rfl
  cases h with
  | root =>
    rcases walk.leads_root_cases with hsame | ⟨found, target, hfound, hlink⟩
    · have hroot : walk.entryAt [] = .ok (walk.fs.get? place) := by
        rw [entryAt, hsame, hleads]
        rfl
      rw [resolves, hroot, hleads]
      simp only [bind, Except.bind]
      split <;> rfl
    · have hroot : walk.entryAt [] = .ok (some (.link target)) := by
        rw [entryAt, hfound, ← hlink]
        rfl
      exact hlookedUp hroot (.inr ⟨target, rfl⟩)
  | @entry name above entry _ hopens hentry =>
    obtain ⟨here, fewer, habove, _⟩ := hopens.leads_eq
    have hthere : walk.fs.get? (name :: here) = some entry :=
      Except.ok.inj ((entryAt_cons habove name).symm.trans hentry)
    cases entry with
    | directory => exact hlookedUp hentry (.inl rfl)
    | link target => exact hlookedUp hentry (.inr ⟨target, rfl⟩)
    | file _ | other =>
      rw [leads_cons habove] at hleads
      have hplace : place = name :: here := eq_of_reach hthere nofun hleads
      rw [resolves_of_listed hentry nofun nofun, hplace, hthere]

end Walk

end StagedRun
