import Mathlib.Tactic.Lemma
import StagedRun.Proofs.FileSystem.Growth

/-!
# The order of entries

A directory lists its entries in an order of the system's own.  `fs.Reordered other` says that two
file systems differ in nothing else: they hold the same entries in some order, and refuse the same.
Looking something up takes no notice of the order, so a path leads to the same place in both of them
or fails for the same reason (`Reordered.resolve_eq`).
-/

namespace StagedRun

namespace FileSystem

variable {fs other : FileSystem} {current here : Place}

/-- The same entries, listed in another order, and the same refusals. -/
structure Reordered (fs other : FileSystem) : Prop where
  entries : fs.entries.Perm other.entries
  refusal : fs.refusal = other.refusal

namespace Reordered

lemma get?_eq (h : fs.Reordered other) (place : Place) : fs.get? place = other.get? place := by
  by_cases hplace : place = []
  · rw [hplace, get?_nil, get?_nil]
  · apply Option.ext
    intro entry
    rw [get?_eq_some_iff _ hplace, get?_eq_some_iff _ hplace]
    exact h.entries.mem_iff

lemma checkDirectory_eq (h : fs.Reordered other) (place : Place) :
    fs.checkDirectory place = other.checkDirectory place := by
  rw [checkDirectory, checkDirectory, h.get?_eq]

lemma checkEnter_eq (h : fs.Reordered other) (place : Place) :
    fs.checkEnter place = other.checkEnter place := by
  rw [checkEnter, checkEnter, h.checkDirectory_eq, permit, permit, h.refusal]

lemma lookUp_eq (h : fs.Reordered other) (here : Place) (name : Name) :
    fs.lookUp here name = other.lookUp here name := by
  rw [lookUp, lookUp, h.checkEnter_eq, h.get?_eq]

/-- A path leads to the same place, or fails for the same reason. -/
theorem resolve_eq (h : fs.Reordered other) (follow : Bool) (links : Nat) (here : Place)
    (steps : List Path.Step) :
    fs.resolve follow links here steps = other.resolve follow links here steps := by
  induction links, here, steps using FileSystem.resolve.induct with
  | case1 links here => rw [resolve, resolve]
  | case2 links here rest ih => rw [resolve, resolve, h.checkDirectory_eq, ih]
  | case3 links here rest ih => rw [resolve, resolve, h.checkEnter_eq, ih]
  | case4 links here rest ih => rw [resolve, resolve, h.checkEnter_eq, ih]
  | case5 links here name rest ihlink ih =>
    have hpass : fs.pass follow links here name rest = other.pass follow links here name rest := by
      funext entry
      cases entry with
      | directory | file _ | other => exact ih
      | link target =>
        cases links with
        | zero => rfl
        | succ fewer => simp only [pass, jump, ihlink]
    rw [resolve_name, resolve_name, h.lookUp_eq, hpass]

lemma locate_eq (h : fs.Reordered other) (follow : Bool) (current : Place) (path : Path) :
    fs.locate follow current path = other.locate follow current path := by
  rw [locate, locate, h.resolve_eq]

end Reordered

end FileSystem

end StagedRun
