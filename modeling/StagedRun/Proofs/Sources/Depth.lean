import Mathlib.Data.List.Nodup
import Mathlib.Data.List.Perm.Subperm
import Mathlib.Tactic.Lemma
import Mathlib.Tactic.Ring
import StagedRun.FileSystem.Edit
import StagedRun.Proofs.Sources.Listing

/-!
# How far a walk goes

A link can lead anywhere: to itself, to a directory that holds it, above the root of the walk, or to
another link that leads back.  `Sources.items_end` says that a walk ends all the same, and how soon.

A walk compares directories only when it follows a link.  So a directory may come twice on a trail:
a link leads above the root, and from there the walk goes down into the root again, by its name.
What bounds a trail is both ways of going on together.  A link that is followed leads to a directory
that was not on the trail, and there are only so many.  Between two links every step leads deeper
into the tree, which is only so high.  `Sources.budget` counts this down: it is the number of
directories that are not on the trail yet, each of them worth a whole way down the tree, and the rest
of the way down from the last directory.
-/

namespace StagedRun

/-! ## Trails of bounded length -/

namespace Trail

instance : Std.Irrefl Precedes :=
  ⟨fun _ => List.lt_irrefl _⟩

instance : Std.Antisymm Precedes :=
  ⟨fun _ _ h h' => absurd (List.lt_trans h h') (List.lt_irrefl _)⟩

/-- All trails of at most so many names. -/
def upTo (names : List Name) : Nat → List Trail
  | 0 => [[]]
  | depth + 1 => [] :: (upTo names depth).flatMap fun above => names.map (· :: above)

variable {names : List Name} {trail : Trail}

lemma mem_upTo {depth : Nat} (hlength : trail.length ≤ depth)
    (hnames : ∀ name ∈ trail, name ∈ names) : trail ∈ upTo names depth := by
  induction depth generalizing trail with
  | zero =>
    have hnil : trail = [] := List.length_eq_zero_iff.1 (Nat.le_zero.1 hlength)
    simp [hnil, upTo]
  | succ depth ih =>
    cases trail with
    | nil => exact List.mem_cons_self
    | cons name above =>
      obtain ⟨hname, habove⟩ := List.forall_mem_cons.1 hnames
      have hmem : above ∈ upTo names depth := ih (Nat.le_of_succ_le_succ hlength) habove
      apply List.mem_cons_of_mem
      exact List.mem_flatMap.2 ⟨above, hmem, List.mem_map.2 ⟨name, hname, rfl⟩⟩

lemma length_upTo_le (names : List Name) (depth : Nat) :
    (upTo names depth).length ≤ (names.length + 1) ^ depth := by
  induction depth with
  | zero => simp [upTo]
  | succ depth ih =>
    have hone : 1 ≤ (names.length + 1) ^ depth := Nat.one_le_pow _ _ (Nat.succ_pos _)
    calc
      (upTo names (depth + 1)).length = (upTo names depth).length * names.length + 1 := by
        simp [upTo, List.length_flatMap]
      _ ≤ (names.length + 1) ^ depth * names.length + (names.length + 1) ^ depth :=
        Nat.add_le_add (Nat.mul_le_mul_right _ ih) hone
      _ = (names.length + 1) ^ (depth + 1) := by ring

end Trail

/-! ## What is left of a way -/

namespace Sources

variable {fs : FileSystem} {way : List Visit} {here : Visit}

/-- A bound for how many more directories a walk can go into, one below the other, at the end of a
way. -/
def budget (fs : FileSystem) (way : List Visit) (here : Visit) : Nat :=
  (unseen fs (here :: way)).length * (fs.height + 1) + (fs.height - here.place.length)

/-- A directory that is not on the way takes one from those that are left. -/
lemma budget_lt (hdirectory : fs.get? here.place = some .directory)
    (hfresh : ∀ visit ∈ way, visit.place ≠ here.place) :
    budget fs way here < (unseen fs way).length * (fs.height + 1) := by
  have hfewer : (unseen fs (here :: way)).length + 1 ≤ (unseen fs way).length :=
    length_unseen_cons_lt hdirectory hfresh
  calc
    budget fs way here
      < (unseen fs (here :: way)).length * (fs.height + 1) + (fs.height + 1) := by
        rw [budget]
        omega
    _ = ((unseen fs (here :: way)).length + 1) * (fs.height + 1) := by ring
    _ ≤ (unseen fs way).length * (fs.height + 1) := Nat.mul_le_mul_right _ hfewer

/-- An entry of a directory is further down the tree, whether it was on the way before or not. -/
lemma budget_down_lt {name : Name} {entry : Entry} {path : Path}
    (hentry : fs.get? (name :: here.place) = some entry) :
    budget fs (here :: way) ⟨path, name :: here.place⟩ < budget fs way here := by
  have hunseen : (unseen fs (⟨path, name :: here.place⟩ :: here :: way)).length * (fs.height + 1) ≤
      (unseen fs (here :: way)).length * (fs.height + 1) :=
    Nat.mul_le_mul_right _ (length_unseen_cons_le fs _ _)
  have hheight := fs.length_le_height hentry
  -- The place above is less deep than the tree is high, so the subtraction does not stop at zero.
  rw [List.length_cons] at hheight
  simp only [budget, List.length_cons]
  omega

/-- The target of a link that is followed is not on the way, wherever in the tree it stands. -/
lemma budget_across_lt {next : Visit} (hdirectory : fs.get? next.place = some .directory)
    (hfresh : ∀ visit ∈ here :: way, visit.place ≠ next.place) :
    budget fs (here :: way) next < budget fs way here := by
  apply Nat.lt_of_lt_of_le (budget_lt hdirectory hfresh)
  rw [budget]
  exact Nat.le_add_right _ _

end Sources

namespace Walk

variable {walk : Walk} {name : Name} {above trail earlier : Trail} {way : List Sources.Visit}
  {here : Sources.Visit} {place : Place} {links : Nat}

/-! ## Links that lead back -/

variable (walk) in
/-- A trail ends in a link to the directory that an earlier part of the trail leads to. -/
def LeadsBackTo (trail earlier : Trail) : Prop :=
  walk.isLink trail = true ∧ earlier <:+ trail ∧ earlier ≠ trail ∧
    ∃ place, walk.leadsTo earlier place = true ∧ walk.leadsTo trail place = true

lemma leadsTo_iff :
    walk.leadsTo trail place = true ↔ ∃ links, walk.leads trail = .ok (place, links) := by
  rw [leadsTo]
  cases walk.leads trail with
  | error reason => simp
  | ok found => simp [Prod.ext_iff]

lemma ancestor?_cons (hlink : walk.isLink (name :: above) = true)
    (hleads : walk.leads (name :: above) = .ok (place, links)) :
    walk.ancestor? (name :: above) = above.tails.find? (walk.leadsTo · place) := by
  simp only [ancestor?, hleads, hlink, if_true]

/-- What the walk finds on the trail is a directory that the link leads back to. -/
lemma leadsBackTo_of_ancestor? (h : walk.ancestor? trail = some earlier) :
    walk.LeadsBackTo trail earlier := by
  cases trail with
  | nil => cases h
  | cons name above =>
    have hlink : walk.isLink (name :: above) = true := by
      by_contra hlink
      rw [ancestor?_of_not_link (Bool.eq_false_iff.2 hlink)] at h
      cases h
    cases hleads : walk.leads (name :: above) with
    | error reason => simp [ancestor?, hleads] at h
    | ok found =>
      rw [ancestor?_cons hlink hleads] at h
      have hsuffix : earlier <:+ above := (List.mem_tails _ _).1 (List.mem_of_find?_eq_some h)
      have hne : earlier ≠ name :: above := by
        rintro rfl
        exact absurd hsuffix.length_le (Nat.not_succ_le_self _)
      have hearlier : walk.leadsTo earlier found.1 = true := by
        simpa using List.find?_some h
      exact ⟨hlink, hsuffix.trans (List.suffix_cons _ _), hne, found.1, hearlier,
        leadsTo_iff.2 ⟨found.2, hleads⟩⟩

/-- A link that leads back is found to do so, if only to a nearer part of the trail. -/
lemma LeadsBackTo.exists_ancestor? (h : walk.LeadsBackTo trail earlier) :
    ∃ ancestor, walk.ancestor? trail = some ancestor := by
  obtain ⟨hlink, hsuffix, hne, place, hearlier, hleads⟩ := h
  cases trail with
  | nil => exact absurd (List.suffix_nil.1 hsuffix) hne
  | cons name above =>
    obtain ⟨links, hleads⟩ := leadsTo_iff.1 hleads
    have habove : earlier <:+ above := (List.suffix_cons_iff.1 hsuffix).resolve_left hne
    rw [ancestor?_cons hlink hleads]
    apply Option.isSome_iff_exists.1
    exact List.find?_isSome.2 ⟨earlier, (List.mem_tails _ _).2 habove, hearlier⟩

/-- Everything above the end of a trail was opened. -/
lemma IsOn.opens_of_suffix (h : walk.IsOn trail) (hsuffix : earlier <:+ trail)
    (hne : earlier ≠ trail) : walk.Opens earlier := by
  rcases h.eq_or_below hsuffix with heq | ⟨name, hbelow, _⟩
  · exact absurd heq.symm hne
  · cases hbelow with
    | entry _ hopens _ => exact hopens

lemma Opens.not_leadsBackTo (h : walk.Opens trail) : ¬ walk.LeadsBackTo trail earlier := by
  intro hback
  obtain ⟨ancestor, hancestor⟩ := hback.exists_ancestor?
  cases h.fresh.symm.trans hancestor

/-- A link that leads back has an error for its item, which names a directory that it leads back
to.  That directory can be listed, as the walk has listed it. -/
lemma LeadsBackTo.item?_eq (hback : walk.LeadsBackTo trail earlier) (hon : walk.IsOn trail) :
    ∃ ancestor, walk.LeadsBackTo trail ancestor ∧
      walk.item? trail = some (.error (.walk walk.root trail.length
        (.loop (walk.path ancestor) (walk.path trail)))) := by
  obtain ⟨ancestor, hancestor⟩ := hback.exists_ancestor?
  obtain ⟨_, hsuffix, hne, place, hearlier, hleads⟩ := hback
  obtain ⟨links, hleads⟩ := leadsTo_iff.1 hleads
  obtain ⟨fewer, hearlier⟩ := leadsTo_iff.1 hearlier
  obtain ⟨_, _, hopened, hdirectory, hreadable⟩ := (hon.opens_of_suffix hsuffix hne).leads_eq
  obtain ⟨rfl, rfl⟩ := Prod.mk.inj (Except.ok.inj (hearlier.symm.trans hopened))
  have hresolves : walk.resolves trail = .ok (some .directory) := by
    rw [resolves_eq_of_leads hon hleads, hdirectory]
  have hrefused : walk.refused trail = none := by
    rw [refused_of_leads hleads, hreadable]
  refine ⟨ancestor, leadsBackTo_of_ancestor? hancestor, ?_⟩
  simp only [item?, hresolves, hrefused, hancestor, Option.map_some]

/-! ## The depth of a trail -/

variable (walk) in
/-- No trail of a walk has more names than this. -/
def depthLimit : Nat :=
  (Sources.directories walk.fs).length * (walk.fs.height + 1)

lemma Along.leads_eq (h : walk.Along trail (here :: way)) :
    ∃ links, walk.leads trail = .ok (here.place, links) := by
  unfold Along at h
  cases trail with
  | nil => exact (List.forall₂_cons.1 h).1.2
  | cons name above => exact (List.forall₂_cons.1 h).1.2

/-- A directory that is opened through a link is not on the way. -/
lemma Opens.ne_place (h : walk.Opens (name :: above)) (hlink : walk.isLink (name :: above) = true)
    (hleads : walk.leads (name :: above) = .ok (place, links)) (halong : walk.Along above way) :
    ∀ visit ∈ way, visit.place ≠ place := by
  have hfresh := h.fresh
  rw [ancestor?_cons hlink hleads] at hfresh
  have hfind := halong.find?_eq place
  rw [hfresh, Option.map_none, eq_comm, Option.map_eq_none_iff] at hfind
  simpa using hfind

lemma get?_of_entryAt {entry : Entry} (habove : walk.leads above = .ok (place, links))
    (hentry : walk.entryAt (name :: above) = .ok (some entry)) :
    walk.fs.get? (name :: place) = some entry :=
  Except.ok.inj ((entryAt_cons habove name).symm.trans hentry)

/-- Where no link is followed, a trail leads from a directory to an entry of it. -/
lemma eq_cons_of_not_link (hlink : walk.isLink (name :: above) = false)
    (hleads : walk.leads (name :: above) = .ok (place, links)) {upper : Place} {fewer : Nat}
    (habove : walk.leads above = .ok (upper, fewer)) {entry : Entry}
    (hentry : walk.entryAt (name :: above) = .ok (some entry)) : place = name :: upper := by
  have hplain : ∀ target, entry ≠ .link target := by
    rintro target rfl
    rw [isLink, hentry] at hlink
    cases hlink
  rw [leads_cons habove] at hleads
  exact eq_of_reach (get?_of_entryAt habove hentry) hplain hleads

/-- Every directory that is opened takes something from what is left. -/
theorem IsOn.length_add_budget_lt (hon : walk.IsOn trail) (hopens : walk.Opens trail) :
    ∃ way here, walk.Along trail (here :: way) ∧
      trail.length + Sources.budget walk.fs way here < walk.depthLimit := by
  induction hon with
  | root =>
    obtain ⟨place, links, hleads, hdirectory, _⟩ := hopens.leads_eq
    have halong : walk.Along [] [⟨walk.root, place⟩] := .cons ⟨rfl, links, hleads⟩ .nil
    refine ⟨[], ⟨walk.root, place⟩, halong, ?_⟩
    have hbudget : Sources.budget walk.fs [] ⟨walk.root, place⟩ <
        (Sources.unseen walk.fs []).length * (walk.fs.height + 1) :=
      Sources.budget_lt hdirectory (by simp)
    simpa [depthLimit, Sources.unseen] using hbudget
  | @entry name above entry _ hopened hentry ih =>
    obtain ⟨way, here, halong, hless⟩ := ih hopened
    obtain ⟨fewer, habove⟩ := halong.leads_eq
    obtain ⟨place, links, hleads, hdirectory, _⟩ := hopens.leads_eq
    -- A link pays with a directory that was not on the way, any other entry with a step down.
    have hbudget : Sources.budget walk.fs (here :: way) ⟨walk.path (name :: above), place⟩ <
        Sources.budget walk.fs way here := by
      cases hlink : walk.isLink (name :: above) with
      | true => exact Sources.budget_across_lt hdirectory (hopens.ne_place hlink hleads halong)
      | false =>
        obtain rfl := eq_cons_of_not_link hlink hleads habove hentry
        exact Sources.budget_down_lt (get?_of_entryAt habove hentry)
    refine ⟨here :: way, ⟨walk.path (name :: above), place⟩,
      .cons ⟨rfl, links, hleads⟩ halong, ?_⟩
    rw [List.length_cons]
    omega

lemma IsOn.length_le (hon : walk.IsOn trail) : trail.length ≤ walk.depthLimit := by
  cases hon with
  | root => exact Nat.zero_le _
  | entry habove hopens _ =>
    obtain ⟨way, here, _, hless⟩ := habove.length_add_budget_lt hopens
    rw [List.length_cons]
    omega

/-! ## The number of trails -/

/-- The names that entries have. -/
def entryNames (fs : FileSystem) : List Name :=
  fs.entries.filterMap (·.1.head?)

/-- The names on a trail are names of entries. -/
lemma IsOn.mem_entryNames (hon : walk.IsOn trail) : ∀ name ∈ trail, name ∈ entryNames walk.fs := by
  induction hon with
  | root => simp
  | @entry name above entry _ hopens hentry ih =>
    obtain ⟨upper, links, habove, _⟩ := hopens.leads_eq
    have hmem := (walk.fs.get?_eq_some_iff (List.cons_ne_nil _ _)).1 (get?_of_entryAt habove hentry)
    exact List.forall_mem_cons.2 ⟨List.mem_filterMap.2 ⟨_, hmem, rfl⟩, ih⟩

/-- Different trails of a walk are few. -/
lemma length_le_of_isOn {trails : List Trail} (hnodup : trails.Nodup)
    (hon : ∀ trail ∈ trails, walk.IsOn trail) :
    trails.length ≤ (walk.fs.entries.length + 1) ^ walk.depthLimit := by
  have hsubset : trails ⊆ Trail.upTo (entryNames walk.fs) walk.depthLimit := fun trail htrail =>
    Trail.mem_upTo (hon trail htrail).length_le (hon trail htrail).mem_entryNames
  have hnames : (entryNames walk.fs).length ≤ walk.fs.entries.length :=
    List.length_filterMap_le _ _
  calc
    trails.length ≤ (Trail.upTo (entryNames walk.fs) walk.depthLimit).length :=
      (List.subperm_of_subset hnodup hsubset).length_le
    _ ≤ ((entryNames walk.fs).length + 1) ^ walk.depthLimit := Trail.length_upTo_le _ _
    _ ≤ (walk.fs.entries.length + 1) ^ walk.depthLimit :=
      Nat.pow_le_pow_left (Nat.succ_le_succ hnames) _

/-! ## The end of a walk -/

/-- What lets a walk end. -/
structure Ends (walk : Walk) (items : List Sources.Item) : Prop where
  /-- The trails of the walk are finitely many, and each of them gives one item or none. -/
  finite : ∃ trails : List Trail, trails.Nodup ∧ (∀ trail, trail ∈ trails ↔ walk.IsOn trail) ∧
    items = trails.filterMap walk.item?
  /-- There are only so many items. -/
  length_le : items.length ≤ (walk.fs.entries.length + 1) ^ walk.depthLimit
  /-- No trail goes further than the directories of the file system allow. -/
  depth_le : ∀ trail, walk.IsOn trail → trail.length ≤ walk.depthLimit
  /-- A directory that is entered through a link is none of those on the trail before. -/
  fresh : ∀ trail earlier, walk.Opens trail → ¬ walk.LeadsBackTo trail earlier
  /-- A link that leads back gives an error, and the walk goes no further there. -/
  back : ∀ trail earlier, walk.IsOn trail → walk.LeadsBackTo trail earlier →
    (∃ ancestor, walk.LeadsBackTo trail ancestor ∧
      walk.item? trail = some (.error (.walk walk.root trail.length
        (.loop (walk.path ancestor) (walk.path trail))))) ∧
      ∀ below, walk.IsOn below → trail <:+ below → below = trail

end Walk

/-- **A walk ends.**  Whatever links there are, a walk has finitely many trails, each with one item
or none, and the file system alone says how long they and how many the items can be.  A directory
that is entered through a link is none of those on the trail before.  A link that leads back to one
of them gives one error that names it, and nothing below the link is on the walk. -/
theorem Sources.items_end (fs : FileSystem) (current : Place) (root : Path) :
    Walk.Ends ⟨fs, current, root⟩ (Sources.items fs current root) := by
  obtain ⟨trails, horder, htrails, hitems⟩ := Walk.lists_items ⟨fs, current, root⟩
  have hon (trail : Trail) : trail ∈ trails ↔ Walk.IsOn ⟨fs, current, root⟩ trail := by
    simp [htrails trail]
  constructor
  case finite => exact ⟨trails, horder.nodup, hon, hitems⟩
  case length_le =>
    rw [hitems]
    apply Nat.le_trans (List.length_filterMap_le _ _)
    exact Walk.length_le_of_isOn horder.nodup fun trail htrail => (hon trail).1 htrail
  case depth_le => exact fun trail htrail => htrail.length_le
  case fresh => exact fun trail earlier hopens => hopens.not_leadsBackTo
  case back =>
    intro trail earlier htrail hback
    refine ⟨hback.item?_eq htrail, fun below hbelow hsuffix => ?_⟩
    by_contra hne
    exact (hbelow.opens_of_suffix hsuffix (Ne.symm hne)).not_leadsBackTo hback

/-- A link above the root.  The walk goes into the root again by its name, and stops at the link. -/
example :
    let tree : FileSystem := (FileSystem.empty.edit [] (.directory (.ofString "/r"))).edit []
      (.link (.ofString "/r/up") (.ofString "/"))
    Sources.items tree [] (.ofString "/r") =
      [.error (.walk (.ofString "/r") 3 (.loop (.ofString "/r/up") (.ofString "/r/up/r/up")))] := by
  cbv

end StagedRun
