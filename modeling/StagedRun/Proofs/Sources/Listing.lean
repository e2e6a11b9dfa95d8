import Mathlib.Data.List.Forall2
import Mathlib.Tactic.Lemma
import StagedRun.Proofs.Sources.Walk

/-!
# What a walk lists

`Sources.items_eq` tells the items of a walk: the trails of the walk, in the order of the names on
them, and of each trail its item if it has one.  So every item belongs to one trail, and what is at
other trails makes no difference to it.

The induction is along the recursion of `Sources.below`.  What it is about is `Walk.Lists`: items are
the ones of all trails of the walk that end in one of some starts.  `Walk.Arrives` holds of every
call: it ties the directories on the way, as the program keeps them, to the trail above.
-/

namespace StagedRun

open FileSystem

/-! ## The order of trails -/

namespace Trail

variable {name other : Name} {trail : Trail}

lemma precedes_below (name : Name) (more trail : Trail) :
    Precedes trail (more ++ name :: trail) := by
  have hless : trail.reverse ++ [] < trail.reverse ++ name :: more.reverse :=
    List.append_left_lt (List.nil_lt_cons _ _)
  simpa [Precedes] using hless

/-- Below different names the names decide. -/
lemma precedes_beside (h : name < other) (more more' trail : Trail) :
    Precedes (more ++ name :: trail) (more' ++ other :: trail) := by
  have hless : trail.reverse ++ name :: more.reverse < trail.reverse ++ other :: more'.reverse :=
    List.append_left_lt (List.cons_lt_cons_iff.2 (.inl h))
  simpa [Precedes] using hless

example : Precedes [Text.encode "b", Text.encode "a"] [Text.encode "a.ts"] := by
  show [Text.encode "a", Text.encode "b"] < [Text.encode "a.ts"]
  decide

end Trail

/-! ## The names in a directory -/

namespace Sources

variable {fs : FileSystem} {place : Place} {name : Name}

lemma nodup_names (fs : FileSystem) (place : Place) : (fs.names place).Nodup := by
  have hdistinct := List.pairwise_map.1 fs.distinct
  refine List.pairwise_filterMap.2 (hdistinct.imp ?_)
  rintro ⟨key, _⟩ ⟨key', _⟩ hkeys name hname name' hname' rfl
  refine hkeys ?_
  match key, key', hname, hname' with
  | first :: _, first' :: above, hname, hname' =>
    obtain ⟨rfl, hfirst⟩ := Option.ite_none_right_eq_some.1 hname
    obtain ⟨rfl, hfirst'⟩ := Option.ite_none_right_eq_some.1 hname'
    show first :: above = first' :: above
    rw [Option.some.inj hfirst, Option.some.inj hfirst']

lemma mem_sortedNames :
    name ∈ sortedNames fs place ↔ ∃ entry, fs.get? (name :: place) = some entry := by
  rw [sortedNames, List.mem_mergeSort, fs.mem_names]

/-- The names are in strict order. -/
lemma sortedNames_increasing (fs : FileSystem) (place : Place) :
    (sortedNames fs place).Pairwise (· < ·) := by
  have htrans (a b c : Name) (hab : decide (a ≤ b) = true) (hbc : decide (b ≤ c) = true) :
      decide (a ≤ c) = true :=
    decide_eq_true (List.le_trans (of_decide_eq_true hab) (of_decide_eq_true hbc))
  have htotal (a b : Name) : (decide (a ≤ b) || decide (b ≤ a)) = true := by
    simpa using List.le_total a b
  have hsorted := List.pairwise_mergeSort htrans htotal (fs.names place)
  have hnodup : (sortedNames fs place).Nodup :=
    (List.mergeSort_perm _ _).nodup_iff.2 (nodup_names fs place)
  exact (hsorted.and hnodup).imp fun h => Std.lt_of_le_of_ne (of_decide_eq_true h.1) h.2

/-! ## One name of a directory -/

/-- The items of what a link leads to. -/
def targetItems (fs : FileSystem) (root : Path) (way : List Visit) (path : Path) (place : Place)
    (links : Nat) : List Item :=
  match fs.get? place with
  | some (.file _) => [fileItem path]
  | some .directory =>
    match fs.refusal .list place with
    | some refusal => [.error (.walk root way.length (.system none refusal.error))]
    | none =>
      match way.find? (·.place = place) with
      | some ancestor => [.error (.walk root way.length (.loop ancestor.path path))]
      | none => below fs root way links ⟨path, place⟩
  | some (.link _) | some .other | none => []

/-- At the root no directory is on the way yet. -/
lemma targetItems_root (fs : FileSystem) (root : Path) (place : Place) (links : Nat) :
    targetItems fs root [] root place links =
      match fs.get? place, fs.refusal .list place with
      | some .directory, some refusal =>
        [.error (.walk root 0 (.system none refusal.error))]
      | _, _ =>
        match fs.get? place with
        | some (.file _) => [fileItem root]
        | some .directory => below fs root [] links ⟨root, place⟩
        | some (.link _) | some .other | none => [] := by
  rw [targetItems]
  cases fs.get? place with
  | none => rfl
  | some entry =>
    cases entry with
    | directory => cases fs.refusal .list place <;> rfl
    | link _ | other | file _ => rfl

/-- The items of one name in a directory, the first on the way. -/
def entryItems (fs : FileSystem) (root : Path) (way : List Visit) (links : Nat) (here : Visit)
    (name : Name) : List Item :=
  let path := here.path.join ⟨name⟩
  match fs.get? (name :: here.place) with
  | none | some .other => []
  | some (.file _) => [fileItem path]
  | some .directory =>
    match reach fs links here.place path name with
    | .error reason => [.error (.walk root (way.length + 1) (.system (some path) reason))]
    | .ok (_, links) => below fs root (here :: way) links ⟨path, name :: here.place⟩
  | some (.link _) =>
    match reach fs links here.place path name with
    | .error reason => [.error (.walk root (way.length + 1) (.system (some path) reason))]
    | .ok (place, links) => targetItems fs root (here :: way) path place links

lemma below_eq (fs : FileSystem) (root : Path) (way : List Visit) (links : Nat) (here : Visit) :
    below fs root way links here =
      match fs.refusal .list here.place with
      | some refusal =>
        [.error (.walk root way.length (.system (some here.path) refusal.error))]
      | none => (sortedNames fs here.place).flatMap (entryItems fs root way links here) := by
  rw [below]
  cases fs.refusal .list here.place with
  | some refusal => rfl
  | none =>
    refine congrArg (List.flatMap · _) (funext fun name => ?_)
    let path := here.path.join ⟨name⟩
    cases hentry : fs.get? (name :: here.place) with
    | none => simp [entryItems, hentry]
    | some entry =>
      cases hreach : reach fs links here.place path name with
      | error reason => cases entry <;> simp [entryItems, hentry, hreach, path]
      | ok found =>
        cases entry with
        | directory | file _ | other => simp [entryItems, hentry, hreach, path]
        | link target =>
          simp only [entryItems, hentry, hreach, targetItems, path]
          split
          · next htarget => simp only [htarget]
          · next htarget =>
            simp only [htarget]
            cases fs.refusal .list found.1 with
            | some refusal => rfl
            | none =>
              simp only
              split
              · next hseen =>
                simp only [hseen]
                rfl
              · next hseen => simp only [hseen]
          · next htarget => simp only [htarget]
          · next htarget => simp only [htarget]
          · next htarget => simp only [htarget]

end Sources

namespace Walk

variable {walk : Walk} {name : Name} {start trail above : Trail} {starts : List Trail}
  {items more : List Sources.Item}

/-! ## Lists of items -/

variable (walk) in
/-- The items are those of the trails of the walk that end in one of the starts, in order. -/
def Lists (starts : List Trail) (items : List Sources.Item) : Prop :=
  ∃ trails : List Trail, trails.Pairwise Trail.Precedes ∧
    (∀ trail, trail ∈ trails ↔ walk.IsOn trail ∧ ∃ start ∈ starts, start <:+ trail) ∧
    items = trails.filterMap walk.item?

lemma lists_nil : walk.Lists [] [] :=
  ⟨[], .nil, by simp, rfl⟩

/-- What is below one name comes before what is below greater names. -/
lemma Lists.cons (h : walk.Lists [name :: above] items) {names : List Name}
    (hless : ∀ other ∈ names, name < other) (hmore : walk.Lists (names.map (· :: above)) more) :
    walk.Lists ((name :: names).map (· :: above)) (items ++ more) := by
  obtain ⟨first, horder, hfirst, rfl⟩ := h
  obtain ⟨rest, horder', hrest, rfl⟩ := hmore
  refine ⟨first ++ rest, List.pairwise_append.2 ⟨horder, horder', ?_⟩, ?_, ?_⟩
  · intro trail htrail trail' htrail'
    obtain ⟨_, _, hstart, front, rfl⟩ := (hfirst trail).1 htrail
    obtain rfl := List.mem_singleton.1 hstart
    obtain ⟨_, _, hstart', front', rfl⟩ := (hrest trail').1 htrail'
    obtain ⟨other, hother, rfl⟩ := List.mem_map.1 hstart'
    exact Trail.precedes_beside (hless other hother) front front' above
  · intro trail
    rw [List.mem_append, hfirst, hrest, ← and_or_left]
    simp
  · rw [List.filterMap_append]

/-- A trail has everything above it on the walk. -/
lemma IsOn.of_append {more : Trail} (h : walk.IsOn (more ++ trail)) : walk.IsOn trail := by
  induction more with
  | nil => exact h
  | cons name more ih =>
    cases h with
    | entry habove _ _ => exact ih habove

/-- A trail of the walk is above another one, or it is the same. -/
lemma IsOn.eq_or_below {other : Trail} (h : walk.IsOn other) (hsuffix : trail <:+ other) :
    other = trail ∨ ∃ name, walk.IsOn (name :: trail) ∧ (name :: trail) <:+ other := by
  obtain ⟨front, rfl⟩ := hsuffix
  rcases List.eq_nil_or_concat front with rfl | ⟨front, name, rfl⟩
  · exact .inl rfl
  · rw [List.concat_append] at h ⊢
    exact .inr ⟨name, h.of_append, List.suffix_append _ _⟩

/-- Nothing is below a trail that the walk does not open. -/
lemma lists_of_not_opens (hon : walk.IsOn trail) (h : ¬ walk.Opens trail)
    (hitems : items = (walk.item? trail).toList) : walk.Lists [trail] items := by
  subst hitems
  refine ⟨[trail], List.pairwise_singleton _ _, ?_, ?_⟩
  · intro other
    simp only [List.mem_singleton, exists_eq_left]
    constructor
    · rintro rfl
      exact ⟨hon, List.suffix_refl _⟩
    · rintro ⟨hother, hsuffix⟩
      rcases hother.eq_or_below hsuffix with heq | ⟨name, hbelow, _⟩
      · exact heq
      · cases hbelow with
        | entry _ hopens _ => exact absurd hopens h
  · cases hitem : walk.item? trail <;> simp [hitem]

/-- A directory that the walk opens has no item. -/
lemma Opens.item?_eq_none (h : walk.Opens trail) : walk.item? trail = none := by
  simp only [item?, h.directory, h.readable, h.fresh, Option.map_none]

/-- A trail that the walk opens comes before everything below it. -/
lemma lists_of_opens (hon : walk.IsOn trail) (h : walk.Opens trail) {place : Place} {links : Nat}
    (hleads : walk.leads trail = .ok (place, links))
    (hlists : walk.Lists ((Sources.sortedNames walk.fs place).map (· :: trail)) items) :
    walk.Lists [trail] items := by
  obtain ⟨trails, horder, htrails, rfl⟩ := hlists
  refine ⟨trail :: trails, List.pairwise_cons.2 ⟨?_, horder⟩, ?_, ?_⟩
  · intro other hother
    obtain ⟨_, _, hstart, front, rfl⟩ := (htrails other).1 hother
    obtain ⟨name, _, rfl⟩ := List.mem_map.1 hstart
    exact Trail.precedes_below name front trail
  · intro other
    simp only [List.mem_cons, htrails, List.mem_map, exists_exists_and_eq_and,
      List.not_mem_nil, or_false, exists_eq_left]
    constructor
    · rintro (rfl | ⟨hother, name, _, hsuffix⟩)
      · exact ⟨hon, List.suffix_refl _⟩
      · exact ⟨hother, (List.suffix_cons _ _).trans hsuffix⟩
    · rintro ⟨hother, hsuffix⟩
      rcases hother.eq_or_below hsuffix with heq | ⟨name, hbelow, hsuffix⟩
      · exact .inl heq
      · cases hbelow with
        | @entry _ _ entry _ _ hentry =>
          rw [entryAt_cons hleads] at hentry
          exact .inr ⟨hother, name, Sources.mem_sortedNames.2 ⟨entry, Except.ok.inj hentry⟩,
            hsuffix⟩
  · rw [List.filterMap_cons_none h.item?_eq_none]

/-! ## The way to a trail -/

variable {way visits : List Sources.Visit} {here : Sources.Visit} {place : Place} {links : Nat}

variable (walk) in
/-- The directories on the way to a trail, the nearest first, which is the one that it leads to. -/
def Along (trail : Trail) (visits : List Sources.Visit) : Prop :=
  List.Forall₂ (fun above visit => visit.path = walk.path above ∧
    ∃ links, walk.leads above = .ok (visit.place, links)) trail.tails visits

lemma Along.length_eq (h : walk.Along trail visits) : visits.length = trail.length + 1 := by
  rw [← List.Forall₂.length_eq h, List.length_tails]

lemma Along.path_eq (h : walk.Along trail (here :: way)) : here.path = walk.path trail := by
  unfold Along at h
  cases trail with
  | nil => exact (List.forall₂_cons.1 h).1.1
  | cons name above => exact (List.forall₂_cons.1 h).1.1

/-- A trail leads back to what is already on the way. -/
lemma Along.find?_eq (h : walk.Along trail visits) (place : Place) :
    (trail.tails.find? (walk.leadsTo · place)).map walk.path =
      (visits.find? (·.place = place)).map Sources.Visit.path := by
  unfold Along at h
  generalize trail.tails = trails at h ⊢
  induction h with
  | nil => rfl
  | @cons above visit trails visits hvisit _ ih =>
    obtain ⟨hpath, links, hleads⟩ := hvisit
    have hsame : walk.leadsTo above place = decide (visit.place = place) := by
      simp [leadsTo, hleads, beq_eq_decide]
    by_cases hplace : visit.place = place
    · simp [hsame, hplace, hpath]
    · simp [hsame, hplace, ih]

variable (walk) in
/-- The walk has come to a directory, and nothing but a refusal can keep it from listing it. -/
structure Arrives (trail : Trail) (way : List Sources.Visit) (links : Nat)
    (here : Sources.Visit) : Prop where
  isOn : walk.IsOn trail
  along : walk.Along trail (here :: way)
  leads : walk.leads trail = .ok (here.place, links)
  resolves : walk.resolves trail = .ok (some .directory)
  fresh : walk.ancestor? trail = none
  readable : walk.isLink trail = true → walk.refused trail = none

lemma ancestor?_of_not_link (h : walk.isLink trail = false) : walk.ancestor? trail = none := by
  cases trail with
  | nil => rfl
  | cons name above => cases hleads : walk.leads (name :: above) <;> simp [ancestor?, hleads, h]

/-- A trail that cannot be resolved has an error for its item. -/
lemma lists_of_unresolved {reason : SystemError} (hon : walk.IsOn trail)
    (h : walk.resolves trail = .error reason) :
    walk.Lists [trail]
      [.error (.walk walk.root trail.length (.system (some (walk.path trail)) reason))] := by
  refine lists_of_not_opens hon (fun hopens => ?_) ?_
  · cases h.symm.trans hopens.directory
  · simp [item?, h]

/-- A trail that resolves to a file has the file for its item, and other entries but directories
have none. -/
lemma lists_of_entry {found : Option Entry} (hon : walk.IsOn trail)
    (h : walk.resolves trail = .ok found) (hfound : found ≠ some .directory) :
    walk.Lists [trail]
      (match found with
      | some (.file _) => [Sources.fileItem (walk.path trail)]
      | some .directory | some (.link _) | some .other | none => []) := by
  refine lists_of_not_opens hon (fun hopens => ?_) ?_
  · exact hfound (Except.ok.inj (h.symm.trans hopens.directory))
  · cases found with
    | none => simp [item?, h]
    | some entry =>
      cases entry with
      | directory => exact absurd rfl hfound
      | file _ | link _ | other => simp [item?, h, Sources.fileItem]

/-- A trail that is looked up and leads nowhere cannot be resolved. -/
lemma resolves_of_leads_error {entry : Entry} {reason : SystemError}
    (hentry : walk.entryAt trail = .ok (some entry))
    (hlook : entry = .directory ∨ ∃ target, entry = .link target)
    (hleads : walk.leads trail = .error reason) : walk.resolves trail = .error reason := by
  rw [resolves_of_lookedUp hentry hlook, hleads]
  rfl

/-- What a link leads to is listed under the link. -/
lemma lists_targetItems {target : Path} (hon : walk.IsOn trail)
    (halong : walk.Along trail (⟨walk.path trail, place⟩ :: way))
    (hlink : walk.entryAt trail = .ok (some (.link target)))
    (hleads : walk.leads trail = .ok (place, links))
    (hancestor : (walk.ancestor? trail).map walk.path =
      (way.find? (·.place = place)).map Sources.Visit.path)
    (hbelow : walk.fs.get? place = some .directory → way.find? (·.place = place) = none →
      walk.Arrives trail way links ⟨walk.path trail, place⟩ →
      walk.Lists [trail] (Sources.below walk.fs walk.root way links ⟨walk.path trail, place⟩)) :
    walk.Lists [trail]
      (Sources.targetItems walk.fs walk.root way (walk.path trail) place links) := by
  have hresolves := resolves_eq_of_leads hon hleads
  have hrefused := refused_of_leads hleads
  have hisLink : walk.isLink trail = true := by
    rw [isLink, hlink]
  have hlength : way.length = trail.length := Nat.succ.inj halong.length_eq
  rw [Sources.targetItems]
  cases hplace : walk.fs.get? place with
  | none =>
    rw [hplace] at hresolves
    exact lists_of_entry hon hresolves (by simp)
  | some entry =>
    rw [hplace] at hresolves
    cases entry with
    | link _ | other | file _ => exact lists_of_entry hon hresolves (by simp)
    | directory =>
      cases hrefusal : walk.fs.refusal .list place with
      | some refusal =>
        rw [hrefusal] at hrefused
        refine lists_of_not_opens hon (fun hopens => ?_) ?_
        · cases hrefused.symm.trans hopens.readable
        · simp [item?, hresolves, hrefused, hisLink, hlength]
      | none =>
        cases hseen : way.find? (·.place = place) with
        | some ancestor =>
          rw [hseen] at hancestor
          obtain ⟨back, hback, hpath⟩ := Option.map_eq_some_iff.1 hancestor
          refine lists_of_not_opens hon (fun hopens => ?_) ?_
          · cases hback.symm.trans hopens.fresh
          · simp [item?, hresolves, hrefused, hrefusal, hback, hpath, hlength]
        | none =>
          rw [hseen, Option.map_none, Option.map_eq_none_iff] at hancestor
          exact hbelow hplace hseen
            ⟨hon, halong, hleads, hresolves, hancestor, fun _ => hrefused.trans hrefusal⟩

/-- What a name of a directory leads to is listed under the name. -/
lemma lists_entryItems (harrives : walk.Arrives above way links here) (hopens : walk.Opens above)
    (hname : name ∈ Sources.sortedNames walk.fs here.place)
    (hdown : ∀ fewer, walk.Arrives (name :: above) (here :: way) fewer
        ⟨here.path.join ⟨name⟩, name :: here.place⟩ →
      walk.Lists [name :: above] (Sources.below walk.fs walk.root (here :: way) fewer
        ⟨here.path.join ⟨name⟩, name :: here.place⟩))
    (hacross : ∀ place fewer, walk.fs.get? place = some .directory →
      (here :: way).find? (·.place = place) = none →
      walk.Arrives (name :: above) (here :: way) fewer ⟨here.path.join ⟨name⟩, place⟩ →
      walk.Lists [name :: above] (Sources.below walk.fs walk.root (here :: way) fewer
        ⟨here.path.join ⟨name⟩, place⟩)) :
    walk.Lists [name :: above] (Sources.entryItems walk.fs walk.root way links here name) := by
  obtain ⟨entry, hthere⟩ := Sources.mem_sortedNames.1 hname
  have hentry : walk.entryAt (name :: above) = .ok (some entry) := by
    rw [entryAt_cons harrives.leads, hthere]
  have hon : walk.IsOn (name :: above) := .entry harrives.isOn hopens hentry
  have hpath : here.path.join ⟨name⟩ = walk.path (name :: above) := by
    rw [path, harrives.along.path_eq]
  have hlength : way.length + 1 = (name :: above).length := harrives.along.length_eq
  have hleads := leads_cons harrives.leads name
  rw [hpath] at hdown hacross
  simp only [Sources.entryItems, hthere, hpath]
  cases entry with
  | file _ | other =>
    exact lists_of_entry hon (resolves_of_listed hentry (by simp) (by simp)) (by simp)
  | directory =>
    cases hreach : Sources.reach walk.fs links here.place (walk.path (name :: above)) name with
    | error reason =>
      simp only [hlength]
      exact lists_of_unresolved hon
        (resolves_of_leads_error hentry (.inl rfl) (hleads.trans hreach))
    | ok found =>
      have hplace : found.1 = name :: here.place := eq_of_reach hthere (by simp) hreach
      have hfound : walk.leads (name :: above) = .ok (name :: here.place, found.2) := by
        rw [hleads, hreach, ← hplace]
      have hisLink : walk.isLink (name :: above) = false := by
        rw [isLink, hentry]
      refine hdown found.2 ⟨hon, .cons ⟨rfl, found.2, hfound⟩ harrives.along, hfound, ?_,
        ancestor?_of_not_link hisLink, fun hlink => ?_⟩
      · rw [resolves_eq_of_leads hon hfound, hthere]
      · rw [hisLink] at hlink
        cases hlink
  | link target =>
    cases hreach : Sources.reach walk.fs links here.place (walk.path (name :: above)) name with
    | error reason =>
      simp only [hlength]
      exact lists_of_unresolved hon
        (resolves_of_leads_error hentry (.inr ⟨target, rfl⟩) (hleads.trans hreach))
    | ok found =>
      have hfound := hleads.trans hreach
      have hisLink : walk.isLink (name :: above) = true := by
        rw [isLink, hentry]
      refine lists_targetItems hon (.cons ⟨rfl, found.2, hfound⟩ harrives.along) hentry hfound ?_
        (hacross _ _)
      rw [← harrives.along.find?_eq]
      simp only [ancestor?, hfound, hisLink, if_true]

/-! ## The whole walk -/

/-- The names of a directory are listed one after the other. -/
lemma lists_flatMap {names : List Name} {itemsOf : Name → List Sources.Item}
    (hsorted : names.Pairwise (· < ·))
    (h : ∀ name ∈ names, walk.Lists [name :: above] (itemsOf name)) :
    walk.Lists (names.map (· :: above)) (names.flatMap itemsOf) := by
  induction names with
  | nil => exact lists_nil
  | cons name names ih =>
    obtain ⟨hless, hsorted⟩ := List.pairwise_cons.1 hsorted
    obtain ⟨hname, hnames⟩ := List.forall_mem_cons.1 h
    exact hname.cons hless (ih hsorted hnames)

/-- What `Sources.below` lists are the items of the trail that it was called for, and of those
below it. -/
theorem lists_below (h : walk.Arrives trail way links here) :
    walk.Lists [trail] (Sources.below walk.fs walk.root way links here) := by
  induction way, links, here using Sources.below.induct walk.fs walk.root generalizing trail with
  | case1 way links here refusal hrefusal =>
    have hrefused : walk.refused trail = some refusal := by
      rw [refused_of_leads h.leads, hrefusal]
    have hisLink : walk.isLink trail = false := by
      refine Bool.eq_false_iff.2 fun hlink => ?_
      cases hrefused.symm.trans (h.readable hlink)
    have hlength : way.length = trail.length := Nat.succ.inj h.along.length_eq
    rw [Sources.below_eq, hrefusal]
    refine lists_of_not_opens h.isOn (fun hopens => ?_) ?_
    · cases hrefused.symm.trans hopens.readable
    · simp [item?, h.resolves, hrefused, hisLink, h.along.path_eq, hlength]
  | case2 way links here hrefusal ihdown ihacross =>
    have hrefused : walk.refused trail = none := by
      rw [refused_of_leads h.leads, hrefusal]
    have hopens : walk.Opens trail := ⟨h.resolves, hrefused, h.fresh⟩
    rw [Sources.below_eq, hrefusal]
    refine lists_of_opens h.isOn hopens h.leads ?_
    refine lists_flatMap (Sources.sortedNames_increasing _ _) fun name hname => ?_
    -- `ihdown` is for an entry that is a directory, `ihacross` for one that a link leads to.
    refine lists_entryItems h hopens hname (fun fewer harrives => ?_)
      fun place fewer hplace hseen harrives => ihacross name place fewer hplace hseen harrives
    have hdirectory := (resolves_eq_of_leads harrives.isOn harrives.leads).symm.trans
      harrives.resolves
    exact ihdown name (Except.ok.inj hdirectory) fewer harrives

variable (walk) in
/-- The whole walk is what is listed from the root. -/
theorem lists_items : walk.Lists [[]] (Sources.items walk.fs walk.current walk.root) := by
  have halong {found : Place × Nat} (hleads : walk.leads [] = .ok found) :
      walk.Along [] [⟨walk.root, found.1⟩] := .cons ⟨rfl, found.2, hleads⟩ .nil
  rw [Sources.items]
  cases hlocate : walk.fs.locate false walk.current walk.root with
  | error reason =>
    have hresolves : walk.resolves [] = .error reason := by
      rw [resolves, entryAt, hlocate]
      rfl
    exact lists_of_unresolved .root hresolves
  | ok found =>
    have hentry : walk.entryAt [] = .ok (walk.fs.get? found.1) := by
      rw [entryAt, hlocate]
      rfl
    cases hthere : walk.fs.get? found.1 with
    | none =>
      have hresolves : walk.resolves [] = .ok none := by
        rw [resolves, hentry, hthere]
        rfl
      simp only [hthere]
      exact lists_of_entry .root hresolves (by simp)
    | some entry =>
      rw [hthere] at hentry
      cases entry with
      | file _ | other =>
        simp only [hthere]
        exact lists_of_entry .root (resolves_of_listed hentry (by simp) (by simp)) (by simp)
      | directory =>
        have hleads : walk.leads [] = .ok found := by
          rcases walk.leads_root_cases with hsame | ⟨found', target, hfound, hlink⟩
          · rw [← hsame, hlocate]
          · obtain rfl := Except.ok.inj (hlocate.symm.trans hfound)
            cases hthere.symm.trans hlink
        have hresolves : walk.resolves [] = .ok (some .directory) := by
          rw [resolves_eq_of_leads .root hleads, hthere]
        have hisLink : ¬ walk.isLink [] = true := by
          simp [isLink, hentry]
        simp only [hthere]
        exact lists_below ⟨.root, halong hleads, hleads, hresolves, rfl,
          fun hlink => absurd hlink hisLink⟩
      | link target =>
        have hleads : walk.leads [] = walk.fs.locate true walk.current walk.root :=
          leads_eq_locate (by simp)
        cases hfollow : walk.fs.locate true walk.current walk.root with
        | error reason =>
          simp only [hthere]
          exact lists_of_unresolved .root
            (resolves_of_leads_error hentry (.inr ⟨target, rfl⟩) (hleads.trans hfollow))
        | ok reached =>
          rw [hfollow] at hleads
          have htarget := lists_targetItems .root (halong hleads) hentry hleads rfl
            fun _ _ harrives => lists_below harrives
          rw [path, Sources.targetItems_root] at htarget
          simp only [hthere]
          exact htarget

end Walk

/-- **The items of a walk.**  They are the items of its trails, in the order of the names on the
trails, where each trail has its item or none. -/
theorem Sources.items_eq (fs : FileSystem) (current : Place) (root : Path) :
    ∃ trails : List Trail, trails.Pairwise Trail.Precedes ∧
      (∀ trail, trail ∈ trails ↔ Walk.IsOn ⟨fs, current, root⟩ trail) ∧
      Sources.items fs current root = trails.filterMap (Walk.item? ⟨fs, current, root⟩) := by
  obtain ⟨trails, horder, htrails, hitems⟩ := Walk.lists_items ⟨fs, current, root⟩
  refine ⟨trails, horder, fun trail => ?_, hitems⟩
  rw [htrails]
  simp

end StagedRun
