import Mathlib.Data.List.DropRight
import StagedRun.Proofs.Path.Steps

/-!
# The components of paths

The components of a path are what is left of its text when separators and dots that mean nothing are
taken away.  The two operations on paths keep to them, however the path is written:

* joining a segment that names something adds one component (`Path.components_join`);
* the parent of a path has all components but the last (`Path.components_of_parent?`), and only a
  path of one component or none can lack a parent (`Path.components_of_parent?_eq_none`).

Both hold because a path that is cut at a separator, or put together there, keeps its anchor and the
names on both sides (`Path.anchor_append_separator`, `Path.names_append_separator`).
-/

namespace StagedRun

namespace Path

/-! ## Cutting -/

lemma separator_not_mem_of_mem_split {bytes segment : ByteString} (h : segment ∈ split bytes) :
    separator ∉ segment := by
  induction bytes generalizing segment with
  | nil =>
    rw [split, List.mem_singleton] at h
    simp [h]
  | cons b rest ih =>
    by_cases hb : b = separator
    · rw [split, if_pos hb] at h
      rcases List.mem_cons.1 h with rfl | h
      · simp
      · exact ih h
    · obtain ⟨first, more, hsplit⟩ := List.exists_cons_of_ne_nil (split_ne_nil rest)
      simp only [split, hb, if_false, hsplit] at h ih
      rcases List.mem_cons.1 h with rfl | h
      · have hfirst : separator ∉ first := ih List.mem_cons_self
        simp [Ne.symm hb, hfirst]
      · exact ih (List.mem_cons_of_mem first h)

lemma separator_not_mem_of_mem_segments {path : Path} {segment : ByteString}
    (h : segment ∈ path.segments) : separator ∉ segment :=
  separator_not_mem_of_mem_split h

/-- Segments that are put together are found again by cutting. -/
lemma split_unsplit {segments : List ByteString} (hne : segments ≠ [])
    (h : ∀ segment ∈ segments, separator ∉ segment) : split (unsplit segments) = segments := by
  induction segments with
  | nil => exact absurd rfl hne
  | cons segment more ih =>
    obtain ⟨hsegment, hmore⟩ := List.forall_mem_cons.1 h
    cases more with
    | nil => exact split_of_not_mem hsegment
    | cons next rest =>
      rw [unsplit, split_append_separator, split_of_not_mem hsegment, ih (by simp) hmore]
      rfl

lemma unsplit_append {front back : List ByteString} (hfront : front ≠ []) (hback : back ≠ []) :
    unsplit (front ++ back) = unsplit front ++ separator :: unsplit back := by
  induction front with
  | nil => exact absurd rfl hfront
  | cons segment more ih =>
    cases more with
    | nil =>
      obtain ⟨next, rest, rfl⟩ := List.exists_cons_of_ne_nil hback
      rfl
    | cons next rest =>
      have hrest := ih (by simp)
      rw [List.cons_append] at hrest
      rw [List.cons_append, List.cons_append, unsplit, hrest, unsplit, List.append_assoc,
        List.cons_append]

/-- What is put together from more segments goes on after a separator. -/
lemma ofParts_append (anchor : Anchor) {front back : List ByteString} (hfront : front ≠ [])
    (hback : back ≠ []) :
    ofParts anchor (front ++ back) =
      ⟨(ofParts anchor front).bytes ++ separator :: unsplit back⟩ := by
  rw [ofParts, ofParts, unsplit_append hfront hback, List.append_assoc]

/-! ## Names -/

/-- The segments of a text that name something. -/
lemma names_eq (path : Path) : path.names = (split path.bytes).filter (!isBlank ·) := by
  rw [names, segments, anchor]
  rcases path.bytes with _ | ⟨b, _ | ⟨c, rest⟩⟩
  · rfl
  · by_cases hb : b = separator
    · simp [anchorOf, Anchor.bytes, split, isBlank, hb]
    · by_cases hdot : b = dot
      · subst hdot
        rfl
      · simp [anchorOf, Anchor.bytes, hb, hdot]
  · by_cases hb : b = separator
    · simp [anchorOf, Anchor.bytes, split, isBlank, hb]
    · by_cases hdot : b = dot ∧ c = separator
      · obtain ⟨rfl, rfl⟩ := hdot
        simp [anchorOf, Anchor.bytes, split, isBlank, hb]
      · simp [anchorOf, Anchor.bytes, hb, hdot]

lemma names_append_separator (front back : ByteString) :
    (⟨front ++ separator :: back⟩ : Path).names = (⟨front⟩ : Path).names ++ (⟨back⟩ : Path).names := by
  rw [names_eq, names_eq, names_eq, split_append_separator, List.filter_append]

lemma isNaming_of_mem_names {path : Path} {name : ByteString} (h : name ∈ path.names) :
    IsNaming name := by
  rw [names_eq] at h
  obtain ⟨hsplit, hblank⟩ := List.mem_filter.1 h
  exact ⟨by simpa using hblank, separator_not_mem_of_mem_split hsplit⟩

lemma IsNaming.names {name : ByteString} (h : IsNaming name) : (⟨name⟩ : Path).names = [name] := by
  rw [names_eq, split_of_not_mem h.separator_not_mem]
  simp [h.isBlank_eq_false]

lemma names_unsplit {segments : List ByteString}
    (h : ∀ segment ∈ segments, separator ∉ segment) :
    (⟨unsplit segments⟩ : Path).names = segments.filter (!isBlank ·) := by
  cases segments with
  | nil => rfl
  | cons segment more => rw [names_eq, split_unsplit (by simp) h]

/-! ## Anchors -/

lemma anchor_append_separator {front : ByteString} (h : front ≠ []) (back : ByteString) :
    anchorOf (front ++ separator :: back) = anchorOf front := by
  match front, h with
  | [b], _ => by_cases hb : b = separator <;> by_cases hdot : b = dot <;> simp [anchorOf, hb, hdot]
  | b :: c :: rest, _ => rfl

/-- A segment that names something is a path that starts with a name. -/
lemma IsNaming.anchor {name : ByteString} (h : IsNaming name) : anchorOf name = .bare := by
  obtain ⟨b, rest, rfl, hb⟩ := h.exists_cons
  cases rest with
  | nil =>
    have hdot : b ≠ dot := by simpa [isBlank] using h.isBlank_eq_false
    simp [anchorOf, hb, hdot]
  | cons c rest =>
    have hc : c ≠ separator := by
      rintro rfl
      exact h.separator_not_mem (by simp)
    simp [anchorOf, hb, hc]

/-! ## Components -/

lemma components_eq (path : Path) :
    path.components = (anchorOf path.bytes).components ++ path.names.map componentOf := rfl

/-- Cutting a path at a separator, or putting it together there, cuts its components. -/
lemma components_append_separator {front : ByteString} (h : front ≠ []) (back : ByteString) :
    (⟨front ++ separator :: back⟩ : Path).components =
      (⟨front⟩ : Path).components ++ (⟨back⟩ : Path).names.map componentOf := by
  rw [components_eq, components_eq, anchor_append_separator h, names_append_separator,
    List.map_append, List.append_assoc]

lemma IsNaming.components {name : ByteString} (h : IsNaming name) :
    (⟨name⟩ : Path).components = [componentOf name] := by
  rw [components_eq, h.anchor, h.names]
  rfl

lemma componentOf_ne_root (segment : ByteString) : componentOf segment ≠ .root := by
  unfold componentOf
  split <;> simp

lemma components_root : root.components = [.root] := rfl

lemma components_ne_nil_of_not_mem {bytes : ByteString} (hne : bytes ≠ []) (h : separator ∉ bytes) :
    (⟨bytes⟩ : Path).components ≠ [] := by
  by_cases hblank : isBlank bytes = false
  · have hnaming : IsNaming bytes := ⟨hblank, h⟩
    rw [hnaming.components]
    simp
  · have hdot : bytes = [dot] := by simpa [isBlank, hne] using hblank
    rw [hdot]
    decide

/-- Only the empty path has no components. -/
lemma components_eq_nil_iff {path : Path} : path.components = [] ↔ path.isEmpty = true := by
  constructor
  · intro hnone
    by_cases hmem : separator ∈ path.bytes
    · obtain ⟨front, back, hbytes, hfront⟩ := List.eq_append_cons_of_mem hmem
      have hpath : path = ⟨front ++ separator :: back⟩ := congrArg Path.mk hbytes
      rw [hpath] at hnone
      by_cases hstart : front = []
      · rw [hstart, components_eq] at hnone
        cases back <;> simp [anchorOf, Anchor.components] at hnone
      · rw [components_append_separator hstart] at hnone
        exact absurd (List.append_eq_nil_iff.1 hnone).1 (components_ne_nil_of_not_mem hstart hfront)
    · by_cases hbytes : path.bytes = []
      · exact List.isEmpty_iff.2 hbytes
      · exact absurd hnone (components_ne_nil_of_not_mem hbytes hmem)
  · intro hempty
    have hpath : path = ⟨[]⟩ := congrArg Path.mk (List.isEmpty_iff.1 hempty)
    rw [hpath]
    rfl

/-! ## Joining -/

/-- A segment that is joined to a path comes after a separator, unless the path is empty. -/
lemma join_cases (path : Path) {name : ByteString} (h : IsNaming name) :
    path.bytes = [] ∧ path.join ⟨name⟩ = ⟨name⟩ ∨
      path.bytes ≠ [] ∧ path.endsInSeparator = false ∧
        path.join ⟨name⟩ = ⟨path.bytes ++ separator :: name⟩ ∨
      ∃ front, path.bytes = front ++ [separator] ∧
        path.join ⟨name⟩ = ⟨front ++ separator :: name⟩ := by
  have hjoin : path.join ⟨name⟩ = ⟨_⟩ := congrArg Path.mk (path.join_bytes h)
  by_cases hempty : path.isEmpty = true
  · rw [if_pos hempty] at hjoin
    exact .inl ⟨List.isEmpty_iff.1 hempty, hjoin⟩
  rw [if_neg hempty] at hjoin
  by_cases hend : path.endsInSeparator = true
  · obtain ⟨front, hfront⟩ := endsInSeparator_iff.1 hend
    exact .inr (.inr ⟨front, hfront, by simpa [hend, hfront] using hjoin⟩)
  · have hne : path.bytes ≠ [] := fun hbytes => hempty (List.isEmpty_iff.2 hbytes)
    exact .inr (.inl ⟨hne, by simpa using hend, by simpa [hend] using hjoin⟩)

/-- A segment that is joined to a path is one more name. -/
lemma names_join (path : Path) {name : ByteString} (h : IsNaming name) :
    (path.join ⟨name⟩).names = path.names ++ [name] := by
  rw [path.names_eq]
  rcases path.join_cases h with ⟨hbytes, hjoin⟩ | ⟨_, _, hjoin⟩ | ⟨front, hbytes, hjoin⟩
  · rw [hjoin, h.names, hbytes]
    rfl
  · rw [hjoin, names_append_separator, h.names, names_eq]
  · rw [hjoin, names_append_separator, h.names, names_eq, hbytes, split_append_separator,
      List.filter_append]
    simp [split, isBlank]

/-- A path that a segment is joined to keeps its anchor. -/
lemma anchor_join (path : Path) {name : ByteString} (h : IsNaming name) :
    (path.join ⟨name⟩).anchor = path.anchor := by
  rw [anchor, anchor]
  rcases path.join_cases h with ⟨hbytes, hjoin⟩ | ⟨hne, _, hjoin⟩ | ⟨front, hbytes, hjoin⟩
  · rw [hjoin, h.anchor, hbytes]
    rfl
  · rw [hjoin, anchor_append_separator hne]
  · rw [hjoin, hbytes]
    by_cases hstart : front = []
    · rw [hstart]
      cases name <;> simp [anchorOf]
    · rw [anchor_append_separator hstart, anchor_append_separator hstart]

/-- A segment that is joined to a path is one more component. -/
theorem components_join (path : Path) {name : ByteString} (h : IsNaming name) :
    (path.join ⟨name⟩).components = path.components ++ [componentOf name] := by
  rw [components, components, anchor_join path h, names_join path h, List.map_append,
    List.append_assoc]
  rfl

/-! ## Parents -/

lemma filter_of_blank {segments : List ByteString} (h : ∀ segment ∈ segments, isBlank segment = true) :
    segments.filter (!isBlank ·) = [] := by
  rw [List.filter_eq_nil_iff]
  exact fun segment hmem => by simp [h segment hmem]

lemma trimEnd_eq_rdropWhile (segments : List ByteString) :
    trimEnd segments = segments.rdropWhile isBlank := rfl

/-- What `trimEnd` drops is blank. -/
lemma exists_eq_trimEnd_append (segments : List ByteString) :
    ∃ blanks, segments = trimEnd segments ++ blanks ∧
      ∀ segment ∈ blanks, isBlank segment = true := by
  refine ⟨segments.rtakeWhile isBlank, ?_, fun segment hmem => List.mem_rtakeWhile_imp hmem⟩
  rw [trimEnd_eq_rdropWhile, List.rdropWhile_append_rtakeWhile]

/-- What `trimEnd` keeps ends in a segment that is not blank, and so it is no empty text. -/
lemma unsplit_trimEnd_ne_nil {segments : List ByteString} (h : trimEnd segments ≠ []) :
    unsplit (trimEnd segments) ≠ [] := by
  have hlast : (trimEnd segments).getLast h ≠ [] := by
    intro hempty
    have hblank : ¬isBlank ((trimEnd segments).getLast h) = true :=
      List.rdropWhile_last_not isBlank segments h
    rw [hempty] at hblank
    exact hblank rfl
  have hlength := length_unsplit_lt_append (trimEnd segments).dropLast hlast []
  rw [List.dropLast_concat_getLast] at hlength
  exact List.ne_nil_of_length_pos (Nat.zero_lt_of_lt hlength)

/-- A parent is cut off before the last segment that names something. -/
lemma parent?_cases (path : Path) :
    (∃ above last blanks, path.segments = above ++ last :: blanks ∧ isBlank last = false ∧
        (∀ segment ∈ blanks, isBlank segment = true) ∧
        path.parent? = some (ofParts path.anchor (trimEnd above))) ∨
      path.names = [] ∧
        path.parent? = if path.anchor = .here then some ⟨[]⟩ else none := by
  rw [parent?]
  cases hdrop : path.segments.reverse.dropWhile isBlank with
  | nil =>
    refine .inr ⟨filter_of_blank fun segment hmem => ?_, ?_⟩
    · exact List.dropWhile_eq_nil_iff.1 hdrop segment (List.mem_reverse.2 hmem)
    · cases path.anchor <;> rfl
  | cons last above =>
    have hlast := List.head?_dropWhile_not isBlank path.segments.reverse
    have hsegments := congrArg List.reverse
      (List.takeWhile_append_dropWhile (p := isBlank) (l := path.segments.reverse))
    rw [hdrop] at hlast hsegments
    refine .inl ⟨above.reverse, last, path.segments.rtakeWhile isBlank, ?_, ?_, ?_, rfl⟩
    · simpa [List.rtakeWhile] using hsegments.symm
    · simpa using hlast
    · exact fun segment hmem => List.mem_rtakeWhile_imp hmem

lemma components_ofParts_nil (anchor : Anchor) :
    (ofParts anchor []).components = anchor.components := by
  cases anchor <;> rfl

/-- The parent of a path has all of its components but the last. -/
theorem components_of_parent? {path parent : Path} (h : path.parent? = some parent) :
    ∃ last, path.components = parent.components ++ [last] := by
  rcases path.parent?_cases with ⟨above, last, blanks, hsegments, hlast, hblanks, hparent⟩ |
    ⟨hnames, hparent⟩
  · obtain ⟨dropped, habove, hdropped⟩ := exists_eq_trimEnd_append above
    have hmore : (dropped ++ last :: blanks).filter (!isBlank ·) = [last] := by
      simp [filter_of_blank hdropped, filter_of_blank hblanks, hlast]
    rw [habove, List.append_assoc] at hsegments
    rw [hparent, Option.some_inj] at h
    subst h
    refine ⟨componentOf last, ?_⟩
    by_cases htrim : trimEnd above = []
    · rw [htrim, List.nil_append] at hsegments
      rw [components, names, hsegments, hmore, htrim, components_ofParts_nil]
      rfl
    · -- The text of the parent is what stands before one of the separators.
      have hpath : path = ⟨(ofParts path.anchor (trimEnd above)).bytes ++
          separator :: unsplit (dropped ++ last :: blanks)⟩ := by
        rw [← ofParts_append path.anchor htrim (by simp), ← hsegments, ofParts_anchor_segments]
      have hne : (ofParts path.anchor (trimEnd above)).bytes ≠ [] :=
        List.append_ne_nil_of_right_ne_nil _ (unsplit_trimEnd_ne_nil htrim)
      have hseparator : ∀ segment ∈ dropped ++ last :: blanks, separator ∉ segment :=
        fun segment hmem => separator_not_mem_of_mem_segments
          (hsegments ▸ List.mem_append_right _ hmem)
      rw [congrArg components hpath, components_append_separator hne, names_unsplit hseparator,
        hmore]
      rfl
  · rw [hparent] at h
    split at h
    · next hanchor =>
      obtain rfl := Option.some_inj.1 h
      exact ⟨.here, by rw [components, hanchor, hnames]; rfl⟩
    · cases h

/-- A path without a parent has at most one component. -/
theorem components_of_parent?_eq_none {path : Path} (h : path.parent? = none) :
    path.components.length ≤ 1 := by
  rcases path.parent?_cases with ⟨_, _, _, _, _, _, hparent⟩ | ⟨hnames, _⟩
  · rw [hparent] at h
    cases h
  · rw [components, hnames]
    cases path.anchor <;> simp [Anchor.components]

/-- The directory that holds what a path names has all components of the path but the last. -/
theorem components_of_enclosing? {path directory : Path} (h : path.enclosing? = some directory) :
    directory.components = path.components.dropLast ∧ directory.components ≠ [] := by
  obtain ⟨hparent, hempty⟩ := Option.filter_eq_some_iff.1 h
  obtain ⟨last, hcomponents⟩ := components_of_parent? hparent
  refine ⟨by rw [hcomponents, List.dropLast_concat], fun hnone => ?_⟩
  rw [components_eq_nil_iff.1 hnone] at hempty
  cases hempty

/-- A path tells which directory holds what it names if it has two components or more. -/
theorem enclosing?_eq_none_iff {path : Path} :
    path.enclosing? = none ↔ path.components.length ≤ 1 := by
  cases hparent : path.parent? with
  | none =>
    have henclosing : path.enclosing? = none := by rw [enclosing?, hparent]; rfl
    simp [henclosing, components_of_parent?_eq_none hparent]
  | some parent =>
    obtain ⟨last, hcomponents⟩ := components_of_parent? hparent
    have hempty : parent.components.length = 0 ↔ parent.isEmpty = true := by
      rw [List.length_eq_zero_iff, components_eq_nil_iff]
    rw [enclosing?, hparent, hcomponents, List.length_append, List.length_singleton]
    by_cases h : parent.isEmpty = true
    · simp [h, hempty.2 h]
    · have hpos : parent.components.length ≠ 0 := fun hzero => h (hempty.1 hzero)
      simp only [Option.filter_some, h, Bool.not_false, if_true, reduceCtorEq, false_iff]
      omega

end Path

end StagedRun
