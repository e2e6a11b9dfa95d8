import Mathlib.Tactic.Lemma
import StagedRun.FileSystem.Make
import StagedRun.Layout

/-!
# The steps of joined paths

A plain name is a name that a path can end in: it holds no separator and is neither a dot nor two
dots.  Joining a plain name to a path adds one step to the steps that lead into that path
(`Path.steps_join`), however the path is written.  So the directories of a layout are siblings:
their paths share every step but the last.

Two dots are no plain name, but they do name something.  What only concerns the text of a joined path
holds of every segment that does (`Path.IsNaming`).
-/

namespace StagedRun

namespace Path

/-- A name that a path can end in. -/
structure IsPlain (name : Name) : Prop where
  ne_nil : name ≠ []
  ne_dot : name ≠ [dot]
  ne_dots : name ≠ [dot, dot]
  separator_not_mem : separator ∉ name

instance (name : Name) : Decidable (IsPlain name) :=
  decidable_of_iff (name ≠ [] ∧ name ≠ [dot] ∧ name ≠ [dot, dot] ∧ separator ∉ name)
    ⟨fun ⟨h₁, h₂, h₃, h₄⟩ => ⟨h₁, h₂, h₃, h₄⟩, fun ⟨h₁, h₂, h₃, h₄⟩ => ⟨h₁, h₂, h₃, h₄⟩⟩

/-- A segment that names something: a plain name, or two dots. -/
structure IsNaming (segment : ByteString) : Prop where
  isBlank_eq_false : isBlank segment = false
  separator_not_mem : separator ∉ segment

lemma isBlank_eq_false_iff {segment : ByteString} :
    isBlank segment = false ↔ segment ≠ [] ∧ segment ≠ [dot] := by
  simp [isBlank]

lemma IsNaming.ne_nil {segment : ByteString} (h : IsNaming segment) : segment ≠ [] :=
  (isBlank_eq_false_iff.1 h.isBlank_eq_false).1

lemma IsPlain.isNaming {name : Name} (h : IsPlain name) : IsNaming name :=
  ⟨isBlank_eq_false_iff.2 ⟨h.ne_nil, h.ne_dot⟩, h.separator_not_mem⟩

/-- The steps that lead into what a path names, before a name that is joined to it. -/
def stepsInto (path : Path) : List Step :=
  if path.isEmpty then []
  else if path.endsInSeparator then path.steps.dropLast
  else path.steps

/-! ## Cutting -/

lemma split_append_separator (front back : ByteString) :
    split (front ++ separator :: back) = split front ++ split back := by
  induction front with
  | nil => simp [split]
  | cons b rest ih =>
    by_cases hb : b = separator
    · simp only [List.cons_append, split, hb, if_true, ih]
    · obtain ⟨segment, more, hsplit⟩ := List.exists_cons_of_ne_nil (split_ne_nil rest)
      simp only [List.cons_append, split, hb, if_false, ih, hsplit]

lemma split_of_not_mem {name : ByteString} (h : separator ∉ name) : split name = [name] := by
  induction name with
  | nil => rfl
  | cons b rest ih =>
    have hb : b ≠ separator := fun hb => h (hb ▸ List.mem_cons_self)
    have hrest : separator ∉ rest := fun hrest => h (List.mem_cons_of_mem b hrest)
    simp [split, hb, ih hrest]

lemma IsPlain.ofSegment {name : Name} (h : IsPlain name) : Step.ofSegment name = .name name := by
  rw [Step.ofSegment, if_neg h.ne_nil, if_neg h.ne_dot, if_neg h.ne_dots]

lemma IsNaming.exists_cons {name : ByteString} (h : IsNaming name) :
    ∃ first rest, name = first :: rest ∧ first ≠ separator := by
  obtain ⟨first, rest, rfl⟩ := List.exists_cons_of_ne_nil h.ne_nil
  refine ⟨first, rest, rfl, ?_⟩
  rintro rfl
  exact h.separator_not_mem List.mem_cons_self

lemma IsNaming.isAbsolute {name : ByteString} (h : IsNaming name) :
    (⟨name⟩ : Path).isAbsolute = false := by
  obtain ⟨first, rest, rfl, hfirst⟩ := h.exists_cons
  simp [Path.isAbsolute, hfirst]

lemma endsInSeparator_iff {path : Path} :
    path.endsInSeparator = true ↔ ∃ front, path.bytes = front ++ [separator] := by
  rw [endsInSeparator, beq_iff_eq, List.getLast?_eq_some_iff]

/-- A path that ends in a separator asks for a directory at its end. -/
lemma steps_of_endsInSeparator {path : Path} (h : path.endsInSeparator = true) :
    ∃ front, path.bytes = front ++ [separator] ∧
      path.steps = (split front).map Step.ofSegment ++ [.directory] := by
  obtain ⟨front, hfront⟩ := endsInSeparator_iff.1 h
  refine ⟨front, hfront, ?_⟩
  rw [steps, hfront, split_append_separator]
  simp [split, Step.ofSegment]

/-! ## Joining a name -/

/-- The text of a path with a name joined to it. -/
lemma join_bytes (path : Path) {name : ByteString} (h : IsNaming name) :
    (path.join ⟨name⟩).bytes =
      if path.isEmpty then name
      else if path.endsInSeparator then path.bytes ++ name
      else path.bytes ++ separator :: name := by
  rw [join, if_neg (by simp [h.isAbsolute])]
  by_cases hempty : path.isEmpty = true
  · have hbytes : path.bytes = [] := List.isEmpty_iff.1 hempty
    simp [hempty, hbytes]
  · by_cases hend : path.endsInSeparator = true <;> simp [hempty, hend]

/-- A plain name that is joined to a path is one more step. -/
theorem steps_join (path : Path) {name : Name} (h : IsPlain name) :
    (path.join ⟨name⟩).steps = path.stepsInto ++ [.name name] := by
  rw [steps, join_bytes path h.isNaming, stepsInto]
  by_cases hempty : path.isEmpty = true
  · rw [if_pos hempty, if_pos hempty, split_of_not_mem h.separator_not_mem]
    simp [h.ofSegment]
  rw [if_neg hempty, if_neg hempty]
  by_cases hend : path.endsInSeparator = true
  · obtain ⟨front, hfront, hsteps⟩ := steps_of_endsInSeparator hend
    rw [if_pos hend, if_pos hend, hsteps, List.dropLast_concat, hfront, List.append_assoc,
      List.singleton_append, split_append_separator, split_of_not_mem h.separator_not_mem]
    simp [h.ofSegment]
  · rw [if_neg hend, if_neg hend, split_append_separator, split_of_not_mem h.separator_not_mem,
      steps]
    simp [h.ofSegment]

lemma join_ne_nil (path : Path) {name : ByteString} (h : IsNaming name) :
    (path.join ⟨name⟩).bytes ≠ [] := by
  rw [join_bytes path h]
  split
  · exact h.ne_nil
  · split <;> simp [h.ne_nil]

lemma isEmpty_join (path : Path) {name : ByteString} (h : IsNaming name) :
    (path.join ⟨name⟩).isEmpty = false :=
  List.isEmpty_eq_false_iff.2 (path.join_ne_nil h)

/-- A path that a name is joined to does not end in a separator. -/
lemma exists_join_bytes_eq (path : Path) {name : ByteString} (h : IsNaming name) :
    ∃ front last, (path.join ⟨name⟩).bytes = front ++ [last] ∧ last ≠ separator := by
  obtain ⟨init, last, hname⟩ := name.eq_nil_or_concat.resolve_left h.ne_nil
  rw [List.concat_eq_append] at hname
  have hlast : last ≠ separator := by
    rintro rfl
    exact h.separator_not_mem (hname ▸ List.mem_concat_self)
  rw [join_bytes path h, hname]
  split
  · exact ⟨init, last, by simp, hlast⟩
  · split
    · exact ⟨path.bytes ++ init, last, by simp, hlast⟩
    · exact ⟨path.bytes ++ separator :: init, last, by simp, hlast⟩

lemma endsInSeparator_join (path : Path) {name : ByteString} (h : IsNaming name) :
    (path.join ⟨name⟩).endsInSeparator = false := by
  obtain ⟨front, last, hfront, hlast⟩ := path.exists_join_bytes_eq h
  simp [endsInSeparator, hfront, hlast]

lemma isAbsolute_join (path : Path) {name : ByteString} (h : IsNaming name) :
    (path.join ⟨name⟩).isAbsolute = path.isAbsolute := by
  have hname : (⟨name⟩ : Path).isAbsolute = false := h.isAbsolute
  rw [isAbsolute, join_bytes path h]
  by_cases hempty : path.isEmpty = true
  · have hbytes : path.bytes = [] := List.isEmpty_iff.1 hempty
    rw [if_pos hempty, isAbsolute, hbytes]
    exact hname
  · obtain ⟨first, rest, hbytes⟩ :=
      List.exists_cons_of_ne_nil fun hbytes => hempty (List.isEmpty_iff.2 hbytes)
    rw [if_neg hempty, isAbsolute, hbytes]
    split <;> rfl

lemma trimSeparators_join (path : Path) {name : ByteString} (h : IsNaming name) :
    FileSystem.trimSeparators (path.join ⟨name⟩) = path.join ⟨name⟩ := by
  obtain ⟨front, last, hfront, hlast⟩ := path.exists_join_bytes_eq h
  have hbytes : (FileSystem.trimSeparators (path.join ⟨name⟩)).bytes =
      (path.join ⟨name⟩).bytes := by
    simp [FileSystem.trimSeparators, hfront, hlast]
  exact congrArg Path.mk hbytes

/-! ## Steps into a path -/

/-- The steps into a path are its steps, but for a check at the end that a directory was reached. -/
lemma steps_cases (path : Path) :
    path.steps = path.stepsInto ∨ path.steps = path.stepsInto ++ [.directory] := by
  rw [stepsInto]
  by_cases hempty : path.isEmpty = true
  · have hbytes : path.bytes = [] := List.isEmpty_iff.1 hempty
    exact .inr (by simp [hempty, steps, hbytes, split, Step.ofSegment])
  by_cases hend : path.endsInSeparator = true
  · obtain ⟨front, _, hsteps⟩ := steps_of_endsInSeparator hend
    exact .inr (by rw [if_neg hempty, if_pos hend, hsteps, List.dropLast_concat])
  · exact .inl (by rw [if_neg hempty, if_neg hend])

lemma stepsInto_join (path : Path) {name : Name} (h : IsPlain name) :
    (path.join ⟨name⟩).stepsInto = path.stepsInto ++ [.name name] := by
  rw [stepsInto, path.isEmpty_join h.isNaming, path.endsInSeparator_join h.isNaming,
    steps_join path h]
  rfl

end Path

namespace Layout

lemma isPlain_buildName : Path.IsPlain (Path.ofString buildName).bytes := by decide

lemma isPlain_outputName : Path.IsPlain (Path.ofString outputName).bytes := by decide

lemma isPlain_sourcesName : Path.IsPlain (Path.ofString sourcesName).bytes := by decide

end Layout

end StagedRun
