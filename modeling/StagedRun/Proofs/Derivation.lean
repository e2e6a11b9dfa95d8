import StagedRun.Proofs.CarryOut
import StagedRun.Proofs.Path.Components

/-!
# Directories that follow from the path of the program

Without further information the directories of a run follow from the path of the program, and they
are told by its components: the directory of the program has all of them but the last, the root of
the repository has all but the last two, and the directories below the root have one more than the
root.  So three components are enough, and fewer are not (`Layout.ofToolPath_derives`).

The text of the path is cut twice, and what is left after the first cut is read afresh for the
second.  That both cuts keep to the components is `Path.components_of_enclosing?`.
-/

namespace StagedRun

namespace Layout

/-! ## One cut -/

lemma parentOf_eq_ok_iff {path directory : Path} :
    parentOf path = .ok directory ↔ path.enclosing? = some directory := by
  unfold parentOf
  cases path.enclosing? <;> simp

lemma parentOf_eq_error {path : Path} (h : path.components.length ≤ 1) :
    parentOf path = .error (.noParentDirectory path) := by
  rw [parentOf, Path.enclosing?_eq_none_iff.2 h]

lemma exists_parentOf {path : Path} (h : 2 ≤ path.components.length) :
    ∃ directory, parentOf path = .ok directory ∧
      directory.components = path.components.dropLast := by
  cases henclosing : path.enclosing? with
  | none =>
    have := Path.enclosing?_eq_none_iff.1 henclosing
    omega
  | some directory =>
    exact ⟨directory, parentOf_eq_ok_iff.2 henclosing,
      (Path.components_of_enclosing? henclosing).1⟩

/-! ## Directories below the root -/

lemma components_join_ofString (root : Path) {name : String}
    (h : Path.IsPlain (Path.ofString name).bytes) :
    (root.join (.ofString name)).components =
      root.components ++ [.name (Text.encode name)] := by
  have hjoin := Path.components_join root h.isNaming
  rwa [Path.componentOf, if_neg h.ne_dots] at hjoin

/-- The directories of a layout are the ones that follow from a path with these components. -/
structure IsDerivedFrom (layout : Layout) (components : List Path.Component) : Prop where
  tool : layout.tool.components = components.dropLast
  root : layout.root.components = components.dropLast.dropLast
  build : layout.build.components =
    layout.root.components ++ [.name (Text.encode "build")]
  output : layout.output.components =
    layout.root.components ++ [.name (Text.encode "out")]
  sources : layout.sources.components =
    layout.root.components ++ [.name (Text.encode "sources")]

lemma isDerivedFrom {layout : Layout} {components : List Path.Component}
    (htool : layout.tool.components = components.dropLast)
    (hroot : layout.root.components = components.dropLast.dropLast) :
    layout.IsDerivedFrom components where
  tool := htool
  root := hroot
  build := components_join_ofString _ isPlain_buildName
  output := components_join_ofString _ isPlain_outputName
  sources := components_join_ofString _ isPlain_sourcesName

/-! ## Both cuts -/

lemma ofToolPath_of_parentOf {path tool : Path} (h : parentOf path = .ok tool) :
    ofToolPath path = (parentOf tool).map fun root => ⟨tool, root⟩ := by
  rw [ofToolPath, h]
  cases hroot : parentOf tool <;> simp [bind, Except.bind, pure, Except.pure, hroot, Except.map]

lemma ofToolPath_of_one {path : Path} (h : path.components.length ≤ 1) :
    ofToolPath path = .error (.noParentDirectory path) := by
  rw [ofToolPath, parentOf_eq_error h]
  rfl

lemma ofToolPath_of_two {path : Path} (h : path.components.length = 2) :
    ∃ tool, parentOf path = .ok tool ∧ tool.components = path.components.take 1 ∧
      ofToolPath path = .error (.noParentDirectory tool) := by
  obtain ⟨tool, htool, hcomponents⟩ := exists_parentOf (Nat.le_of_eq h.symm)
  have hlength : tool.components.length ≤ 1 := by
    rw [hcomponents, List.length_dropLast]
    omega
  refine ⟨tool, htool, by rw [hcomponents, List.dropLast_eq_take, h], ?_⟩
  rw [ofToolPath_of_parentOf htool, parentOf_eq_error hlength]
  rfl

lemma exists_ofToolPath {path : Path} (h : 3 ≤ path.components.length) :
    ∃ layout, ofToolPath path = .ok layout ∧ layout.IsDerivedFrom path.components := by
  obtain ⟨tool, htool, hcomponents⟩ := exists_parentOf (Nat.le_of_succ_le h)
  have hlength : 2 ≤ tool.components.length := by
    rw [hcomponents, List.length_dropLast]
    omega
  obtain ⟨root, hroot, hcomponents'⟩ := exists_parentOf hlength
  refine ⟨⟨tool, root⟩, ?_, isDerivedFrom hcomponents (by rw [hcomponents', hcomponents])⟩
  rw [ofToolPath_of_parentOf htool, hroot]
  rfl

/-- Fewer than three components are not enough. -/
lemma isDerivedFrom_of_ofToolPath {path : Path} {layout : Layout}
    (h : ofToolPath path = .ok layout) :
    3 ≤ path.components.length ∧ layout.IsDerivedFrom path.components := by
  by_cases hlength : 3 ≤ path.components.length
  · obtain ⟨other, hother, hderived⟩ := exists_ofToolPath hlength
    obtain rfl : other = layout := Except.ok.inj (hother.symm.trans h)
    exact ⟨hlength, hderived⟩
  · by_cases htwo : path.components.length = 2
    · obtain ⟨tool, _, _, herror⟩ := ofToolPath_of_two htwo
      cases herror.symm.trans h
    · have hone : path.components.length ≤ 1 := by omega
      cases (ofToolPath_of_one hone).symm.trans h

/-- **The directories follow from the components of the program's path.**  With three components or
more there is a directory of the program and a root above it, and all directories have the
components that they should have.  With two, the failure names the directory of the program, above
which there is none.  With fewer, it names the path itself. -/
theorem ofToolPath_derives (path : Path) :
    ((∃ layout, ofToolPath path = .ok layout) ↔ 3 ≤ path.components.length) ∧
      (∀ layout, ofToolPath path = .ok layout → layout.IsDerivedFrom path.components) ∧
      (path.components.length ≤ 1 → ofToolPath path = .error (.noParentDirectory path)) ∧
      (path.components.length = 2 → ∃ tool, parentOf path = .ok tool ∧
        tool.components = path.components.take 1 ∧
        ofToolPath path = .error (.noParentDirectory tool)) := by
  refine ⟨⟨?_, ?_⟩, fun layout h => (isDerivedFrom_of_ofToolPath h).2, ofToolPath_of_one,
    ofToolPath_of_two⟩
  · rintro ⟨layout, hlayout⟩
    exact (isDerivedFrom_of_ofToolPath hlayout).1
  · intro h
    obtain ⟨layout, hlayout, _⟩ := exists_ofToolPath h
    exact ⟨layout, hlayout⟩

example : ofToolPath (.ofString ".//a/.") = .error (.noParentDirectory (.ofString ".")) := by
  decide

end Layout

end StagedRun
