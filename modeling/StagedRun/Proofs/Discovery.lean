import StagedRun.Proofs.Derivation
import StagedRun.Proofs.Path.Absolute

/-!
# A root that is named

A user who names a root settles where everything is.  The run finds a layout whose directories are
all absolute, the place of the program has no say in what follows from the root, and naming the root
that was found finds the same layout again (`Layout.Settles`).

Without a named root the place of the program decides, and the only programs that have no root above
them are those that lie directly in the root directory.  The failure advises to name a root, and
that helps (`Layout.discover_settles`).
-/

namespace StagedRun

namespace Layout

/-! ## Steps of the discovery -/

lemma checkUtf8_eq_ok_iff {path text : Path} :
    checkUtf8 path = .ok text ↔ path.isUtf8 = true ∧ path = text := by
  rw [checkUtf8]
  split <;> simp [*]

lemma makeAbsolute_of_isAbsolute {path : Path} (h : path.isAbsolute = true)
    (current : Except SystemError Path) : makeAbsolute path current = .ok (path.absolute .root) := by
  have hempty : path.isEmpty = false :=
    List.isEmpty_eq_false_iff.2 (Path.bytes_ne_nil_of_isAbsolute h)
  simp [makeAbsolute, hempty, h]

lemma makeAbsolute_eq_ok {path : Path} (h : path.isEmpty = false) (current : Path) :
    makeAbsolute path (.ok current) = .ok (path.absolute current) := by
  by_cases habsolute : path.isAbsolute = true
  · rw [makeAbsolute_of_isAbsolute habsolute, Path.absolute_of_isAbsolute habsolute .root current]
  · simp [makeAbsolute, h, habsolute, Except.map]

/-- A named root is found when it means a text, and the program lies in a directory. -/
lemma discover_eq_ok {executable tool named root : Path} {current : Except SystemError Path}
    (htext : executable.isUtf8 = true) (htool : parentOf executable = .ok tool)
    (hroot : makeAbsolute named current = .ok root) (hroot' : root.isUtf8 = true) :
    discover (.ok executable) current (some named) = .ok ⟨tool, root⟩ := by
  simp [discover, located, Except.mapError, bind, Except.bind, pure, Except.pure,
    checkUtf8_eq_ok_iff.2 ⟨htext, rfl⟩, htool, hroot, checkUtf8_eq_ok_iff.2 ⟨hroot', rfl⟩]

/-- The root of a layout is the one that was named, wherever the program lies. -/
lemma root_of_discover {answer current : Except SystemError Path} {named root : Path}
    {layout : Layout} (h : discover answer current (some named) = .ok layout)
    (hroot : makeAbsolute named current = .ok root) : layout.root = root := by
  -- The place of the program, its text, and its directory come first, and say nothing of the root.
  obtain ⟨_, _, h⟩ := bind_eq_ok_iff.1 h
  obtain ⟨path, _, h⟩ := bind_eq_ok_iff.1 h
  obtain ⟨tool, _, h⟩ := bind_eq_ok_iff.1 h
  rw [hroot] at h
  obtain ⟨place, hplace, h⟩ := bind_eq_ok_iff.1 h
  obtain ⟨text, htext, h⟩ := bind_eq_ok_iff.1 h
  have hsame : root = place := Except.ok.inj hplace
  rw [← Except.ok.inj h, hsame]
  exact (checkUtf8_eq_ok_iff.1 htext).2.symm

lemma discover_none {executable : Path} (htext : executable.isUtf8 = true)
    (current : Except SystemError Path) :
    discover (.ok executable) current none = ofToolPath executable := by
  simp [discover, located, Except.mapError, bind, Except.bind,
    checkUtf8_eq_ok_iff.2 ⟨htext, rfl⟩]

/-! ## What is settled -/

/-- What a user who names a root can rely on. -/
structure Settles (executable current named : Path) (layout : Layout) : Prop where
  /-- The root is found. -/
  found : discover (.ok executable) (.ok current) (some named) = .ok layout
  /-- The directory of the program is the one that holds it, whatever root was named. -/
  tool : layout.tool.components = executable.components.dropLast
  /-- The root is what was named, seen from the current directory. -/
  root : layout.root.components =
    (if named.isAbsolute then [.root] else current.components) ++ named.names.map Path.componentOf
  /-- All directories are absolute. -/
  isAbsolute : ∀ directory ∈
    [layout.tool, layout.root, layout.build, layout.output, layout.sources],
    directory.isAbsolute = true
  /-- The place of the program has no say in what follows from the root. -/
  shared : ∀ answer twin, discover answer (.ok current) (some named) = .ok twin →
    twin.root = layout.root ∧ twin.build = layout.build ∧ twin.output = layout.output ∧
      twin.sources = layout.sources
  /-- Naming the root that was found changes nothing, whatever the current directory is. -/
  stable : ∀ answer, discover (.ok executable) answer (some layout.root) = .ok layout

section Canonical

variable {executable current : Path}

lemma exists_settles (hexecutable : executable.IsCanonical) (hne : executable ≠ .root)
    (htext : executable.isUtf8 = true) (hcurrent : current.IsCanonical)
    (hcurrent' : current.isUtf8 = true) {named : Path} (hnamed : named.isEmpty = false)
    (hnamed' : named.isUtf8 = true) : ∃ layout, Settles executable current named layout := by
  obtain ⟨tool, htool, hcomponents⟩ := exists_parentOf (hexecutable.two_le_length hne)
  have hmake := makeAbsolute_eq_ok hnamed current
  have habsolute := Path.isAbsolute_absolute named hcurrent
  have hroot := Path.isUtf8_absolute hnamed' hcurrent'
  refine ⟨⟨tool, named.absolute current⟩, discover_eq_ok htext htool hmake hroot, hcomponents,
    named.components_absolute hcurrent, ?_, ?_, ?_⟩
  · have hbelow : ∀ {name : String}, Path.IsPlain (Path.ofString name).bytes →
        ((named.absolute current).join (.ofString name)).isAbsolute = true :=
      fun hname => (Path.isAbsolute_join _ hname.isNaming).trans habsolute
    have hat : tool.isAbsolute = true :=
      Path.isAbsolute_of_enclosing? (parentOf_eq_ok_iff.1 htool) hexecutable.isAbsolute
    simp only [List.forall_mem_cons, List.not_mem_nil, false_implies, implies_true, and_true]
    exact ⟨hat, habsolute, hbelow isPlain_buildName, hbelow isPlain_outputName,
      hbelow isPlain_sourcesName⟩
  · intro answer twin htwin
    have hsame : twin.root = named.absolute current := root_of_discover htwin hmake
    simp [build, output, sources, hsame]
  · intro answer
    have hagain : makeAbsolute (named.absolute current) answer = .ok (named.absolute current) := by
      rw [makeAbsolute_of_isAbsolute habsolute, Path.absolute_absolute named hcurrent]
    exact discover_eq_ok htext htool hagain hroot

/-- Without a named root, only a program directly in the root directory is not enough. -/
lemma ofToolPath_of_canonical (hexecutable : executable.IsCanonical) (hne : executable ≠ .root) :
    executable.LiesInRoot ∧ (∃ path, ofToolPath executable = .error (.noParentDirectory path)) ∨
      ¬executable.LiesInRoot ∧ ∃ layout, ofToolPath executable = .ok layout := by
  by_cases hlies : executable.LiesInRoot
  · obtain ⟨tool, _, _, herror⟩ := ofToolPath_of_two hlies.length_components
    exact .inl ⟨hlies, tool, herror⟩
  · have htwo := hexecutable.two_le_length hne
    have hthree : executable.components.length ≠ 2 := fun h => hlies (hexecutable.liesInRoot h)
    obtain ⟨layout, hlayout, _⟩ := exists_ofToolPath (by omega : 3 ≤ executable.components.length)
    exact .inr ⟨hlies, layout, hlayout⟩

/-- **Naming a root settles where everything is.**  A run that the system gives a canonical path of
the program and a canonical current directory finds every root that is named by a text.  If none is
named, it fails for the want of a directory above exactly when the program lies directly in the root
directory, it fails for no other reason, and it advises what helps. -/
theorem discover_settles (hexecutable : executable.IsCanonical) (hne : executable ≠ .root)
    (htext : executable.isUtf8 = true) (hcurrent : current.IsCanonical)
    (hcurrent' : current.isUtf8 = true) :
    (∀ named : Path, named.isEmpty = false → named.isUtf8 = true →
        ∃ layout, Settles executable current named layout) ∧
      ((∃ path, discover (.ok executable) (.ok current) none = .error (.noParentDirectory path)) ↔
        executable.LiesInRoot) ∧
      ∀ failure, discover (.ok executable) (.ok current) none = .error failure →
        (∃ path, failure = .noParentDirectory path) ∧
          failure.help? = some "pass --root to name the repository root explicitly" := by
  refine ⟨fun named hnamed hnamed' =>
    exists_settles hexecutable hne htext hcurrent hcurrent' hnamed hnamed', ?_⟩
  rw [discover_none htext]
  rcases ofToolPath_of_canonical hexecutable hne with ⟨hlies, path, herror⟩ | ⟨hlies, layout, hok⟩
  · refine ⟨⟨fun _ => hlies, fun _ => ⟨path, herror⟩⟩, fun failure hfailure => ?_⟩
    obtain rfl : _ = failure := Except.error.inj (herror.symm.trans hfailure)
    exact ⟨⟨path, rfl⟩, rfl⟩
  · rw [hok]
    simp [hlies]

end Canonical

/-- A program in the root directory, and a root with dots and separators to spare. -/
theorem discover_settles_graphrun :
    (∃ layout, Settles (.ofString "/graphrun") (.ofString "/work") (.ofString ".//../x/./") layout) ∧
      ∃ path, discover (.ok (.ofString "/graphrun")) (.ok (.ofString "/work")) none =
        .error (.noParentDirectory path) := by
  have hexecutable : (Path.ofString "/graphrun").IsCanonical := by decide
  have hcurrent : (Path.ofString "/work").IsCanonical := by decide
  have hlies : (Path.ofString "/graphrun").LiesInRoot :=
    ⟨Text.encode "graphrun", by decide, by decide⟩
  have hsettles := discover_settles hexecutable (by decide) (by decide +kernel) hcurrent
    (by decide +kernel)
  exact ⟨hsettles.1 (.ofString ".//../x/./") (by decide) (by decide +kernel), hsettles.2.1.2 hlies⟩

example : discover (.ok (.ofString "/opt/bin/graphrun")) (.ok (.ofString "/work"))
    (some (.ofString ".//../x/./")) = .ok ⟨.ofString "/opt/bin", .ofString "/work/../x/"⟩ := by
  decide +kernel

end Layout

end StagedRun
