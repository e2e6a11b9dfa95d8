import StagedRun.FileSystem.Edit
import StagedRun.Proofs.Confinement

/-!
# What the clean stage clears

The clean stage removes the output directory and then the build directory, each if it is there, and
stops at the first that cannot be removed.  `Clears` says what holds of the files afterwards, however
the stage ends:

* after a success neither path leads to a directory, and cleaning again does nothing;
* a failure at the output directory leaves the build directory as it was, with everything in it,
  although the removal may have stopped midway;
* a failure at the build directory comes after the output directory has gone;
* the failure holds the name, the path and the reason of the first removal that failed.

The second point is where the trees might have met.  They do not, because the two directories stand
side by side and a removal follows no link (`FileSystem.leaves_removeTree`).

A run that cleans and does not build cannot have an analyzer: what it would need is what the clean
stage takes away, and nothing in between brings it back (`execute_bereft`).
-/

namespace StagedRun

variable {κ σ : Type}

namespace FileSystem

variable {fs after : FileSystem} {current : Place} {root path : Path} {name other : Name}

/-- Removes what a path names, if the path leads to a directory. -/
def clear (fs : FileSystem) (current : Place) (path : Path) : FileSystem × Except SystemError Unit :=
  if fs.isDirectory current path then fs.removeTree current path else (fs, .ok ())

/-- What a path names in `fs` is in `after` as it was, with everything below it, and the path has
not come to name anything else. -/
structure Leaves (fs after : FileSystem) (current : Place) (path : Path) : Prop where
  kept : ∀ place, fs.Names current path place →
    ∀ below, after.get? (below ++ place) = fs.get? (below ++ place)
  named : ∀ place, after.Names current path place → fs.Names current path place

/-- A removal leaves the entry beside the one that it removes, also when it stops midway. -/
lemma leaves_removeTree (hname : Path.IsPlain name) (hother : Path.IsPlain other)
    (hne : other ≠ name) :
    fs.Leaves (fs.removeTree current (root.join ⟨name⟩)).1 current (root.join ⟨other⟩) where
  kept := by
    rintro place ⟨links, hlocate⟩ below
    obtain ⟨_, above, _, _, habove, _, _⟩ := leadsInto_of_locate hother hlocate
    have hplace : place = other :: above := Names.eq hother ⟨links, hlocate⟩ habove
    refine get?_removeTree_of_not_below fun target links hremoved => ?_
    have htarget : target = name :: above := Names.eq hname ⟨links, hremoved⟩ habove
    rw [hplace, htarget]
    exact not_below_of_ne hne above below
  named := by
    rintro place ⟨links, hlocate⟩
    exact ⟨links, (fs.removeTree_within current _).locate hlocate⟩

end FileSystem

namespace Pipeline

/-! ## The first removal that fails -/

/-- The two directories are cleared one after the other, and this is the failure of the first that
cannot be. -/
def FirstRefusal (pipeline : Pipeline) (current : Place) (files : FileSystem) (failure : Failure) :
    Prop :=
  let layout := pipeline.config.layout
  let first := files.clear current layout.output
  let second := first.1.clear current layout.build
  (∃ reason, first.2 = .error reason ∧
      failure = .removeDirectory Layout.outputName layout.output reason) ∨
    first.2 = .ok () ∧ ∃ reason, second.2 = .error reason ∧
      failure = .removeDirectory Layout.buildName layout.build reason

/-- What the clean stage makes of the files `before` it. -/
structure Clears (pipeline : Pipeline) (current : Place) (before : FileSystem)
    (outcome : Except Failure Unit) (after : FileSystem) : Prop where
  swept : outcome = .ok () → pipeline.Swept after current
  /-- A failure at the output directory leaves the build directory alone. -/
  output : ∀ path reason, outcome = .error (.removeDirectory Layout.outputName path reason) →
    before.Leaves after current pipeline.config.layout.build
  /-- A failure at the build directory comes after the output directory has gone. -/
  build : ∀ path reason, outcome = .error (.removeDirectory Layout.buildName path reason) →
    after.isDirectory current pipeline.config.layout.output = false
  reported : ∀ failure, outcome = .error failure ↔ pipeline.FirstRefusal current before failure

variable {pipeline : Pipeline} {children : Children κ} {name : String} {path : Path}
  {scene after : Scene κ} {outcome : Except Failure Unit}

lemma Removes.clear_eq (h : pipeline.Removes name path scene (.ok ()) after) :
    scene.files.clear scene.current path = (after.files, .ok ()) := by
  cases h with
  | absent hthere => exact if_neg (Bool.eq_false_iff.1 hthere)
  | removed hthere hremove => exact (if_pos hthere).trans hremove

/-- A failure to remove holds the name, the path and the reason. -/
lemma Removes.clear_refused {failure : Failure}
    (h : pipeline.Removes name path scene (.error failure) after) :
    ∃ reason, scene.files.clear scene.current path = (after.files, .error reason) ∧
      failure = .removeDirectory name path reason := by
  cases h with
  | @refused files reason hthere hremove => exact ⟨reason, (if_pos hthere).trans hremove, rfl⟩

/-! ## One clean stage -/

/-- Nothing is removed where nothing is. -/
lemma Removes.of_absent (hthere : scene.isDirectory path = false)
    (h : pipeline.Removes name path scene outcome after) :
    outcome = .ok () ∧ after = scene.tell pipeline (removing name) := by
  cases h with
  | absent _ => exact ⟨rfl, rfl⟩
  | removed hfound _ | refused hfound _ =>
    rw [hthere] at hfound
    cases hfound

/-- Where both directories are gone already, a clean stage only says what it says. -/
lemma Cleans.of_swept (hswept : pipeline.Swept scene.files scene.current)
    (h : pipeline.Cleans scene outcome after) :
    outcome = .ok () ∧ after.hushed = scene.hushed := by
  cases h with
  | skipped _ => exact ⟨rfl, rfl⟩
  | stopped _ houtput => cases (houtput.of_absent hswept.1).1
  | went _ houtput hbuild =>
    obtain ⟨_, rfl⟩ := houtput.of_absent hswept.1
    have hthere : (scene.tell pipeline (removing Layout.outputName)).isDirectory
        pipeline.config.layout.build = false := hswept.2
    obtain ⟨houtcome, rfl⟩ := hbuild.of_absent hthere
    exact ⟨houtcome, by rw [Scene.hushed_tell, Scene.hushed_tell]⟩

/-- A removal of the output directory leaves the build directory alone, however it goes. -/
lemma Removes.leaves_build
    (h : pipeline.Removes name pipeline.config.layout.output scene outcome after) :
    scene.files.Leaves after.files scene.current pipeline.config.layout.build := by
  have hleaves : scene.files.Leaves
      (scene.files.removeTree scene.current pipeline.config.layout.output).1 scene.current
      pipeline.config.layout.build :=
    FileSystem.leaves_removeTree Layout.isPlain_outputName Layout.isPlain_buildName (by decide)
  cases h with
  | absent _ => exact ⟨fun _ _ _ => rfl, fun _ hnames => hnames⟩
  | removed _ hremove | refused _ hremove =>
    rw [hremove] at hleaves
    exact hleaves

/-- The clean stage fails as the first removal does that fails. -/
lemma Cleans.error_iff (hclean : pipeline.config.options.clean = true)
    (h : pipeline.Cleans scene outcome after) (failure : Failure) :
    outcome = .error failure ↔ pipeline.FirstRefusal scene.current scene.files failure := by
  cases h with
  | skipped hskipped =>
    rw [hclean] at hskipped
    cases hskipped
  | stopped _ houtput =>
    obtain ⟨reason, hclear, rfl⟩ := houtput.clear_refused
    simp [FirstRefusal, hclear, eq_comm]
  | went _ houtput hbuild =>
    have hclear := houtput.clear_eq
    cases outcome with
    | ok _ =>
      have hclear' := hbuild.clear_eq
      rw [houtput.current_eq] at hclear'
      simp [FirstRefusal, hclear, hclear']
    | error _ =>
      obtain ⟨reason, hclear', rfl⟩ := hbuild.clear_refused
      rw [houtput.current_eq] at hclear'
      simp [FirstRefusal, hclear, hclear', eq_comm]

lemma Cleans.clears (hclean : pipeline.config.options.clean = true)
    (h : pipeline.Cleans scene outcome after) :
    pipeline.Clears scene.current scene.files outcome after.files where
  swept := by
    rintro rfl
    rw [← h.current_eq]
    exact h.swept hclean
  output := by
    rintro path reason rfl
    cases h with
    | stopped _ houtput => exact houtput.leaves_build
    | went _ _ hbuild =>
      obtain houtcome | ⟨_, houtcome⟩ := hbuild.ok_or_refused
      · cases houtcome
      · simp [Layout.outputName, Layout.buildName] at houtcome
  build := by
    rintro path reason rfl
    cases h with
    | stopped _ houtput =>
      obtain houtcome | ⟨_, houtcome⟩ := houtput.ok_or_refused
      · cases houtcome
      · simp [Layout.outputName, Layout.buildName] at houtcome
    | went _ houtput hbuild =>
      have hmidway := houtput.isDirectory_eq_false pipeline.config.layout.steps_output
      rw [Scene.isDirectory, houtput.current_eq] at hmidway
      exact hbuild.within.isDirectory_eq_false hmidway
  reported := h.error_iff hclean

/-- **Cleaning clears.**  Whatever the two directories are, also when they are links or linked to one
another, a clean stage that succeeds leaves neither, and then cleaning again succeeds and changes
nothing.  A clean stage that fails reports the first removal that failed: if that is the one of the
output directory, the build directory is as it was with everything in it, and if it is the one of the
build directory, the output directory has gone. -/
theorem clean_clears (children : Children κ) (sink : Sink σ) {pipeline : Pipeline}
    (hclean : pipeline.config.options.clean = true) (world : World κ σ) :
    let cleaning := pipeline.clean (World.host children sink)
    let result := carryOut cleaning world
    let again := carryOut cleaning result.2
    pipeline.Clears world.current world.files result.1 result.2.files ∧
      (result.1 = .ok () → again.1 = .ok () ∧ again.2.quiet = result.2.quiet) := by
  intro cleaning result again
  have hmirrors := mirrors_stage (World.mirrors_scene children sink) pipeline .clean
  have hcleans : pipeline.Cleans world.scene result.1 result.2.scene :=
    cleans_of_carryOut (hmirrors.carryOut world)
  have hagain : pipeline.Cleans result.2.scene again.1 again.2.scene :=
    cleans_of_carryOut (hmirrors.carryOut result.2)
  refine ⟨hcleans.clears hclean, fun houtcome => ?_⟩
  rw [houtcome] at hcleans
  exact hagain.of_swept (hcleans.swept hclean)

/-- A stage that cleans files with links: the output directory is one to the build directory, and
what is in that one cannot be removed. -/
theorem clean_clears_linked :
    let pipeline : Pipeline :=
      { config := ⟨{ clean := true }, ⟨.ofString "/r/bin", .ofString "/r"⟩⟩
        programs := .default
        colour := .plain }
    let linked := (FileSystem.empty.edit [] (.file (.ofString "/r/build/main.js") [])).edit []
      (.link (.ofString "/r/out") (.ofString "build"))
    let files : FileSystem :=
      { linked with
        refusal := fun action place =>
          if action = .remove ∧ place.length = 3 then some .permissionDenied else none }
    let idle : Children Unit := ⟨fun _ _ files => (.ok (.exited 0), (), files)⟩
    let world := World.fresh files [] () ({} : Kept)
    let cleaning := pipeline.clean (World.host idle (.bounded none))
    let result := carryOut cleaning world
    let again := carryOut cleaning result.2
    pipeline.config.options.clean = true ∧
      pipeline.Clears world.current world.files result.1 result.2.files ∧
      (result.1 = .ok () → again.1 = .ok () ∧ again.2.quiet = result.2.quiet) := by
  intro pipeline linked files idle world cleaning result again
  exact ⟨rfl, clean_clears idle (.bounded none) rfl world⟩

/-! ## A run that cleans and does not build -/

/-- The run stage has nothing to start its analyzer with. -/
lemma Analyzes.of_swept (hinputs : pipeline.config.options.inputs ≠ [])
    (hswept : pipeline.Swept scene.files scene.current)
    (h : pipeline.Analyzes children scene outcome after) :
    outcome = .error (.buildDirectoryMissing pipeline.config.layout.build) ∧ after = scene := by
  have hmissing : scene.isDirectory pipeline.config.layout.build = false := hswept.2
  cases h with
  | idle hidle => exact absurd hidle hinputs
  | missing _ _ => exact ⟨rfl, rfl⟩
  | unmade _ hbuild _ | failed _ hbuild _ _ | succeeded _ hbuild _ _ =>
    rw [hmissing] at hbuild
    cases hbuild

/-- A run comes to nothing: its clean stage fails, or its run stage finds no build directory. -/
structure Bereft (pipeline : Pipeline) (current : Place) (outcome : Except Failure Unit)
    (after : FileSystem) : Prop where
  failed : (∃ name path reason, outcome = .error (.removeDirectory name path reason)) ∨
    outcome = .error (.buildDirectoryMissing pipeline.config.layout.build)
  /-- A run that gets past its clean stage leaves neither directory behind. -/
  swept : ∀ path, outcome = .error (.buildDirectoryMissing path) → pipeline.Swept after current

/-- The last stage goes as its row does. -/
lemma goes_of_takes_singleton {stage : Stage}
    (h : pipeline.Takes (Scene.host children) [stage] scene outcome after) :
    pipeline.Goes children scene stage outcome after := by
  cases h with
  | failed hstage => exact goes_of_carryOut hstage
  | passed hstage hrest =>
    cases hrest
    exact goes_of_carryOut hstage

lemma Builds.of_skipped (hbuild : pipeline.config.options.build = false)
    (h : pipeline.Builds children scene outcome after) :
    outcome = .ok () ∧ after = scene.tell pipeline skippingBuild := by
  cases h with
  | skipped _ => exact ⟨rfl, rfl⟩
  | failed hbuilds _ | succeeded hbuilds _ =>
    rw [hbuild] at hbuilds
    cases hbuilds

lemma bereft_of_cleans {failure : Failure} (h : pipeline.Cleans scene (.error failure) after) :
    after.dealings = scene.dealings ∧
      pipeline.Bereft scene.current (.error failure) after.files := by
  obtain hok | ⟨name, path, reason, hrefused⟩ := h.ok_or_refused
  · cases hok
  · obtain rfl := Except.error.inj hrefused
    exact ⟨h.dealings_eq, .inl ⟨name, path, reason, rfl⟩, nofun⟩

lemma bereft_of_takes (hclean : pipeline.config.options.clean = true)
    (hbuild : pipeline.config.options.build = false)
    (hinputs : pipeline.config.options.inputs ≠ [])
    (h : pipeline.Takes (Scene.host children) Stage.all scene outcome after) :
    after.dealings = scene.dealings ∧ pipeline.Bereft scene.current outcome after.files := by
  cases h with
  | failed hstage => exact bereft_of_cleans (goes_of_carryOut hstage)
  | @passed _ _ _ midway _ _ hstage hrest =>
    have hcleans : pipeline.Cleans scene (.ok ()) midway := goes_of_carryOut hstage
    have hswept : pipeline.Swept midway.files midway.current := hcleans.swept hclean
    cases hrest with
    | failed hstage => cases (Builds.of_skipped hbuild (goes_of_carryOut hstage)).1
    | @passed _ _ _ built _ _ hstage hrest =>
      -- The build stage is skipped, so the run stage meets the files that the clean stage left.
      obtain ⟨_, rfl⟩ := Builds.of_skipped hbuild (goes_of_carryOut hstage)
      have hanalyzes : pipeline.Analyzes children (midway.tell pipeline skippingBuild) outcome after :=
        goes_of_takes_singleton hrest
      have hbare : pipeline.Swept (midway.tell pipeline skippingBuild).files
          (midway.tell pipeline skippingBuild).current := hswept
      obtain ⟨rfl, rfl⟩ := hanalyzes.of_swept hinputs hbare
      refine ⟨(Scene.dealings_tell _ _ _).trans hcleans.dealings_eq, .inr rfl, fun _ _ => ?_⟩
      rw [← hcleans.current_eq]
      exact hswept

/-- **Cleaning without building leaves nothing to run.**  A run that cleans, skips its build and has
inputs never succeeds and starts no child, whatever the files are: either its clean stage fails, or
its run stage finds no build directory, and then there is no output directory either. -/
theorem execute_bereft (children : Children κ) (sink : Sink σ) {pipeline : Pipeline}
    (hclean : pipeline.config.options.clean = true)
    (hbuild : pipeline.config.options.build = false)
    (hinputs : pipeline.config.options.inputs ≠ []) (world : World κ σ) :
    let result := carryOut (pipeline.execute (World.host children sink)) world
    result.2.commands = world.commands ∧
      pipeline.Bereft world.current result.1 result.2.files := by
  intro result
  obtain ⟨hdealings, hbereft⟩ := bereft_of_takes hclean hbuild hinputs
    (takes_scene children sink pipeline world)
  have hcommands : result.2.commands = world.commands := by
    rw [World.commands_eq_map_dealings, World.commands_eq_map_dealings]
    exact congrArg (List.map Dealing.command) hdealings
  exact ⟨hcommands, hbereft⟩

/-- A run whose build directory is a link to its output directory, and leads nowhere once that has
been removed. -/
theorem execute_bereft_linked :
    let pipeline : Pipeline :=
      { config := ⟨{ build := false, clean := true, inputs := [Text.encode "a.ts"] },
          ⟨.ofString "/r/bin", .ofString "/r"⟩⟩
        programs := .default
        colour := .plain }
    let files := (FileSystem.empty.edit [] (.file (.ofString "/r/out/main.js") [])).edit []
      (.link (.ofString "/r/build") (.ofString "out"))
    let idle : Children Unit := ⟨fun _ _ files => (.ok (.exited 0), (), files)⟩
    let world := World.fresh files [] () ({} : Kept)
    let result := carryOut (pipeline.execute (World.host idle (.bounded none))) world
    (pipeline.config.options.clean = true ∧ pipeline.config.options.build = false ∧
        pipeline.config.options.inputs ≠ []) ∧
      result.2.commands = world.commands ∧
      pipeline.Bereft world.current result.1 result.2.files := by
  intro pipeline files idle world result
  exact ⟨⟨rfl, rfl, List.cons_ne_nil _ _⟩,
    execute_bereft idle (.bounded none) rfl rfl (List.cons_ne_nil _ _) world⟩

end Pipeline

end StagedRun
