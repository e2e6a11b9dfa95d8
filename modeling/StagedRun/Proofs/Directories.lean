import StagedRun.Proofs.CommandOrder
import StagedRun.Proofs.FileSystem.Making
import StagedRun.Proofs.FileSystem.Removal
import StagedRun.Proofs.Path.Steps

/-!
# The directories that children find

The compiler of a run that cleans starts where neither the output nor the build directory is there.
The analyzer starts where both are there.  `Serves` says so of one command, and
`execute_serves_children` of all commands of a run, for files with links anywhere and for children
that change them at will.

What carries the law from the clean stage to the compiler is that nothing happens in between, and
inside the clean stage it is that a removal makes no path lead to a directory
(`Removes.isDirectory_eq_false`): the removal of the build directory cannot bring the output
directory back, even where links make one lead into the other.  For the analyzer it is the other way
round: making the output directory takes away nothing, so the build directory that the stage found
is still there.
-/

namespace StagedRun

variable {κ σ : Type}

namespace Layout

lemma steps_output (layout : Layout) :
    layout.output.steps =
      layout.root.stepsInto ++ [.name (Path.ofString outputName).bytes] :=
  layout.root.steps_join isPlain_outputName

lemma steps_build (layout : Layout) :
    layout.build.steps = layout.root.stepsInto ++ [.name (Path.ofString buildName).bytes] :=
  layout.root.steps_join isPlain_buildName

lemma isEmpty_output (layout : Layout) : layout.output.isEmpty = false :=
  layout.root.isEmpty_join isPlain_outputName.isNaming

lemma endsInSeparator_output (layout : Layout) : layout.output.endsInSeparator = false :=
  layout.root.endsInSeparator_join isPlain_outputName.isNaming

lemma trimSeparators_output (layout : Layout) :
    FileSystem.trimSeparators layout.output = layout.output :=
  layout.root.trimSeparators_join isPlain_outputName.isNaming

end Layout

namespace Pipeline

/-- Neither directory of a run is there. -/
def Swept (pipeline : Pipeline) (files : FileSystem) (current : Place) : Prop :=
  files.isDirectory current pipeline.config.layout.output = false ∧
    files.isDirectory current pipeline.config.layout.build = false

/-- Both directories of a run are there. -/
def Furnished (pipeline : Pipeline) (files : FileSystem) (current : Place) : Prop :=
  files.isDirectory current pipeline.config.layout.build = true ∧
    files.isDirectory current pipeline.config.layout.output = true

/-- A command is one of the two that a run may hand over, and its child starts on the files that the
command needs. -/
structure Serves (pipeline : Pipeline) (current : Place) (dealing : Dealing) : Prop where
  known : dealing.command = pipeline.buildCommand ∨ dealing.command = pipeline.runCommand
  compiler : dealing.command = pipeline.buildCommand → pipeline.config.options.clean = true →
    pipeline.Swept dealing.files current
  analyzer : dealing.command = pipeline.runCommand → pipeline.Furnished dealing.files current

variable {pipeline : Pipeline} {children : Children κ} {name : String} {path : Path}
  {scene after : Scene κ} {outcome : Except Failure Unit}

lemma serves_buildCommand {current : Place} {dealing : Dealing}
    (hcommand : dealing.command = pipeline.buildCommand)
    (h : pipeline.config.options.clean = true → pipeline.Swept dealing.files current) :
    pipeline.Serves current dealing where
  known := .inl hcommand
  compiler _ := h
  analyzer hrun := absurd (hrun.symm.trans hcommand) pipeline.runCommand_ne_buildCommand

lemma serves_runCommand {current : Place} {dealing : Dealing}
    (hcommand : dealing.command = pipeline.runCommand)
    (h : pipeline.Furnished dealing.files current) : pipeline.Serves current dealing where
  known := .inr hcommand
  compiler hbuild := absurd (hcommand.symm.trans hbuild) pipeline.runCommand_ne_buildCommand
  analyzer _ := h

/-! ## The clean stage -/

lemma Removes.current_eq (h : pipeline.Removes name path scene outcome after) :
    after.current = scene.current := by
  cases h <;> rfl

/-- A removal adds nothing, however it goes. -/
lemma Removes.within (h : pipeline.Removes name path scene outcome after) :
    after.files.Within scene.files := by
  cases h with
  | absent _ => exact FileSystem.Within.refl _
  | removed _ hremove => exact FileSystem.within_of_removeTree hremove
  | refused _ hremove => exact FileSystem.within_of_removeTree hremove

/-- After a removal that succeeded, whether there was something to remove or not. -/
lemma Removes.isDirectory_eq_false {steps : List Path.Step} {last : Name}
    (hsteps : path.steps = steps ++ [.name last])
    (h : pipeline.Removes name path scene (.ok ()) after) : after.isDirectory path = false := by
  cases h with
  | absent hthere => rwa [Scene.isDirectory_tell]
  | removed _ hremove => exact FileSystem.isDirectory_removeTree hsteps hremove

lemma Cleans.current_eq (h : pipeline.Cleans scene outcome after) :
    after.current = scene.current := by
  cases h with
  | skipped _ => rfl
  | stopped _ houtput => exact houtput.current_eq
  | went _ houtput hbuild => exact hbuild.current_eq.trans houtput.current_eq

lemma Cleans.swept (h : pipeline.Cleans scene (.ok ()) after)
    (hclean : pipeline.config.options.clean = true) :
    pipeline.Swept after.files after.current := by
  cases h with
  | skipped hskipped =>
    rw [hclean] at hskipped
    cases hskipped
  | @went midway _ _ _ houtput hbuild =>
    have hmidway : midway.isDirectory pipeline.config.layout.output = false :=
      houtput.isDirectory_eq_false pipeline.config.layout.steps_output
    rw [Scene.isDirectory, ← hbuild.current_eq] at hmidway
    exact ⟨hbuild.within.isDirectory_eq_false hmidway,
      hbuild.isDirectory_eq_false pipeline.config.layout.steps_build⟩

/-! ## The stages with commands -/

/-- Every command that was handed over between two scenes is served. -/
def ServesAll (pipeline : Pipeline) (scene after : Scene κ) : Prop :=
  after.current = scene.current ∧ ∃ dealings, after.dealings = scene.dealings ++ dealings ∧
    ∀ dealing ∈ dealings, pipeline.Serves scene.current dealing

lemma servesAll_nil (hcurrent : after.current = scene.current)
    (hdealings : after.dealings = scene.dealings) : pipeline.ServesAll scene after :=
  ⟨hcurrent, [], by rw [hdealings, List.append_nil], by simp⟩

lemma servesAll_singleton {dealing : Dealing} (hcurrent : after.current = scene.current)
    (hdealings : after.dealings = scene.dealings ++ [dealing])
    (h : pipeline.Serves scene.current dealing) : pipeline.ServesAll scene after :=
  ⟨hcurrent, [dealing], hdealings, by simpa using h⟩

lemma ServesAll.trans {midway : Scene κ} (h : pipeline.ServesAll scene midway)
    (h' : pipeline.ServesAll midway after) : pipeline.ServesAll scene after := by
  obtain ⟨hcurrent, first, hfirst, hserves⟩ := h
  obtain ⟨hcurrent', rest, hrest, hserves'⟩ := h'
  refine ⟨hcurrent'.trans hcurrent, first ++ rest, ?_, fun dealing hmem => ?_⟩
  · rw [hrest, hfirst, List.append_assoc]
  · rcases List.mem_append.1 hmem with hmem | hmem
    · exact hserves dealing hmem
    · rw [← hcurrent]
      exact hserves' dealing hmem

lemma Cleans.servesAll (h : pipeline.Cleans scene outcome after) :
    pipeline.ServesAll scene after :=
  servesAll_nil h.current_eq h.dealings_eq

/-- The compiler starts on the files that the build stage finds. -/
lemma Builds.servesAll (h : pipeline.Builds children scene outcome after)
    (hswept : pipeline.config.options.clean = true →
      pipeline.Swept scene.files scene.current) :
    pipeline.ServesAll scene after := by
  cases h with
  | skipped _ => exact servesAll_nil rfl (scene.dealings_tell _ _)
  | failed _ _ =>
    have hdealings := scene.dealings_handed_tell pipeline pipeline.startingBuild children
      pipeline.buildCommand
    exact servesAll_singleton rfl hdealings (serves_buildCommand rfl hswept)
  | succeeded _ _ =>
    have hdealings := scene.dealings_handed_tell pipeline pipeline.startingBuild children
      pipeline.buildCommand
    rw [← Scene.dealings_tell _ pipeline buildFinished] at hdealings
    exact servesAll_singleton rfl hdealings (serves_buildCommand rfl hswept)

/-- The output directory has been made, and the build directory was there before. -/
lemma furnished_prepared {files : FileSystem}
    (hbuild : scene.isDirectory pipeline.config.layout.build = true)
    (hmake : scene.files.makeDirectories scene.current pipeline.config.layout.output =
      (files, .ok ())) :
    pipeline.Furnished files scene.current := by
  have hwithin : scene.files.Within files := by
    have hmore := scene.files.makeDirectories_within scene.current pipeline.config.layout.output
    rwa [hmake] at hmore
  exact ⟨hwithin.isDirectory hbuild, FileSystem.isDirectory_makeDirectories
    pipeline.config.layout.isEmpty_output pipeline.config.layout.trimSeparators_output hmake⟩

/-- The analyzer starts on the files in which the output directory has just been made. -/
lemma Analyzes.servesAll (h : pipeline.Analyzes children scene outcome after) :
    pipeline.ServesAll scene after := by
  cases h with
  | idle _ => exact servesAll_nil rfl (scene.dealings_tell _ _)
  | missing _ _ => exact servesAll_nil rfl rfl
  | unmade _ _ _ => exact servesAll_nil rfl (pipeline.dealings_prepared scene _)
  | @failed files _ _ hbuild hmake _ =>
    have hdealings := (pipeline.prepared scene files).dealings_handed_tell pipeline
      pipeline.startingAnalyzer children pipeline.runCommand
    rw [dealings_prepared] at hdealings
    exact servesAll_singleton rfl hdealings
      (serves_runCommand rfl (furnished_prepared hbuild hmake))
  | @succeeded files _ hbuild hmake _ =>
    have hdealings := (pipeline.prepared scene files).dealings_handed_tell pipeline
      pipeline.startingAnalyzer children pipeline.runCommand
    rw [dealings_prepared, ← Scene.dealings_tell _ pipeline analyzerFinished,
      ← Scene.dealings_tell _ pipeline pipeline.outputLocation] at hdealings
    exact servesAll_singleton rfl hdealings
      (serves_runCommand rfl (furnished_prepared hbuild hmake))

/-! ## A run -/

lemma servesAll_of_takes
    (h : pipeline.Takes (Scene.host children) Stage.all scene outcome after) :
    pipeline.ServesAll scene after := by
  cases h with
  | failed hclean => exact Cleans.servesAll (goes_of_carryOut hclean)
  | passed hclean hrest =>
    have hcleans : pipeline.Cleans scene (.ok ()) _ := goes_of_carryOut hclean
    refine hcleans.servesAll.trans ?_
    cases hrest with
    | failed hbuild => exact Builds.servesAll (goes_of_carryOut hbuild) hcleans.swept
    | passed hbuild hrest =>
      refine (Builds.servesAll (goes_of_carryOut hbuild) hcleans.swept).trans ?_
      cases hrest with
      | failed hrun => exact Analyzes.servesAll (goes_of_carryOut hrun)
      | passed hrun hrest =>
        cases hrest
        exact Analyzes.servesAll (goes_of_carryOut hrun)

/-- **A run serves its children.**  Whatever the files are at the start and whatever the children
make of them, the compiler of a run that cleans starts when neither the output nor the build
directory leads to a directory, and the analyzer starts when both do. -/
theorem execute_serves_children (children : Children κ) (sink : Sink σ) (pipeline : Pipeline)
    (world : World κ σ) :
    let result := carryOut (pipeline.execute (World.host children sink)) world
    ∃ dealings, result.2.dealings = world.dealings ++ dealings ∧
      ∀ dealing ∈ dealings, pipeline.Serves world.current dealing := by
  intro result
  exact (servesAll_of_takes (takes_scene children sink pipeline world)).2

end Pipeline

end StagedRun
