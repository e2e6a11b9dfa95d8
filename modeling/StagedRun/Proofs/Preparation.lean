import StagedRun.Proofs.Directories
import StagedRun.Proofs.FileSystem.Beside

/-!
# What the run stage changes before its analyzer starts

The run stage makes the output directory before it starts the analyzer, and it makes directories
with all that are missing above them.  Nothing of that is left behind by a stage that stops first:
`run_prepares` says that a stage that finds no build directory, or cannot make the output directory,
leaves the file system exactly as it was and has started no child, and that the analyzer starts on
the files as they were or on these files with one directory more, which is empty and is the one that
the output path names.

It is the check for the build directory that keeps the directories above from being made.  Both
directories stand in the same directory, so when one of them is there, nothing above the other is
missing (`FileSystem.makeDirectories_beside`).

`FileSystem.Gains` is the difference of one directory.
-/

namespace StagedRun

variable {κ σ : Type}

namespace FileSystem

/-- `made` is `fs` with one directory more, at `place`, and nothing in it. -/
structure Gains (fs made : FileSystem) (place : Place) : Prop where
  free : fs.get? place = none
  there : made.get? place = some .directory
  bare : made.names place = []
  elsewhere : ∀ spot, spot ≠ place → made.get? spot = fs.get? spot
  refusal : made.refusal = fs.refusal

lemma gains_insert (fs : FileSystem) (name : Name) (above : Place)
    (directory : fs.get? above = some .directory) (free : fs.get? (name :: above) = none) :
    fs.Gains (fs.insert name above .directory directory free) (name :: above) where
  free := free
  there := by rw [get?_insert, if_pos rfl]
  bare := by
    refine List.eq_nil_iff_forall_not_mem.2 fun other hmem => ?_
    obtain ⟨entry, hentry⟩ := (mem_names _).1 hmem
    rw [get?_insert, if_neg (by simp)] at hentry
    -- An entry in the new directory would have stood in a directory before.
    have hbefore : fs.get? (name :: above) = some .directory := fs.get?_above hentry
    rw [free] at hbefore
    cases hbefore
  elsewhere spot hspot := by rw [get?_insert, if_neg hspot]
  refusal := rfl

/-- Beside a build directory, making the output directory changes nothing, or it succeeds and adds
that directory. -/
lemma makeDirectories_output {fs : FileSystem} {current : Place} {layout : Layout}
    (hbuild : fs.isDirectory current layout.build = true) :
    (fs.makeDirectories current layout.output).1 = fs ∨
      ∃ made place, fs.makeDirectories current layout.output = (made, .ok ()) ∧
        fs.Gains made place ∧ made.Names current layout.output place := by
  have hthere : fs.isDirectory current
      (layout.root.join ⟨(Path.ofString Layout.buildName).bytes⟩) = true := hbuild
  have hmake := makeDirectories_beside Layout.isPlain_outputName Layout.isPlain_buildName
    (by decide) (by decide) (by decide) hthere
  rcases hmake with hsame | ⟨above, directory, free, habove, hmade⟩
  · exact .inl hsame
  let name := (Path.ofString Layout.outputName).bytes
  let made := fs.insert name above .directory directory free
  have hmakes : fs.makeDirectories current layout.output = (made, .ok ()) := hmade
  have hthere' : made.isDirectory current layout.output = true :=
    isDirectory_makeDirectories layout.isEmpty_output layout.trimSeparators_output hmakes
  have habove' : made.LeadsInto current layout.root above :=
    habove.within (fs.within_insert name above .directory directory free)
  have hnames : made.Names current layout.output (name :: above) :=
    names_of_isDirectory Layout.isPlain_outputName hthere' habove'
  exact .inr ⟨made, name :: above, hmakes, fs.gains_insert name above directory free, hnames⟩

end FileSystem

namespace Pipeline

/-- The files on which the analyzer starts: those that the stage found, with the output directory
added if it was not there. -/
def Readies (pipeline : Pipeline) (current : Place) (before : FileSystem) (dealing : Dealing) :
    Prop :=
  dealing.command = pipeline.runCommand ∧
    (dealing.files = before ∨ ∃ place, before.Gains dealing.files place ∧
      dealing.files.Names current pipeline.config.layout.output place)

/-- How far the run stage takes the files from `before` to `after`, with the commands that it hands
over. -/
structure Prepares (pipeline : Pipeline) (current : Place) (before : FileSystem)
    (outcome : Except Failure Unit) (dealings : List Dealing) (after : FileSystem) : Prop where
  /-- A stage that stops before its analyzer leaves no trace. -/
  missing : ∀ path, outcome = .error (.buildDirectoryMissing path) →
    dealings = [] ∧ after = before
  unmade : ∀ path reason, outcome = .error (.createOutputDirectory path reason) →
    dealings = [] ∧ after = before
  started : ∀ dealing ∈ dealings, pipeline.Readies current before dealing

variable {pipeline : Pipeline} {children : Children κ} {scene after : Scene κ}
  {outcome : Except Failure Unit}

lemma readies_of_makeDirectories {files : FileSystem} {dealing : Dealing}
    (hcommand : dealing.command = pipeline.runCommand) (hfiles : dealing.files = files)
    (hbuild : scene.isDirectory pipeline.config.layout.build = true)
    (hmake : scene.files.makeDirectories scene.current pipeline.config.layout.output =
      (files, .ok ())) :
    pipeline.Readies scene.current scene.files dealing := by
  refine ⟨hcommand, ?_⟩
  rw [hfiles]
  rcases FileSystem.makeDirectories_output hbuild with hsame | ⟨made, place, hmade, hgains, hnames⟩
  · rw [hmake] at hsame
    exact .inl hsame
  · obtain ⟨rfl, _⟩ := Prod.mk.inj (hmake.symm.trans hmade)
    exact .inr ⟨place, hgains, hnames⟩

/-- A directory that cannot be made beside the build directory leaves nothing behind. -/
lemma files_eq_of_refused {files : FileSystem} {reason : SystemError}
    (hbuild : scene.isDirectory pipeline.config.layout.build = true)
    (hmake : scene.files.makeDirectories scene.current pipeline.config.layout.output =
      (files, .error reason)) :
    files = scene.files := by
  rcases FileSystem.makeDirectories_output hbuild with hsame | ⟨made, place, hmade, _, _⟩
  · rw [hmake] at hsame
    exact hsame
  · rw [hmake] at hmade
    cases (Prod.mk.inj hmade).2

lemma prepares_singleton {before : FileSystem} {current : Place} {dealing : Dealing}
    {files : FileSystem}
    (houtcome : outcome = .ok () ∨ ∃ cause, outcome = .error (.analyzerFailed cause))
    (h : pipeline.Readies current before dealing) :
    pipeline.Prepares current before outcome [dealing] files where
  missing path hmissing := by simp [hmissing] at houtcome
  unmade path reason hunmade := by simp [hunmade] at houtcome
  started other hmem := by
    rw [List.mem_singleton.1 hmem]
    exact h

lemma Analyzes.prepares (h : pipeline.Analyzes children scene outcome after) :
    ∃ dealings, after.dealings = scene.dealings ++ dealings ∧
      pipeline.Prepares scene.current scene.files outcome dealings after.files := by
  cases h with
  | idle _ =>
    refine ⟨[], by rw [Scene.dealings_tell, List.append_nil], ?_⟩
    constructor <;> simp
  | missing _ _ =>
    refine ⟨[], (List.append_nil _).symm, ?_⟩
    constructor <;> simp
  | @unmade files reason _ hbuild hmake =>
    have hfiles : (pipeline.prepared scene files).files = scene.files :=
      files_eq_of_refused hbuild hmake
    refine ⟨[], by rw [dealings_prepared, List.append_nil], ?_⟩
    constructor <;> simp [hfiles]
  | @failed files cause _ hbuild hmake _ =>
    refine ⟨_, by rw [Scene.dealings_handed_tell, dealings_prepared], ?_⟩
    exact prepares_singleton (.inr ⟨cause, rfl⟩) (readies_of_makeDirectories rfl rfl hbuild hmake)
  | @succeeded files _ hbuild hmake _ =>
    refine ⟨_, by rw [Scene.dealings_tell, Scene.dealings_tell, Scene.dealings_handed_tell,
      dealings_prepared], ?_⟩
    exact prepares_singleton (.inl rfl) (readies_of_makeDirectories rfl rfl hbuild hmake)

/-- **The run stage prepares its analyzer without a trace.**  Whatever the files are, a run stage
that finds no build directory or cannot make the output directory has started no child and leaves
the file system exactly as it was.  An analyzer starts on the files that the stage found, or on these
files with one directory more, which is empty and is the one that the output path names. -/
theorem run_prepares (children : Children κ) (sink : Sink σ) (pipeline : Pipeline)
    (world : World κ σ) :
    let result := carryOut (pipeline.run (World.host children sink)) world
    ∃ dealings, result.2.dealings = world.dealings ++ dealings ∧
      pipeline.Prepares world.current world.files result.1 dealings result.2.files := by
  intro result
  have hscene : carryOut (pipeline.run (Scene.host children)) world.scene =
      (result.1, result.2.scene) :=
    (mirrors_stage (World.mirrors_scene children sink) pipeline .run).carryOut world
  exact (analyzes_of_carryOut hscene).prepares

end Pipeline

end StagedRun
