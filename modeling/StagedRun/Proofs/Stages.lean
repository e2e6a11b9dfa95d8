import StagedRun.Proofs.Scene

/-!
# How stages go

Each stage has few ways to go, and the relations of this file list them: `Removes` for one
directory of the clean stage, `Cleans`, `Builds` and `Analyzes` for the stages.  A way is a
constructor.  Its premises are what the stage finds, and its conclusion is the outcome and the scene
that is left.  `Takes` puts stages in a row, up to the first that fails.

`goes_of_carryOut` and `takes_execute` say that the pipeline does go in one of these ways.  Laws
about runs in a world start from `goes_scene` and `takes_scene`, and none of them opens the definition
of a stage again.
-/

namespace StagedRun

variable {S T κ σ : Type}

/-- The failure that an answer to a command means, if it means one. -/
def ChildFailure.of? (program : ByteString) : Except SystemError Exit → Option ChildFailure
  | .error reason => some (.notStarted program reason)
  | .ok exit => if exit.succeeded then none else some (.ended program exit)

lemma ChildFailure.of?_eq_none_iff {program : ByteString} {answer : Except SystemError Exit} :
    ChildFailure.of? program answer = none ↔ answer = .ok (.exited 0) := by
  cases answer with
  | error reason => simp [ChildFailure.of?]
  | ok exit => simp [ChildFailure.of?]

namespace Pipeline

/-! ## Records -/

/-- What a record leaves in a history: nothing, unless the run is verbose. -/
def told (pipeline : Pipeline) (record : Record) : List Happening :=
  if pipeline.config.options.verbose then
    (record.chunks pipeline.colour).map fun chunk => .wrote (Text.encode chunk)
  else []

@[simp] lemma dealingsOf_told (pipeline : Pipeline) (record : Record) :
    dealingsOf (pipeline.told record) = [] := by
  unfold told
  split
  · simp [dealingsOf, List.filterMap_map, Function.comp_def, Happening.dealing?]
  · rfl

@[simp] lemma hush_told (pipeline : Pipeline) (record : Record) :
    hush (pipeline.told record) = [] := by
  unfold told
  split
  · simp [hush, Happening.isWrite]
  · rfl

end Pipeline

namespace Scene

/-- The scene after a pipeline has told something. -/
def tell (scene : Scene κ) (pipeline : Pipeline) (record : Record) : Scene κ :=
  scene.record (pipeline.told record)

@[simp] lemma files_tell (scene : Scene κ) (pipeline : Pipeline) (record : Record) :
    (scene.tell pipeline record).files = scene.files := rfl

@[simp] lemma current_tell (scene : Scene κ) (pipeline : Pipeline) (record : Record) :
    (scene.tell pipeline record).current = scene.current := rfl

@[simp] lemma dealings_tell (scene : Scene κ) (pipeline : Pipeline) (record : Record) :
    (scene.tell pipeline record).dealings = scene.dealings := by
  rw [tell, Scene.record, dealings, dealingsOf_append, Pipeline.dealingsOf_told, List.append_nil]
  rfl

/-- What a pipeline tells is forgotten where everything that was written is. -/
@[simp] lemma hushed_tell (scene : Scene κ) (pipeline : Pipeline) (record : Record) :
    (scene.tell pipeline record).hushed = scene.hushed := by
  simp only [tell, Scene.record, hushed, hush_append, Pipeline.hush_told, List.append_nil]

/-- A command that is announced and handed over. -/
lemma dealings_handed_tell (scene : Scene κ) (pipeline : Pipeline) (record : Record)
    (children : Children κ) (command : Command) :
    ((scene.tell pipeline record).handed children command).dealings =
      scene.dealings ++ [⟨command, scene.files, scene.answerTo children command⟩] := by
  rw [dealings_handed, dealings_tell]
  rfl

@[simp] lemma isDirectory_tell (scene : Scene κ) (pipeline : Pipeline) (record : Record)
    (path : Path) : (scene.tell pipeline record).isDirectory path = scene.isDirectory path := rfl

@[simp] lemma answerTo_tell (scene : Scene κ) (pipeline : Pipeline) (record : Record)
    (children : Children κ) (command : Command) :
    (scene.tell pipeline record).answerTo children command = scene.answerTo children command := rfl

lemma tell_run (children : Children κ) (colour : Colour) (record : Record) (scene : Scene κ) :
    ((host children).tell colour record).run scene =
      ((), scene.record ((record.chunks colour).map fun chunk => .wrote (Text.encode chunk))) := by
  unfold Host.tell
  generalize record.chunks colour = chunks
  induction chunks generalizing scene with
  | nil =>
    rw [List.map_nil, record_nil]
    rfl
  | cons chunk rest ih =>
    calc ((chunk :: rest).forM fun chunk => (host children).emit (Text.encode chunk)).run scene
        = (rest.forM fun chunk => (host children).emit (Text.encode chunk)).run
          (scene.record [.wrote (Text.encode chunk)]) := rfl
      _ = ((), (scene.record [.wrote (Text.encode chunk)]).record
          (rest.map fun chunk => .wrote (Text.encode chunk))) := ih _
      _ = _ := by rw [record_record]; rfl

/-! ## What the host of a scene does -/

@[simp] lemma host_isDirectory (children : Children κ) (path : Path) (scene : Scene κ) :
    ((host children).isDirectory path).run scene = (scene.isDirectory path, scene) := rfl

@[simp] lemma host_removeTree (children : Children κ) (path : Path) (scene : Scene κ) :
    ((host children).removeTree path).run scene =
      ((scene.files.removeTree scene.current path).2,
        scene.changed (scene.files.removeTree scene.current path).1) := rfl

@[simp] lemma host_makeDirectories (children : Children κ) (path : Path) (scene : Scene κ) :
    ((host children).makeDirectories path).run scene =
      ((scene.files.makeDirectories scene.current path).2,
        scene.changed (scene.files.makeDirectories scene.current path).1) := rfl

@[simp] lemma host_run (children : Children κ) (command : Command) (scene : Scene κ) :
    ((host children).run command).run scene =
      (scene.answerTo children command, scene.handed children command) := rfl

end Scene

namespace Pipeline

lemma carryOut_mention (children : Children κ) (pipeline : Pipeline) (record : Record)
    (scene : Scene κ) :
    carryOut (pipeline.mention (Scene.host children) record) scene =
      (.ok (), scene.tell pipeline record) := by
  unfold mention Scene.tell told
  split
  · rw [carryOut_lift, Scene.tell_run]
  · simp [Scene.record]

/-! ## The ways of a stage -/

/-- How the removal of a directory goes. -/
inductive Removes (pipeline : Pipeline) (name : String) (path : Path) (scene : Scene κ) :
    Except Failure Unit → Scene κ → Prop
  | absent (hthere : scene.isDirectory path = false) :
      Removes pipeline name path scene (.ok ()) (scene.tell pipeline (removing name))
  | removed {files : FileSystem} (hthere : scene.isDirectory path = true)
      (hremove : scene.files.removeTree scene.current path = (files, .ok ())) :
      Removes pipeline name path scene (.ok ())
        ((scene.tell pipeline (removing name)).changed files)
  | refused {files : FileSystem} {reason : SystemError} (hthere : scene.isDirectory path = true)
      (hremove : scene.files.removeTree scene.current path = (files, .error reason)) :
      Removes pipeline name path scene (.error (.removeDirectory name path reason))
        ((scene.tell pipeline (removing name)).changed files)

/-- How the clean stage goes. -/
inductive Cleans (pipeline : Pipeline) (scene : Scene κ) : Except Failure Unit → Scene κ → Prop
  | skipped (hclean : pipeline.config.options.clean = false) :
      Cleans pipeline scene (.ok ()) scene
  | stopped {failure : Failure} {after : Scene κ} (hclean : pipeline.config.options.clean = true)
      (houtput : pipeline.Removes Layout.outputName pipeline.config.layout.output scene
        (.error failure) after) :
      Cleans pipeline scene (.error failure) after
  | went {midway after : Scene κ} {outcome : Except Failure Unit}
      (hclean : pipeline.config.options.clean = true)
      (houtput : pipeline.Removes Layout.outputName pipeline.config.layout.output scene
        (.ok ()) midway)
      (hbuild : pipeline.Removes Layout.buildName pipeline.config.layout.build midway
        outcome after) :
      Cleans pipeline scene outcome after

/-- How the build stage goes. -/
inductive Builds (children : Children κ) (pipeline : Pipeline) (scene : Scene κ) :
    Except Failure Unit → Scene κ → Prop
  | skipped (hbuild : pipeline.config.options.build = false) :
      Builds children pipeline scene (.ok ()) (scene.tell pipeline skippingBuild)
  | failed {cause : ChildFailure} (hbuild : pipeline.config.options.build = true)
      (hanswer : ChildFailure.of? pipeline.programs.compiler
        (scene.answerTo children pipeline.buildCommand) = some cause) :
      Builds children pipeline scene (.error (.buildFailed cause))
        ((scene.tell pipeline pipeline.startingBuild).handed children pipeline.buildCommand)
  | succeeded (hbuild : pipeline.config.options.build = true)
      (hanswer : ChildFailure.of? pipeline.programs.compiler
        (scene.answerTo children pipeline.buildCommand) = none) :
      Builds children pipeline scene (.ok ())
        (((scene.tell pipeline pipeline.startingBuild).handed children
          pipeline.buildCommand).tell pipeline buildFinished)

lemma Removes.ok_or_refused {pipeline : Pipeline} {name : String} {path : Path}
    {scene after : Scene κ} {outcome : Except Failure Unit}
    (h : pipeline.Removes name path scene outcome after) :
    outcome = .ok () ∨ ∃ reason, outcome = .error (.removeDirectory name path reason) := by
  cases h with
  | absent _ => exact .inl rfl
  | removed _ _ => exact .inl rfl
  | refused _ _ => exact .inr ⟨_, rfl⟩

lemma Cleans.ok_or_refused {pipeline : Pipeline} {scene after : Scene κ}
    {outcome : Except Failure Unit} (h : pipeline.Cleans scene outcome after) :
    outcome = .ok () ∨ ∃ name path reason, outcome = .error (.removeDirectory name path reason) := by
  cases h with
  | skipped _ => exact .inl rfl
  | stopped _ houtput => exact houtput.ok_or_refused.imp id fun ⟨reason, h⟩ => ⟨_, _, reason, h⟩
  | went _ _ hbuild => exact hbuild.ok_or_refused.imp id fun ⟨reason, h⟩ => ⟨_, _, reason, h⟩

/-- The scene in which the output directory has been made. -/
def prepared (pipeline : Pipeline) (scene : Scene κ) (files : FileSystem) : Scene κ :=
  ((scene.tell pipeline creatingOutput).changed files)

/-- How the run stage goes. -/
inductive Analyzes (children : Children κ) (pipeline : Pipeline) (scene : Scene κ) :
    Except Failure Unit → Scene κ → Prop
  | idle (hinputs : pipeline.config.options.inputs = []) :
      Analyzes children pipeline scene (.ok ()) (scene.tell pipeline noInputs)
  | missing (hinputs : pipeline.config.options.inputs ≠ [])
      (hbuild : scene.isDirectory pipeline.config.layout.build = false) :
      Analyzes children pipeline scene
        (.error (.buildDirectoryMissing pipeline.config.layout.build)) scene
  | unmade {files : FileSystem} {reason : SystemError}
      (hinputs : pipeline.config.options.inputs ≠ [])
      (hbuild : scene.isDirectory pipeline.config.layout.build = true)
      (hmake : scene.files.makeDirectories scene.current pipeline.config.layout.output =
        (files, .error reason)) :
      Analyzes children pipeline scene
        (.error (.createOutputDirectory pipeline.config.layout.output reason))
        (pipeline.prepared scene files)
  | failed {files : FileSystem} {cause : ChildFailure}
      (hinputs : pipeline.config.options.inputs ≠ [])
      (hbuild : scene.isDirectory pipeline.config.layout.build = true)
      (hmake : scene.files.makeDirectories scene.current pipeline.config.layout.output =
        (files, .ok ()))
      (hanswer : ChildFailure.of? pipeline.programs.runtime
        ((pipeline.prepared scene files).answerTo children pipeline.runCommand) = some cause) :
      Analyzes children pipeline scene (.error (.analyzerFailed cause))
        (((pipeline.prepared scene files).tell pipeline pipeline.startingAnalyzer).handed children
          pipeline.runCommand)
  | succeeded {files : FileSystem}
      (hinputs : pipeline.config.options.inputs ≠ [])
      (hbuild : scene.isDirectory pipeline.config.layout.build = true)
      (hmake : scene.files.makeDirectories scene.current pipeline.config.layout.output =
        (files, .ok ()))
      (hanswer : ChildFailure.of? pipeline.programs.runtime
        ((pipeline.prepared scene files).answerTo children pipeline.runCommand) = none) :
      Analyzes children pipeline scene (.ok ())
        (((((pipeline.prepared scene files).tell pipeline pipeline.startingAnalyzer).handed children
          pipeline.runCommand).tell pipeline analyzerFinished).tell pipeline
            pipeline.outputLocation)

/-- How a stage goes. -/
def Goes (children : Children κ) (pipeline : Pipeline) (scene : Scene κ) :
    Stage → Except Failure Unit → Scene κ → Prop
  | .clean => pipeline.Cleans scene
  | .build => pipeline.Builds children scene
  | .run => pipeline.Analyzes children scene

/-! ## A stage goes in one of these ways -/

lemma removes_of_carryOut {children : Children κ} {pipeline : Pipeline} {name : String}
    {path : Path} {scene after : Scene κ} {outcome : Except Failure Unit}
    (h : carryOut (pipeline.removeDirectory (Scene.host children) name path) scene =
      (outcome, after)) :
    pipeline.Removes name path scene outcome after := by
  simp only [removeDirectory, carryOut_bind, carryOut_mention, carryOut_lift,
    Scene.host_isDirectory, Scene.isDirectory_tell] at h
  cases hthere : scene.isDirectory path with
  | false =>
    rw [hthere] at h
    obtain ⟨rfl, rfl⟩ := Prod.mk.inj h
    exact .absent hthere
  | true =>
    rcases hremove : scene.files.removeTree scene.current path with ⟨files, answer⟩
    simp only [hthere, if_true, carryOut_bind, carryOut_lift, Scene.host_removeTree,
      Scene.files_tell, Scene.current_tell, hremove] at h
    cases answer with
    | ok _ =>
      obtain ⟨rfl, rfl⟩ := Prod.mk.inj h
      exact .removed hthere hremove
    | error reason =>
      obtain ⟨rfl, rfl⟩ := Prod.mk.inj h
      exact .refused hthere hremove

lemma cleans_of_carryOut {children : Children κ} {pipeline : Pipeline} {scene after : Scene κ}
    {outcome : Except Failure Unit}
    (h : carryOut (pipeline.clean (Scene.host children)) scene = (outcome, after)) :
    pipeline.Cleans scene outcome after := by
  rw [clean] at h
  cases hclean : pipeline.config.options.clean with
  | false =>
    rw [hclean] at h
    obtain ⟨rfl, rfl⟩ := Prod.mk.inj h
    exact .skipped hclean
  | true =>
    rw [hclean, if_pos rfl, carryOut_bind] at h
    rcases hfirst : carryOut (pipeline.removeDirectory (Scene.host children) Layout.outputName
      pipeline.config.layout.output) scene with ⟨first, midway⟩
    rw [hfirst] at h
    cases first with
    | ok _ => exact .went hclean (removes_of_carryOut hfirst) (removes_of_carryOut h)
    | error failure =>
      obtain ⟨rfl, rfl⟩ := Prod.mk.inj h
      exact .stopped hclean (removes_of_carryOut hfirst)

/-- A command leaves the scene that its child leaves, and its outcome is what the answer means. -/
lemma carryOut_runCommandWith (children : Children κ) (failed : ChildFailure → Failure)
    (command : Command) (scene : Scene κ) :
    carryOut (runCommandWith (Scene.host children) failed command) scene =
      (match ChildFailure.of? command.program (scene.answerTo children command) with
        | some cause => .error (failed cause)
        | none => .ok (), scene.handed children command) := by
  simp only [runCommandWith, carryOut_bind, carryOut_lift, Scene.host_run]
  cases scene.answerTo children command with
  | error reason => rfl
  | ok exit => cases hexit : exit.succeeded <;> simp [ChildFailure.of?, hexit]

lemma builds_of_carryOut {children : Children κ} {pipeline : Pipeline} {scene after : Scene κ}
    {outcome : Except Failure Unit}
    (h : carryOut (pipeline.build (Scene.host children)) scene = (outcome, after)) :
    pipeline.Builds children scene outcome after := by
  rw [build] at h
  cases hbuild : pipeline.config.options.build with
  | false =>
    rw [hbuild, if_neg (by simp), carryOut_mention] at h
    obtain ⟨rfl, rfl⟩ := Prod.mk.inj h
    exact .skipped hbuild
  | true =>
    simp only [hbuild, if_true, carryOut_bind, carryOut_mention, carryOut_runCommandWith,
      Scene.answerTo_tell] at h
    cases hanswer : ChildFailure.of? pipeline.buildCommand.program
      (scene.answerTo children pipeline.buildCommand) with
    | some cause =>
      rw [hanswer] at h
      obtain ⟨rfl, rfl⟩ := Prod.mk.inj h
      exact .failed hbuild hanswer
    | none =>
      rw [hanswer] at h
      obtain ⟨rfl, rfl⟩ := Prod.mk.inj h
      exact .succeeded hbuild hanswer

lemma analyzes_of_carryOut {children : Children κ} {pipeline : Pipeline} {scene after : Scene κ}
    {outcome : Except Failure Unit}
    (h : carryOut (pipeline.run (Scene.host children)) scene = (outcome, after)) :
    pipeline.Analyzes children scene outcome after := by
  rw [run] at h
  by_cases hinputs : pipeline.config.options.inputs = []
  · rw [if_pos (by simp [hinputs]), carryOut_mention] at h
    obtain ⟨rfl, rfl⟩ := Prod.mk.inj h
    exact .idle hinputs
  rw [if_neg (by simp [hinputs]), carryOut_bind, carryOut_lift, Scene.host_isDirectory] at h
  cases hbuild : scene.isDirectory pipeline.config.layout.build with
  | false =>
    rw [hbuild] at h
    obtain ⟨rfl, rfl⟩ := Prod.mk.inj h
    exact .missing hinputs hbuild
  | true =>
    rcases hmake : scene.files.makeDirectories scene.current pipeline.config.layout.output with
      ⟨files, answer⟩
    simp only [hbuild, if_true, createOutput, carryOut_bind, carryOut_mention, carryOut_lift,
      Scene.host_makeDirectories, Scene.files_tell, Scene.current_tell, hmake] at h
    cases answer with
    | error reason =>
      obtain ⟨rfl, rfl⟩ := Prod.mk.inj h
      exact .unmade hinputs hbuild hmake
    | ok _ =>
      simp only [carryOut_pure, carryOut_runCommandWith, Scene.answerTo_tell] at h
      cases hanswer : ChildFailure.of? pipeline.runCommand.program
        ((pipeline.prepared scene files).answerTo children pipeline.runCommand) with
      | some cause =>
        rw [prepared] at hanswer
        rw [hanswer] at h
        obtain ⟨rfl, rfl⟩ := Prod.mk.inj h
        exact .failed hinputs hbuild hmake hanswer
      | none =>
        rw [prepared] at hanswer
        rw [hanswer] at h
        obtain ⟨rfl, rfl⟩ := Prod.mk.inj h
        exact .succeeded hinputs hbuild hmake hanswer

/-- A stage goes in one of its ways. -/
theorem goes_of_carryOut {children : Children κ} {pipeline : Pipeline} {stage : Stage}
    {scene after : Scene κ} {outcome : Except Failure Unit}
    (h : carryOut (pipeline.within (Scene.host children) stage) scene = (outcome, after)) :
    pipeline.Goes children scene stage outcome after := by
  -- Nothing but the stage itself leaves a trace on a scene.
  change carryOut (pipeline.stage (Scene.host children) stage) scene = (outcome, after) at h
  cases stage with
  | clean => exact cleans_of_carryOut h
  | build => exact builds_of_carryOut h
  | run => exact analyzes_of_carryOut h

/-! ## Stages in a row -/

/-- Stages, taken in order from a state, end in `after` with `outcome`: each stage starts where the
one before it succeeded, and the first that fails is the last. -/
inductive Takes (pipeline : Pipeline) (host : Host (StateM S)) :
    List Stage → S → Except Failure Unit → S → Prop
  | done (state : S) : Takes pipeline host [] state (.ok ()) state
  | failed {stage : Stage} {rest : List Stage} {state after : S} {failure : Failure}
      (hstage : carryOut (pipeline.within host stage) state = (.error failure, after)) :
      Takes pipeline host (stage :: rest) state (.error failure) after
  | passed {stage : Stage} {rest : List Stage} {state midway after : S}
      {outcome : Except Failure Unit}
      (hstage : carryOut (pipeline.within host stage) state = (.ok (), midway))
      (hrest : Takes pipeline host rest midway outcome after) :
      Takes pipeline host (stage :: rest) state outcome after

lemma takes_iff {pipeline : Pipeline} {host : Host (StateM S)} {stages : List Stage}
    {state after : S} {outcome : Except Failure Unit} :
    pipeline.Takes host stages state outcome after ↔
      carryOut (stages.forM (pipeline.within host)) state = (outcome, after) := by
  constructor
  · intro h
    induction h with
    | done state => rfl
    | failed hstage => rw [carryOut_forM_cons, hstage]
    | passed hstage _ ih =>
      rw [carryOut_forM_cons, hstage]
      exact ih
  · intro h
    induction stages generalizing state with
    | nil =>
      obtain ⟨rfl, rfl⟩ := Prod.mk.inj h
      exact .done state
    | cons stage rest ih =>
      rw [carryOut_forM_cons] at h
      rcases hstage : carryOut (pipeline.within host stage) state with ⟨first, midway⟩
      rw [hstage] at h
      cases first with
      | ok _ => exact .passed hstage (ih h)
      | error failure =>
        obtain ⟨rfl, rfl⟩ := Prod.mk.inj h
        exact .failed hstage

/-- A run takes all stages in a row. -/
theorem takes_execute (pipeline : Pipeline) (host : Host (StateM S)) (state : S) :
    pipeline.Takes host Stage.all state (carryOut (pipeline.execute host) state).1
      (carryOut (pipeline.execute host) state).2 :=
  takes_iff.2 rfl

lemma Takes.mirrored {view : S → T} {host : Host (StateM S)} {image : Host (StateM T)}
    (hview : Host.Mirrors view host image) {pipeline : Pipeline} {stages : List Stage}
    {state after : S} {outcome : Except Failure Unit}
    (h : pipeline.Takes host stages state outcome after) :
    pipeline.Takes image stages (view state) outcome (view after) := by
  have hwithin : ∀ {stage : Stage} {state after : S} {outcome : Except Failure Unit},
      carryOut (pipeline.within host stage) state = (outcome, after) →
        carryOut (pipeline.within image stage) (view state) = (outcome, view after) := by
    intro stage state after outcome hstage
    rw [(mirrors_within hview pipeline stage).carryOut, hstage]
  induction h with
  | done state => exact .done _
  | failed hstage => exact .failed (hwithin hstage)
  | passed hstage _ ih => exact .passed (hwithin hstage) ih

/-! ## A run in a world, seen on its scene -/

lemma carryOut_within_scene (children : Children κ) (sink : Sink σ) (pipeline : Pipeline)
    (stage : Stage) (world : World κ σ) :
    let result := carryOut (pipeline.within (World.host children sink) stage) world
    carryOut (pipeline.within (Scene.host children) stage) world.scene =
      (result.1, result.2.scene) :=
  (mirrors_within (World.mirrors_scene children sink) pipeline stage).carryOut world

theorem goes_scene (children : Children κ) (sink : Sink σ) (pipeline : Pipeline) (stage : Stage)
    (world : World κ σ) :
    let result := carryOut (pipeline.within (World.host children sink) stage) world
    pipeline.Goes children world.scene stage result.1 result.2.scene :=
  goes_of_carryOut (carryOut_within_scene children sink pipeline stage world)

theorem takes_scene (children : Children κ) (sink : Sink σ) (pipeline : Pipeline)
    (world : World κ σ) :
    let result := carryOut (pipeline.execute (World.host children sink)) world
    pipeline.Takes (Scene.host children) Stage.all world.scene result.1 result.2.scene :=
  (takes_execute pipeline (World.host children sink) world).mirrored
    (World.mirrors_scene children sink)

end Pipeline

end StagedRun
