import StagedRun.Proofs.Stages

/-!
# The commands of a run

A run has a plan: the compiler, unless its build is skipped, and the runtime with the compiled
analyzer, if there are inputs.  `Heeds` says how the commands that stages handed over, with the
answers that they got, stand to the plan and to the outcome:

* they are an initial part of the plan, and a command comes after successes only;
* a run that succeeds has handed over the whole plan, and nothing failed;
* a failure of the compiler or of the analyzer is reported if and only if the answer to that very
  command was one, and the report holds the answer.

`heeds_of_goes` is the law of one stage and `heeds_of_takes` the law of stages in a row, which keeps
it because a stage that succeeds leaves nothing of its plan undone.  `Stops` tells the order of the
stages by their failures: what was handed over before a failure is what the stages before it had
planned, and all of that succeeded.  `execute_heeds_plan` is the law of a run in a world.
-/

namespace StagedRun

variable {κ σ : Type}

namespace Dealing

/-- The child ended by itself with code zero. -/
def Succeeded (dealing : Dealing) : Prop :=
  dealing.answer = .ok (.exited 0)

/-- The answer to this command was the failure `cause`. -/
def Fails (dealing : Dealing) (command : Command) (cause : ChildFailure) : Prop :=
  dealing.command = command ∧ ChildFailure.of? command.program dealing.answer = some cause

lemma Succeeded.not_fails {dealing : Dealing} (h : dealing.Succeeded) (command : Command)
    (cause : ChildFailure) : ¬dealing.Fails command cause := by
  rintro ⟨_, hcause⟩
  rw [ChildFailure.of?_eq_none_iff.2 h] at hcause
  cases hcause

lemma fails_iff (dealing : Dealing) {cause : ChildFailure} (other : ChildFailure)
    (h : ChildFailure.of? dealing.command.program dealing.answer = some cause) :
    dealing.Fails dealing.command other ↔ cause = other := by
  simp [Fails, h]

lemma not_fails_of_ne {dealing : Dealing} {command : Command} (h : dealing.command ≠ command)
    (cause : ChildFailure) : ¬dealing.Fails command cause :=
  fun hfails => h hfails.1

end Dealing

namespace Pipeline

/-! ## Plans -/

/-- What a run is to hand to its children: the compiler without arguments, and the runtime with the
compiled analyzer, the output directory and the inputs as they were given. -/
def plan (pipeline : Pipeline) : List Command :=
  let config := pipeline.config
  (if config.options.build then [⟨pipeline.programs.compiler, []⟩] else []) ++
    if config.options.inputs = [] then []
    else [⟨pipeline.programs.runtime, (config.layout.build.join (.ofString Config.entryName)).bytes ::
      config.layout.output.bytes :: config.options.inputs⟩]

/-- The part of the plan that a stage hands over. -/
def planOf (pipeline : Pipeline) : Stage → List Command
  | .clean => []
  | .build => if pipeline.config.options.build then [pipeline.buildCommand] else []
  | .run => if pipeline.config.options.inputs = [] then [] else [pipeline.runCommand]

lemma flatMap_planOf (pipeline : Pipeline) : Stage.all.flatMap pipeline.planOf = pipeline.plan := by
  simp only [Stage.all, List.flatMap_cons, List.flatMap_nil, planOf, List.nil_append,
    List.append_nil]
  rfl

lemma runCommand_ne_buildCommand (pipeline : Pipeline) :
    pipeline.runCommand ≠ pipeline.buildCommand := by
  intro h
  have harguments := congrArg Command.arguments h
  cases harguments

/-- The commands that `stages` handed over, with their answers, stand to the plan and to the outcome
as they should. -/
structure Heeds (pipeline : Pipeline) (stages : List Stage) (outcome : Except Failure Unit)
    (dealings : List Dealing) : Prop where
  handed : dealings.map Dealing.command <+: stages.flatMap pipeline.planOf
  cautious : ∀ dealing ∈ dealings.dropLast, dealing.Succeeded
  finished : outcome = .ok () →
    dealings.map Dealing.command = stages.flatMap pipeline.planOf ∧
      ∀ dealing ∈ dealings, dealing.Succeeded
  stopped : Stage.clean ∉ stages → outcome ≠ .ok () →
    ¬(dealings.map Dealing.command = stages.flatMap pipeline.planOf ∧
      ∀ dealing ∈ dealings, dealing.Succeeded)
  build : ∀ cause, outcome = .error (.buildFailed cause) ↔
    ∃ dealing ∈ dealings, dealing.Fails pipeline.buildCommand cause
  analyzer : ∀ cause, outcome = .error (.analyzerFailed cause) ↔
    ∃ dealing ∈ dealings, dealing.Fails pipeline.runCommand cause

/-! ## One stage -/

variable {pipeline : Pipeline} {children : Children κ} {stage : Stage} {stages : List Stage}
  {scene after : Scene κ} {outcome : Except Failure Unit}

/-- Nothing is handed over: a failure is then none of a child. -/
lemma heeds_nil (hfinished : outcome = .ok () → pipeline.planOf stage = [])
    (hstopped : stage ≠ .clean → outcome ≠ .ok () → pipeline.planOf stage ≠ [])
    (hbuild : ∀ cause, outcome ≠ .error (.buildFailed cause))
    (hanalyzer : ∀ cause, outcome ≠ .error (.analyzerFailed cause)) :
    pipeline.Heeds [stage] outcome [] where
  handed := List.nil_prefix
  cautious := by simp
  finished houtcome := by simp [hfinished houtcome]
  stopped hclean houtcome hall := by
    refine hstopped ?_ houtcome ?_
    · rintro rfl
      exact hclean (List.mem_singleton_self _)
    · simpa using hall.1.symm
  build cause := by simp [hbuild cause]
  analyzer cause := by simp [hanalyzer cause]

/-- The one command of a stage is handed over, and its answer decides. -/
lemma heeds_singleton {dealing : Dealing} (hplan : pipeline.planOf stage = [dealing.command])
    (houtcome : outcome = .ok () ↔ dealing.Succeeded)
    (hbuild : ∀ cause, outcome = .error (.buildFailed cause) ↔
      dealing.Fails pipeline.buildCommand cause)
    (hanalyzer : ∀ cause, outcome = .error (.analyzerFailed cause) ↔
      dealing.Fails pipeline.runCommand cause) :
    pipeline.Heeds [stage] outcome [dealing] where
  handed := by simp [hplan]
  cautious := by simp
  finished h := by simp [hplan, houtcome.1 h]
  stopped _ h hall := h (houtcome.2 (hall.2 dealing (List.mem_singleton_self _)))
  build cause := by simp [hbuild cause]
  analyzer cause := by simp [hanalyzer cause]

lemma heeds_succeeded {dealing : Dealing} (hplan : pipeline.planOf stage = [dealing.command])
    (h : dealing.Succeeded) : pipeline.Heeds [stage] (.ok ()) [dealing] := by
  refine heeds_singleton hplan (by simp [h]) (fun cause => ?_) fun cause => ?_
  · simpa using h.not_fails pipeline.buildCommand cause
  · simpa using h.not_fails pipeline.runCommand cause

lemma heeds_failed {dealing : Dealing} {cause : ChildFailure} {failure : Failure}
    (hplan : pipeline.planOf stage = [dealing.command])
    (hcause : ChildFailure.of? dealing.command.program dealing.answer = some cause)
    (hfailure : failure = .buildFailed cause ∧ dealing.command = pipeline.buildCommand ∨
      failure = .analyzerFailed cause ∧ dealing.command = pipeline.runCommand) :
    pipeline.Heeds [stage] (.error failure) [dealing] := by
  have hfails := (dealing.fails_iff cause hcause).2 rfl
  have hsucceeded : ¬dealing.Succeeded := fun h => h.not_fails _ _ hfails
  have hne := pipeline.runCommand_ne_buildCommand
  refine heeds_singleton hplan (by simp [hsucceeded]) (fun other => ?_) fun other => ?_
  · obtain ⟨rfl, hcommand⟩ | ⟨rfl, hcommand⟩ := hfailure
    · rw [← hcommand, dealing.fails_iff other hcause]
      simp
    · rw [← hcommand] at hne
      simpa using Dealing.not_fails_of_ne hne other
  · obtain ⟨rfl, hcommand⟩ | ⟨rfl, hcommand⟩ := hfailure
    · rw [← hcommand] at hne
      simpa using Dealing.not_fails_of_ne hne.symm other
    · rw [← hcommand, dealing.fails_iff other hcause]
      simp

lemma Removes.dealings_eq {name : String} {path : Path}
    (h : pipeline.Removes name path scene outcome after) : after.dealings = scene.dealings := by
  cases h with
  | absent _ => exact scene.dealings_tell _ _
  | removed _ _ => rw [Scene.dealings_changed, Scene.dealings_tell]
  | refused _ _ => rw [Scene.dealings_changed, Scene.dealings_tell]

lemma Cleans.dealings_eq (h : pipeline.Cleans scene outcome after) :
    after.dealings = scene.dealings := by
  cases h with
  | skipped _ => rfl
  | stopped _ houtput => exact houtput.dealings_eq
  | went _ houtput hbuild => exact hbuild.dealings_eq.trans houtput.dealings_eq

lemma Builds.dealings_eq (hbuild : pipeline.config.options.build = true)
    (h : pipeline.Builds children scene outcome after) :
    after.dealings = scene.dealings ++
      [⟨pipeline.buildCommand, scene.files, scene.answerTo children pipeline.buildCommand⟩] := by
  cases h with
  | skipped hskipped =>
    rw [hbuild] at hskipped
    cases hskipped
  | failed _ _ => exact scene.dealings_handed_tell _ _ _ _
  | succeeded _ _ => rw [Scene.dealings_tell, Scene.dealings_handed_tell]

lemma heeds_of_cleans (h : pipeline.Cleans scene outcome after) :
    pipeline.Heeds [.clean] outcome [] := by
  have houtcome := h.ok_or_refused
  refine heeds_nil (fun _ => rfl) (fun hclean => absurd rfl hclean) ?_ ?_
  · rintro cause rfl
    simp at houtcome
  · rintro cause rfl
    simp at houtcome

lemma heeds_of_builds (h : pipeline.Builds children scene outcome after) :
    ∃ dealings, after.dealings = scene.dealings ++ dealings ∧
      pipeline.Heeds [.build] outcome dealings := by
  cases h with
  | skipped hbuild =>
    have hplan : pipeline.planOf .build = [] := by simp [planOf, hbuild]
    have hheeds : pipeline.Heeds [.build] (.ok ()) [] :=
      heeds_nil (fun _ => hplan) (fun _ hok => absurd rfl hok) (by simp) (by simp)
    exact ⟨[], by simp, hheeds⟩
  | failed hbuild hanswer =>
    have hplan : pipeline.planOf .build = [pipeline.buildCommand] := by simp [planOf, hbuild]
    refine ⟨_, (Builds.failed hbuild hanswer).dealings_eq hbuild, ?_⟩
    exact heeds_failed hplan hanswer (.inl ⟨rfl, rfl⟩)
  | succeeded hbuild hanswer =>
    have hplan : pipeline.planOf .build = [pipeline.buildCommand] := by simp [planOf, hbuild]
    refine ⟨_, (Builds.succeeded hbuild hanswer).dealings_eq hbuild, ?_⟩
    exact heeds_succeeded hplan (ChildFailure.of?_eq_none_iff.1 hanswer)

lemma dealings_prepared (pipeline : Pipeline) (scene : Scene κ) (files : FileSystem) :
    (pipeline.prepared scene files).dealings = scene.dealings := by
  rw [prepared, Scene.dealings_changed, Scene.dealings_tell]

lemma heeds_of_analyzes (h : pipeline.Analyzes children scene outcome after) :
    ∃ dealings, after.dealings = scene.dealings ++ dealings ∧
      pipeline.Heeds [.run] outcome dealings := by
  have hplan (hinputs : pipeline.config.options.inputs ≠ []) :
      pipeline.planOf .run = [pipeline.runCommand] := by simp [planOf, hinputs]
  cases h with
  | idle hinputs =>
    have hnone : pipeline.planOf .run = [] := by simp [planOf, hinputs]
    have hheeds : pipeline.Heeds [.run] (.ok ()) [] :=
      heeds_nil (fun _ => hnone) (fun _ hok => absurd rfl hok) (by simp) (by simp)
    exact ⟨[], by simp, hheeds⟩
  | missing hinputs hbuild =>
    have hsome : pipeline.planOf .run ≠ [] := by simp [hplan hinputs]
    exact ⟨[], by simp, heeds_nil (by simp) (fun _ _ => hsome) (by simp) (by simp)⟩
  | unmade hinputs hbuild hmake =>
    have hsome : pipeline.planOf .run ≠ [] := by simp [hplan hinputs]
    refine ⟨[], by rw [dealings_prepared, List.append_nil], ?_⟩
    exact heeds_nil (by simp) (fun _ _ => hsome) (by simp) (by simp)
  | failed hinputs hbuild hmake hanswer =>
    refine ⟨_, by rw [Scene.dealings_handed_tell, dealings_prepared], ?_⟩
    exact heeds_failed (hplan hinputs) hanswer (.inr ⟨rfl, rfl⟩)
  | succeeded hinputs hbuild hmake hanswer =>
    refine ⟨_, by rw [Scene.dealings_tell, Scene.dealings_tell, Scene.dealings_handed_tell,
      dealings_prepared], ?_⟩
    exact heeds_succeeded (hplan hinputs) (ChildFailure.of?_eq_none_iff.1 hanswer)

lemma heeds_of_goes (h : pipeline.Goes children scene stage outcome after) :
    ∃ dealings, after.dealings = scene.dealings ++ dealings ∧
      pipeline.Heeds [stage] outcome dealings := by
  cases stage with
  | clean =>
    have hclean : pipeline.Cleans scene outcome after := h
    exact ⟨[], by simpa using hclean.dealings_eq, heeds_of_cleans hclean⟩
  | build => exact heeds_of_builds h
  | run => exact heeds_of_analyzes h

/-! ## Stages in a row -/

/-- A stage that succeeds leaves nothing of its plan undone, so what holds of the stages after it
holds from it on. -/
lemma Heeds.append {first rest : List Dealing} (h : pipeline.Heeds [stage] (.ok ()) first)
    (hrest : pipeline.Heeds stages outcome rest) :
    pipeline.Heeds (stage :: stages) outcome (first ++ rest) := by
  obtain ⟨hfirst, hsucceeded⟩ := h.finished rfl
  have hplan : (stage :: stages).flatMap pipeline.planOf =
      first.map Dealing.command ++ stages.flatMap pipeline.planOf := by
    rw [hfirst, List.flatMap_cons, List.flatMap_cons, List.flatMap_nil, List.append_nil]
  have hfails (command : Command) (cause : ChildFailure) :
      (∃ dealing ∈ first ++ rest, dealing.Fails command cause) ↔
        ∃ dealing ∈ rest, dealing.Fails command cause := by
    constructor
    · rintro ⟨dealing, hmem, hfails⟩
      rcases List.mem_append.1 hmem with hmem | hmem
      · exact absurd hfails ((hsucceeded dealing hmem).not_fails command cause)
      · exact ⟨dealing, hmem, hfails⟩
    · rintro ⟨dealing, hmem, hfails⟩
      exact ⟨dealing, List.mem_append_right _ hmem, hfails⟩
  constructor
  case handed =>
    rw [hplan, List.map_append]
    exact (List.prefix_append_right_inj _).2 hrest.handed
  case cautious =>
    intro dealing hmem
    rcases rest.eq_nil_or_concat with rfl | ⟨_, _, rfl⟩
    · rw [List.append_nil] at hmem
      exact hsucceeded dealing (List.dropLast_subset _ hmem)
    · rw [List.dropLast_append_of_ne_nil (by simp)] at hmem
      rcases List.mem_append.1 hmem with hmem | hmem
      · exact hsucceeded dealing hmem
      · exact hrest.cautious dealing hmem
  case finished =>
    intro houtcome
    obtain ⟨hcommands, hall⟩ := hrest.finished houtcome
    refine ⟨by rw [hplan, List.map_append, hcommands], fun dealing hmem => ?_⟩
    exact (List.mem_append.1 hmem).elim (hsucceeded dealing) (hall dealing)
  case stopped =>
    rintro hclean houtcome ⟨hcommands, hall⟩
    rw [hplan, List.map_append, List.append_cancel_left_eq] at hcommands
    refine hrest.stopped (fun h => hclean (List.mem_cons_of_mem _ h)) houtcome ⟨hcommands, ?_⟩
    exact fun dealing hmem => hall dealing (List.mem_append_right _ hmem)
  case build => exact fun cause => (hrest.build cause).trans (hfails _ cause).symm
  case analyzer => exact fun cause => (hrest.analyzer cause).trans (hfails _ cause).symm

/-- A stage that fails is the last. -/
lemma Heeds.cut {failure : Failure} {dealings : List Dealing}
    (h : pipeline.Heeds [stage] (.error failure) dealings) (stages : List Stage) :
    pipeline.Heeds (stage :: stages) (.error failure) dealings := by
  have hplan : (stage :: stages).flatMap pipeline.planOf =
      [stage].flatMap pipeline.planOf ++ stages.flatMap pipeline.planOf := by
    rw [← List.flatMap_append, List.singleton_append]
  constructor
  case handed =>
    rw [hplan]
    exact h.handed.trans (List.prefix_append _ _)
  case cautious => exact h.cautious
  case finished => exact nofun
  case stopped =>
    rintro hclean houtcome ⟨hcommands, hall⟩
    refine h.stopped (fun h => hclean ?_) houtcome ⟨?_, hall⟩
    · rw [List.mem_singleton.1 h]
      exact List.mem_cons_self
    · -- The whole plan was handed over, so nothing of it was left to the stages after this one.
      rw [hplan] at hcommands
      exact h.handed.eq_of_length_le (by rw [hcommands, List.length_append]; omega)
  case build => exact h.build
  case analyzer => exact h.analyzer

lemma heeds_of_takes (h : pipeline.Takes (Scene.host children) stages scene outcome after) :
    ∃ dealings, after.dealings = scene.dealings ++ dealings ∧
      pipeline.Heeds stages outcome dealings := by
  induction h with
  | done scene =>
    refine ⟨[], by simp, ?_⟩
    constructor <;> simp
  | @failed stage rest _ _ _ hstage =>
    obtain ⟨dealings, hdealings, hheeds⟩ := heeds_of_goes (goes_of_carryOut hstage)
    exact ⟨dealings, hdealings, hheeds.cut rest⟩
  | passed hstage _ ih =>
    obtain ⟨first, hfirst, hheeds⟩ := heeds_of_goes (goes_of_carryOut hstage)
    obtain ⟨rest, hrest, hheeds'⟩ := ih
    exact ⟨first ++ rest, by rw [hrest, hfirst, List.append_assoc], hheeds.append hheeds'⟩

/-- If the clean stage succeeded, a run that handed over its whole plan without a failure
succeeded: only a stage with a plan can fail then, and it would have left a part of it undone. -/
lemma ok_of_finished (h : pipeline.Takes (Scene.host children) Stage.all scene outcome after)
    (hclean : (carryOut (pipeline.within (Scene.host children) .clean) scene).1 = .ok ())
    {dealings : List Dealing} (hdealings : after.dealings = scene.dealings ++ dealings)
    (hcommands : dealings.map Dealing.command = pipeline.plan)
    (hall : ∀ dealing ∈ dealings, dealing.Succeeded) : outcome = .ok () := by
  cases h with
  | failed hstage =>
    rw [hstage] at hclean
    cases hclean
  | @passed _ _ _ midway _ _ hstage hrest =>
    obtain ⟨rest, hrestDealings, hheeds⟩ := heeds_of_takes hrest
    have hmidway : midway.dealings = scene.dealings :=
      Cleans.dealings_eq (goes_of_carryOut hstage)
    have hsame : rest = dealings := by
      rw [hrestDealings, hmidway] at hdealings
      exact List.append_cancel_left hdealings
    subst hsame
    cases outcome with
    | ok _ => rfl
    | error failure =>
      have hplan : rest.map Dealing.command = [Stage.build, .run].flatMap pipeline.planOf := by
        rw [hcommands, ← flatMap_planOf]
        rfl
      exact absurd ⟨hplan, hall⟩ (hheeds.stopped (by simp) nofun)

/-! ## Where a run stops -/

/-- The build stage was skipped, or it ran the compiler to success. -/
def Built (pipeline : Pipeline) (dealings : List Dealing) : Prop :=
  dealings.map Dealing.command = pipeline.planOf .build ∧ ∀ dealing ∈ dealings, dealing.Succeeded

/-- Which commands a run has handed over when it ends with a failure. -/
inductive Stops (pipeline : Pipeline) : Failure → List Dealing → Prop
  /-- The clean stage failed, and nothing was handed over. -/
  | clean {name : String} {path : Path} {reason : SystemError}
      (hpath : name = Layout.outputName ∧ path = pipeline.config.layout.output ∨
        name = Layout.buildName ∧ path = pipeline.config.layout.build) :
      Stops pipeline (.removeDirectory name path reason) []
  /-- The build stage failed, and nothing but the compiler was handed over. -/
  | build {cause : ChildFailure} {dealing : Dealing}
      (hfails : dealing.Fails pipeline.buildCommand cause) :
      Stops pipeline (.buildFailed cause) [dealing]
  /-- The run stage failed before its command, because of the build directory. -/
  | missing {dealings : List Dealing} (hbuilt : pipeline.Built dealings) :
      Stops pipeline (.buildDirectoryMissing pipeline.config.layout.build) dealings
  /-- The run stage failed before its command, because of the output directory. -/
  | unmade {reason : SystemError} {dealings : List Dealing} (hbuilt : pipeline.Built dealings) :
      Stops pipeline (.createOutputDirectory pipeline.config.layout.output reason) dealings
  /-- The run stage failed with its command. -/
  | analyzer {cause : ChildFailure} {dealings : List Dealing} {dealing : Dealing}
      (hbuilt : pipeline.Built dealings) (hfails : dealing.Fails pipeline.runCommand cause) :
      Stops pipeline (.analyzerFailed cause) (dealings ++ [dealing])

variable {failure : Failure}

lemma stops_of_cleans (h : pipeline.Cleans scene (.error failure) after) :
    pipeline.Stops failure [] := by
  have hremoves {name : String} {path : Path} {scene after : Scene κ}
      (h : pipeline.Removes name path scene (.error failure) after) :
      ∃ reason, failure = .removeDirectory name path reason := by
    obtain hok | ⟨reason, hrefused⟩ := h.ok_or_refused
    · cases hok
    · exact ⟨reason, Except.error.inj hrefused⟩
  cases h with
  | stopped _ houtput =>
    obtain ⟨reason, rfl⟩ := hremoves houtput
    exact .clean (.inl ⟨rfl, rfl⟩)
  | went _ _ hbuild =>
    obtain ⟨reason, rfl⟩ := hremoves hbuild
    exact .clean (.inr ⟨rfl, rfl⟩)

lemma stops_of_builds (h : pipeline.Builds children scene (.error failure) after) :
    ∃ dealings, after.dealings = scene.dealings ++ dealings ∧ pipeline.Stops failure dealings := by
  cases h with
  | failed hbuild hanswer =>
    exact ⟨_, (Builds.failed hbuild hanswer).dealings_eq hbuild, .build ⟨rfl, hanswer⟩⟩

/-- The run stage comes after a build stage that succeeded. -/
lemma stops_of_analyzes {built : List Dealing} (hbuilt : pipeline.Built built)
    (h : pipeline.Analyzes children scene (.error failure) after) :
    ∃ dealings, after.dealings = scene.dealings ++ dealings ∧
      pipeline.Stops failure (built ++ dealings) := by
  cases h with
  | missing _ _ =>
    refine ⟨[], (List.append_nil _).symm, ?_⟩
    rw [List.append_nil]
    exact .missing hbuilt
  | unmade _ _ _ =>
    refine ⟨[], by rw [dealings_prepared, List.append_nil], ?_⟩
    rw [List.append_nil]
    exact .unmade hbuilt
  | failed _ _ _ hanswer =>
    refine ⟨_, by rw [Scene.dealings_handed_tell, dealings_prepared], ?_⟩
    exact .analyzer hbuilt ⟨rfl, hanswer⟩

lemma stops_of_takes
    (h : pipeline.Takes (Scene.host children) Stage.all scene (.error failure) after) :
    ∃ dealings, after.dealings = scene.dealings ++ dealings ∧ pipeline.Stops failure dealings := by
  cases h with
  | failed hstage =>
    have hcleans : pipeline.Cleans scene (.error failure) after := goes_of_carryOut hstage
    exact ⟨[], by rw [hcleans.dealings_eq, List.append_nil], stops_of_cleans hcleans⟩
  | @passed _ _ _ midway _ _ hstage hrest =>
    have hcleaned : midway.dealings = scene.dealings :=
      Cleans.dealings_eq (goes_of_carryOut hstage)
    rw [← hcleaned]
    cases hrest with
    | failed hstage => exact stops_of_builds (goes_of_carryOut hstage)
    | passed hstage hrest =>
      obtain ⟨built, hdealings, hheeds⟩ := heeds_of_builds (goes_of_carryOut hstage)
      have hbuilt : pipeline.Built built := by
        simpa [Built] using hheeds.finished rfl
      cases hrest with
      | failed hstage =>
        obtain ⟨dealings, hrun, hstops⟩ := stops_of_analyzes hbuilt (goes_of_carryOut hstage)
        exact ⟨built ++ dealings, by rw [hrun, hdealings, List.append_assoc], hstops⟩
      | passed _ hnone => cases hnone

/-- The only places that a run can fail over are the two directories that it works on. -/
lemma Stops.path_eq {dealings : List Dealing} {path : Path} (h : pipeline.Stops failure dealings)
    (hpath : failure.path? = some path) :
    path = pipeline.config.layout.output ∨ path = pipeline.config.layout.build := by
  cases h with
  | clean hremoved =>
    obtain rfl := Option.some.inj hpath
    exact hremoved.imp And.right And.right
  | build _ | analyzer _ _ => cases hpath
  | missing _ => exact .inr (Option.some.inj hpath).symm
  | unmade _ => exact .inl (Option.some.inj hpath).symm

/-! ## A run in a world -/

/-- A run that succeeds has handed over its whole plan. -/
lemma commands_execute {sink : Sink σ} {world : World κ σ}
    (hok : (carryOut (pipeline.execute (World.host children sink)) world).1 = .ok ()) :
    (carryOut (pipeline.execute (World.host children sink)) world).2.commands =
      world.commands ++ pipeline.plan := by
  have htakes : pipeline.Takes (Scene.host children) Stage.all world.scene (.ok ())
      (carryOut (pipeline.execute (World.host children sink)) world).2.scene := by
    rw [← hok]
    exact takes_scene children sink pipeline world
  obtain ⟨dealings, hdealings, hheeds⟩ := heeds_of_takes htakes
  rw [← flatMap_planOf, ← (hheeds.finished rfl).1, World.commands_eq_map_dealings,
    World.commands_eq_map_dealings, ← List.map_append]
  exact congrArg _ hdealings

/-- A run that fails over a path names one of its own two directories. -/
theorem execute_path_eq {sink : Sink σ} {world : World κ σ} {path : Path}
    (hfailed : (carryOut (pipeline.execute (World.host children sink)) world).1 = .error failure)
    (hpath : failure.path? = some path) :
    path = pipeline.config.layout.output ∨ path = pipeline.config.layout.build := by
  have htakes : pipeline.Takes (Scene.host children) Stage.all world.scene (.error failure)
      (carryOut (pipeline.execute (World.host children sink)) world).2.scene := by
    rw [← hfailed]
    exact takes_scene children sink pipeline world
  obtain ⟨_, _, hstops⟩ := stops_of_takes htakes
  exact hstops.path_eq hpath

/-- **A run heeds its plan.**  Whatever the children do to the files and whatever they answer, the
commands that a run hands over are an initial part of its plan, each of them after successes only.
The run succeeds if and only if its clean stage does and the whole plan is handed over without a
failure.  Otherwise the outcome is the failure of the first stage that fails, and a failure of the
compiler or of the analyzer holds what was answered to that command, and is the outcome whenever
that answer was a failure.  The failures keep the order of the stages: each tells which part of the
plan was carried out before it. -/
theorem execute_heeds_plan (children : Children κ) (sink : Sink σ) (pipeline : Pipeline)
    (world : World κ σ) :
    let host := World.host children sink
    let result := carryOut (pipeline.execute host) world
    ∃ dealings, result.2.dealings = world.dealings ++ dealings ∧
      result.2.commands = world.commands ++ dealings.map Dealing.command ∧
      dealings.map Dealing.command <+: pipeline.plan ∧
      (∀ dealing ∈ dealings.dropLast, dealing.Succeeded) ∧
      (result.1 = .ok () ↔ (carryOut (pipeline.within host .clean) world).1 = .ok () ∧
        dealings.map Dealing.command = pipeline.plan ∧ ∀ dealing ∈ dealings, dealing.Succeeded) ∧
      pipeline.Takes host Stage.all world result.1 result.2 ∧
      (∀ cause, result.1 = .error (.buildFailed cause) ↔
        ∃ dealing ∈ dealings, dealing.Fails pipeline.buildCommand cause) ∧
      (∀ cause, result.1 = .error (.analyzerFailed cause) ↔
        ∃ dealing ∈ dealings, dealing.Fails pipeline.runCommand cause) ∧
      ∀ failure, result.1 = .error failure → pipeline.Stops failure dealings := by
  intro host result
  have htakes : pipeline.Takes host Stage.all world result.1 result.2 :=
    takes_execute pipeline host world
  have hscene : pipeline.Takes (Scene.host children) Stage.all world.scene result.1
      result.2.scene := takes_scene children sink pipeline world
  have hclean := carryOut_within_scene children sink pipeline .clean world
  obtain ⟨dealings, hdealings, hheeds⟩ := heeds_of_takes hscene
  have hcommands : result.2.commands = world.commands ++ dealings.map Dealing.command := by
    rw [World.commands_eq_map_dealings, World.commands_eq_map_dealings, ← List.map_append]
    exact congrArg _ hdealings
  refine ⟨dealings, hdealings, hcommands, ?_, hheeds.cautious, ⟨?_, ?_⟩, htakes, hheeds.build,
    hheeds.analyzer, ?_⟩
  · rw [← flatMap_planOf]
    exact hheeds.handed
  · intro hok
    rw [← flatMap_planOf]
    refine ⟨?_, hheeds.finished hok⟩
    rw [hok] at htakes
    cases htakes with
    | passed hstage _ => rw [hstage]
  · rintro ⟨hok, hplan, hall⟩
    exact ok_of_finished hscene (by rw [hclean]; exact hok) hdealings hplan hall
  · intro failure hfailure
    rw [hfailure] at hscene
    obtain ⟨others, hothers, hstops⟩ := stops_of_takes hscene
    obtain rfl : others = dealings := List.append_cancel_left (hothers.symm.trans hdealings)
    exact hstops

end Pipeline

end StagedRun
