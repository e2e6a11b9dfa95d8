import StagedRun.Proofs.CarryOut

/-!
# Pipelines on mirrored hosts

A host mirrors another one when each of its services does.  A pipeline uses a host through these
services only, so every step, every stage and the whole run are then mirrored as well
(`Pipeline.mirrors_execute`).
-/

namespace StagedRun

variable {S T : Type}

/-- Every service of `image` mirrors the service of `host`. -/
structure Host.Mirrors (view : S → T) (host : Host (StateM S)) (image : Host (StateM T)) : Prop where
  isDirectory : ∀ path, StagedRun.Mirrors view (host.isDirectory path) (image.isDirectory path)
  removeTree : ∀ path, StagedRun.Mirrors view (host.removeTree path) (image.removeTree path)
  makeDirectories : ∀ path,
    StagedRun.Mirrors view (host.makeDirectories path) (image.makeDirectories path)
  run : ∀ command, StagedRun.Mirrors view (host.run command) (image.run command)
  emit : ∀ bytes, StagedRun.Mirrors view (host.emit bytes) (image.emit bytes)
  note : ∀ diagnostic, StagedRun.Mirrors view (host.note diagnostic) (image.note diagnostic)
  enter : ∀ stage, StagedRun.Mirrors view (host.enter stage) (image.enter stage)
  leave : StagedRun.Mirrors view host.leave image.leave

namespace Pipeline

variable {view : S → T} {host : Host (StateM S)} {image : Host (StateM T)}

lemma mirrors_tell (h : Host.Mirrors view host image) (colour : Colour) (record : Record) :
    Mirrors view (host.tell colour record) (image.tell colour record) := by
  unfold Host.tell
  induction record.chunks colour with
  | nil => exact Mirrors.of_pure view ()
  | cons chunk rest ih => exact (h.emit _).bind fun _ => ih

lemma mirrors_mention (h : Host.Mirrors view host image) (pipeline : Pipeline) (record : Record) :
    Mirrors view (pipeline.mention host record).run (pipeline.mention image record).run :=
  (mirrors_tell h _ record).lift.ite (Mirrors.except_pure view ())

lemma mirrors_removeDirectory (h : Host.Mirrors view host image) (pipeline : Pipeline)
    (name : String) (path : Path) :
    Mirrors view (pipeline.removeDirectory host name path).run
      (pipeline.removeDirectory image name path).run := by
  refine (mirrors_mention h pipeline _).except_bind fun _ => ?_
  refine (h.isDirectory path).lift.except_bind fun there => ?_
  refine Mirrors.ite ?_ (h.note _).lift
  refine (h.removeTree path).lift.except_bind fun answer => ?_
  cases answer with
  | ok _ => exact (h.note _).lift
  | error reason => exact Mirrors.except_throw view _

lemma mirrors_runCommandWith (h : Host.Mirrors view host image)
    (failed : ChildFailure → Failure) (command : Command) :
    Mirrors view (runCommandWith host failed command).run
      (runCommandWith image failed command).run := by
  refine (h.run command).lift.except_bind fun answer => ?_
  cases answer with
  | error reason => exact Mirrors.except_throw view _
  | ok exit => exact (Mirrors.except_pure view ()).ite (Mirrors.except_throw view _)

lemma mirrors_createOutput (h : Host.Mirrors view host image) (pipeline : Pipeline) :
    Mirrors view (pipeline.createOutput host).run (pipeline.createOutput image).run := by
  refine (mirrors_mention h pipeline _).except_bind fun _ => ?_
  refine (h.makeDirectories _).lift.except_bind fun answer => ?_
  cases answer with
  | ok _ => exact Mirrors.except_pure view ()
  | error reason => exact Mirrors.except_throw view _

lemma mirrors_stage (h : Host.Mirrors view host image) (pipeline : Pipeline) (stage : Stage) :
    Mirrors view (pipeline.stage host stage).run (pipeline.stage image stage).run := by
  cases stage with
  | clean =>
    refine Mirrors.ite ?_ (Mirrors.except_pure view ())
    exact (mirrors_removeDirectory h pipeline _ _).except_bind fun _ =>
      mirrors_removeDirectory h pipeline _ _
  | build =>
    refine Mirrors.ite ?_ (mirrors_mention h pipeline _)
    refine (mirrors_mention h pipeline _).except_bind fun _ => ?_
    refine (mirrors_runCommandWith h _ _).except_bind fun _ => ?_
    exact mirrors_mention h pipeline _
  | run =>
    refine Mirrors.ite (mirrors_mention h pipeline _) ?_
    refine (h.isDirectory _).lift.except_bind fun there => ?_
    refine Mirrors.ite ?_ (Mirrors.except_throw view _)
    refine (mirrors_createOutput h pipeline).except_bind fun _ => ?_
    refine (mirrors_mention h pipeline _).except_bind fun _ => ?_
    refine (mirrors_runCommandWith h _ _).except_bind fun _ => ?_
    refine (mirrors_mention h pipeline _).except_bind fun _ => ?_
    exact mirrors_mention h pipeline _

lemma mirrors_within (h : Host.Mirrors view host image) (pipeline : Pipeline) (stage : Stage) :
    Mirrors view (pipeline.within host stage).run (pipeline.within image stage).run := by
  refine (h.enter stage).bind fun _ => (h.note _).bind fun _ => ?_
  refine (mirrors_stage h pipeline stage).bind fun outcome => ?_
  exact h.leave.bind fun _ => Mirrors.of_pure view outcome

/-- A pipeline on the image of a host goes as it goes on the host itself. -/
lemma mirrors_execute (h : Host.Mirrors view host image) (pipeline : Pipeline) :
    Mirrors view (pipeline.execute host).run (pipeline.execute image).run := by
  unfold execute
  induction Stage.all with
  | nil => exact Mirrors.except_pure view ()
  | cons stage rest ih => exact (mirrors_within h pipeline stage).except_bind fun _ => ih

end Pipeline

end StagedRun
