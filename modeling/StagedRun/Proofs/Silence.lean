import StagedRun.Proofs.Scene

/-!
# What is told has no influence

A run gives its console many records, and none of them makes a difference to the run.  The argument
forgets in three steps.  In a world, the console and the notes go (`World.mirrors_scene`).  On
scenes, what was written goes (`Scene.mirrors_hushed`).  And on the host that forgets everything it
is told, a record is no step at all (`mention_silent`), so that a verbose pipeline and a quiet one,
with any colour and any output name, are the same action (`execute_silent`).

`execute_eq_of_sameWork` puts the steps together: two runs that have the same work to do, in worlds
that differ in nothing but their consoles, notes and writings, have the same outcome, and leave
worlds that again differ in nothing else.
-/

namespace StagedRun

variable {κ σ τ : Type}

namespace Pipeline

/-- Two pipelines have the same work to do.  They may differ in whether they tell about it, in what
colour, and in the name that they give to the result. -/
structure SameWork (first second : Pipeline) : Prop where
  build : first.config.options.build = second.config.options.build
  clean : first.config.options.clean = second.config.options.clean
  inputs : first.config.options.inputs = second.config.options.inputs
  layout : first.config.layout = second.config.layout
  programs : first.programs = second.programs

lemma tell_silent (children : Children κ) (colour : Colour) (record : Record) :
    (Scene.silentHost children).tell colour record = pure () := by
  unfold Host.tell
  induction record.chunks colour with
  | nil => rfl
  | cons chunk rest ih => exact ih

lemma mention_silent (children : Children κ) (pipeline : Pipeline) (record : Record) :
    pipeline.mention (Scene.silentHost children) record = pure () := by
  unfold mention
  split
  · rw [tell_silent]
    rfl
  · rfl

lemma stage_silent {first second : Pipeline} (h : first.SameWork second)
    (children : Children κ) (stage : Stage) :
    first.stage (Scene.silentHost children) stage =
      second.stage (Scene.silentHost children) stage := by
  have hbuild : first.buildCommand = second.buildCommand := by
    rw [buildCommand, buildCommand, h.programs]
  have hrun : first.runCommand = second.runCommand := by
    rw [runCommand, runCommand, h.programs, h.layout, h.inputs]
  cases stage with
  | clean => simp only [Pipeline.stage, clean, removeDirectory, mention_silent, h.clean, h.layout]
  | build => simp only [Pipeline.stage, build, mention_silent, h.build, hbuild]
  | run =>
    simp only [Pipeline.stage, run, createOutput, mention_silent, h.inputs, h.layout, hrun]

lemma execute_silent {first second : Pipeline} (h : first.SameWork second)
    (children : Children κ) :
    first.execute (Scene.silentHost children) = second.execute (Scene.silentHost children) := by
  have hwithin : first.within (Scene.silentHost children) =
      second.within (Scene.silentHost children) := by
    funext stage
    rw [within, within, stage_silent h]
  rw [execute, execute, hwithin]

/-- In a world, a run goes as it goes on a host that forgets what it is told. -/
lemma carryOut_execute_silent (children : Children κ) (sink : Sink σ) (pipeline : Pipeline)
    (world : World κ σ) :
    carryOut (pipeline.execute (Scene.silentHost children)) world.quiet =
      ((carryOut (pipeline.execute (World.host children sink)) world).1,
        (carryOut (pipeline.execute (World.host children sink)) world).2.quiet) := by
  have hscene := mirrors_execute (World.mirrors_scene children sink) pipeline
  have hhushed := mirrors_execute (Scene.mirrors_hushed children) pipeline
  exact (hscene.trans hhushed).carryOut world

/-- **The console has no influence.**  Two pipelines with the same work, in worlds with the same
files, children and past, come to the same outcome, hand over the same commands, and pass through
the same file systems.  Their consoles may take and refuse whatever they like. -/
theorem execute_eq_of_sameWork {first second : Pipeline} (h : first.SameWork second)
    (children : Children κ) (sink : Sink σ) (other : Sink τ) {world : World κ σ} {twin : World κ τ}
    (hworld : world.quiet = twin.quiet) :
    let result := carryOut (first.execute (World.host children sink)) world
    let mirrored := carryOut (second.execute (World.host children other)) twin
    result.1 = mirrored.1 ∧ result.2.commands = mirrored.2.commands ∧
      result.2.quiet = mirrored.2.quiet := by
  intro result mirrored
  have hresult : (result.1, result.2.quiet) = (mirrored.1, mirrored.2.quiet) := by
    rw [← carryOut_execute_silent, ← carryOut_execute_silent, execute_silent h, hworld]
  obtain ⟨houtcome, hquiet⟩ := Prod.mk.inj hresult
  refine ⟨houtcome, ?_, hquiet⟩
  rw [World.commands_eq_map_dealings, World.commands_eq_map_dealings, ← World.dealingsOf_quiet,
    ← World.dealingsOf_quiet, hquiet]

/-- A run that says nothing, beside one that says everything in colour and under another output
name, to a console that takes nothing. -/
theorem execute_eq_of_refusing_sink :
    let quiet : Pipeline :=
      { config := ⟨{ inputs := [Text.encode "a.ts"], clean := true },
          ⟨.ofString "/r/bin", .ofString "/r"⟩⟩
        programs := .default
        colour := .plain }
    let verbose : Pipeline :=
      { quiet with
        config := ⟨{ quiet.config.options with verbose := true, output := Text.encode "g" },
          quiet.config.layout⟩
        colour := .ansi }
    let compiling : Children Nat :=
      ⟨fun _ count files =>
        (.ok (.exited 0), count + 1, (files.makeDirectories [] (.ofString "/r/build")).1)⟩
    let refusing : Sink Nat :=
      ⟨fun _ count => (.error (.numbered 28), count + 1), fun count => (.error (.numbered 5), count)⟩
    let world := World.fresh .empty [] 0 ({} : Kept)
    let twin := World.fresh .empty [] 0 0
    let result := carryOut (quiet.execute (World.host compiling (.bounded none))) world
    let mirrored := carryOut (verbose.execute (World.host compiling refusing)) twin
    quiet.SameWork verbose ∧ world.quiet = twin.quiet ∧ result.1 = mirrored.1 ∧
      result.2.commands = mirrored.2.commands ∧ result.2.quiet = mirrored.2.quiet := by
  intro quiet verbose compiling refusing world twin result mirrored
  have hwork : quiet.SameWork verbose := ⟨rfl, rfl, rfl, rfl, rfl⟩
  exact ⟨hwork, rfl, execute_eq_of_sameWork hwork compiling (.bounded none) refusing rfl⟩

end Pipeline

end StagedRun
