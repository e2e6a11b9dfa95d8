import StagedRun.Proofs.Stages
import StagedRun.Proofs.Wording

/-!
# What a run tells its user

A pipeline has one `Pipeline.transcript`: the records that a verbose run tells when nothing fails.
`Narrates` says how far stages have got in it.  What they told is an initial part of their script,
all of it if and only if they succeeded, and every command was announced: the last thing that was
written before its child started is the line with that very command.

`narrates_of_goes` is the law of one stage.  It is the place where a record that is told too early,
or after a failure, would show.  `narrates_of_takes` puts stages in a row.

What reaches a console follows from the history (`exists_happenings`): a console holds what it held
before the run, and then everything that was written, in order.  `map_text_transcript` is the step
from records to texts: rendered, a transcript is the list `Pipeline.entries`, which is written down
without records.  So a sink that keeps what it is given ends up with these texts, cut between two of
them (`execute_follows_transcript`).
-/

namespace StagedRun

variable {κ σ : Type}

/-! ## What was written -/

namespace Happening

/-- The bytes that the console was given. -/
def bytes : Happening → ByteString
  | .wrote bytes => bytes
  | .changed _ _ | .ran _ _ _ _ => []

/-- What a console holds after a happening. -/
def reaches (sink : Sink σ) (held : σ) : Happening → σ
  | .wrote bytes => sink.emit held bytes
  | .changed _ _ | .ran _ _ _ _ => held

end Happening

/-- The bytes that were written in a history, in order. -/
def writtenIn (history : List Happening) : ByteString :=
  history.flatMap Happening.bytes

/-- The writings of a history, in order. -/
def spoken (history : List Happening) : List Happening :=
  history.filter Happening.isWrite

/-- What a console holds after a history. -/
def replay (sink : Sink σ) (held : σ) (history : List Happening) : σ :=
  history.foldl (Happening.reaches sink) held

lemma spoken_append (history more : List Happening) :
    spoken (history ++ more) = spoken history ++ spoken more :=
  List.filter_append ..

lemma writtenIn_append (history more : List Happening) :
    writtenIn (history ++ more) = writtenIn history ++ writtenIn more :=
  List.flatMap_append

lemma replay_append (sink : Sink σ) (held : σ) (history more : List Happening) :
    replay sink held (history ++ more) = replay sink (replay sink held history) more :=
  List.foldl_append

lemma writtenIn_spoken (history : List Happening) :
    writtenIn (spoken history) = writtenIn history := by
  induction history with
  | nil => rfl
  | cons happening rest ih =>
    cases happening with
    | wrote bytes => exact congrArg (bytes ++ ·) ih
    | changed before after => exact ih
    | ran command before answer after => exact ih

lemma World.written_eq (world : World κ σ) : world.written = writtenIn world.history := rfl

/-- A console that is given nothing stays as it is. -/
lemma replay_of_spoken_eq_nil {sink : Sink σ} {held : σ} {history : List Happening}
    (h : spoken history = []) : replay sink held history = held := by
  induction history with
  | nil => rfl
  | cons happening rest ih =>
    cases happening with
    | wrote bytes => cases h
    | changed before after => exact ih h
    | ran command before answer after => exact ih h

/-- A sink takes everything that it is given, in order.  `held` reads off what it holds. -/
structure Sink.Keeps (sink : Sink σ) (held : σ → ByteString) : Prop where
  write : ∀ bytes state, held (sink.write bytes state).2 = held state ++ bytes
  flush : ∀ state, held (sink.flush state).2 = held state

lemma Sink.keeps_bounded : (Sink.bounded none).Keeps Kept.bytes :=
  ⟨fun _ _ => rfl, fun _ => rfl⟩

lemma Sink.Keeps.held_replay {sink : Sink σ} {held : σ → ByteString} (h : sink.Keeps held)
    (state : σ) (history : List Happening) :
    held (replay sink state history) = held state ++ writtenIn history := by
  induction history generalizing state with
  | nil => exact (List.append_nil _).symm
  | cons happening rest ih =>
    have hreaches : held (happening.reaches sink state) = held state ++ happening.bytes := by
      cases happening with
      | wrote bytes =>
        show held (sink.flush (sink.write bytes state).2).2 = held state ++ bytes
        rw [h.flush, h.write]
      | changed before after => exact (List.append_nil _).symm
      | ran command before answer after => exact (List.append_nil _).symm
    have hrest := ih (happening.reaches sink state)
    rw [hreaches, List.append_assoc] at hrest
    exact hrest

/-! ## Consoles follow histories -/

namespace World

/-- The sink that holds nothing. -/
def forgetful : Sink Unit :=
  ⟨fun _ _ => (.ok (), ()), fun _ => (.ok (), ())⟩

/-- A world without a console, after a past and with the console that its history makes of
`held`. -/
def withConsole (sink : Sink σ) (held : σ) (past : List Happening) (world : World κ Unit) :
    World κ σ :=
  { world with
    console := replay sink held world.history
    history := past ++ world.history }

/-- The world without its console and its past. -/
def renewed (world : World κ σ) : World κ Unit :=
  { world with
    console := ()
    history := [] }

lemma withConsole_renewed (sink : Sink σ) (world : World κ σ) :
    world.renewed.withConsole sink world.console world.history = world := by
  show { world with history := world.history ++ [] } = world
  rw [List.append_nil]

lemma replay_concat (sink : Sink σ) (held : σ) (history : List Happening) (happening : Happening) :
    replay sink held (history ++ [happening]) =
      happening.reaches sink (replay sink held history) :=
  replay_append sink held history [happening]

/-- Nothing that happens in a world asks for its console. -/
lemma withConsole_record (sink : Sink σ) (held : σ) (past : List Happening)
    (world : World κ Unit) (happening : Happening) :
    (world.record happening).withConsole sink held past =
      { (world.withConsole sink held past).record happening with
        console := happening.reaches sink (replay sink held world.history) } := by
  simp only [withConsole, record, replay_concat, List.append_assoc]

lemma mirrors_withConsole (children : Children κ) (sink : Sink σ) (held : σ)
    (past : List Happening) :
    Host.Mirrors (withConsole sink held past) (host children forgetful) (host children sink) where
  isDirectory _ _ := rfl
  removeTree path world := by
    have hrecord := withConsole_record sink held past world
      (.changed world.files (world.files.removeTree world.current path).1)
    exact Prod.ext rfl (congrArg (fun after : World κ σ =>
      { after with files := (world.files.removeTree world.current path).1 }) hrecord.symm)
  makeDirectories path world := by
    have hrecord := withConsole_record sink held past world
      (.changed world.files (world.files.makeDirectories world.current path).1)
    exact Prod.ext rfl (congrArg (fun after : World κ σ =>
      { after with files := (world.files.makeDirectories world.current path).1 }) hrecord.symm)
  run command world := by
    let outcome := children.answer command world.children world.files
    have hrecord := withConsole_record sink held past world
      (.ran command world.files outcome.1 outcome.2.2)
    exact Prod.ext rfl (congrArg (fun after : World κ σ =>
      { after with children := outcome.2.1, files := outcome.2.2 }) hrecord.symm)
  emit bytes world := Prod.ext rfl (withConsole_record sink held past world (.wrote bytes)).symm
  note diagnostic world := by
    refine Prod.ext rfl ?_
    show (world.withConsole sink held past).note diagnostic =
      (world.note diagnostic).withConsole sink held past
    unfold note
    split <;> split <;> first | rfl | contradiction
  enter _ _ := rfl
  leave _ := rfl

end World

namespace Pipeline

/-- A run adds to the history, and the console holds what the history gave it. -/
lemma exists_happenings (children : Children κ) (sink : Sink σ) (pipeline : Pipeline)
    (world : World κ σ) :
    let result := carryOut (pipeline.execute (World.host children sink)) world
    ∃ happenings, result.2.history = world.history ++ happenings ∧
      result.2.console = replay sink world.console happenings := by
  intro result
  have hmirrors := mirrors_execute
    (World.mirrors_withConsole children sink world.console world.history) pipeline
  have hresult := hmirrors.carryOut world.renewed
  rw [World.withConsole_renewed] at hresult
  have hworld : result.2 = _ := congrArg Prod.snd hresult
  exact ⟨_, congrArg World.history hworld, congrArg World.console hworld⟩

end Pipeline

/-! ## Announcements -/

namespace Scene

lemma history_tell (scene : Scene κ) (pipeline : Pipeline) (record : Record) :
    (scene.tell pipeline record).history = scene.history ++ pipeline.told record := rfl

lemma history_changed (scene : Scene κ) (files : FileSystem) :
    (scene.changed files).history = scene.history ++ [.changed scene.files files] := rfl

lemma history_handed (scene : Scene κ) (children : Children κ) (command : Command) :
    (scene.handed children command).history = scene.history ++
      [.ran command scene.files (scene.answerTo children command)
        (children.answer command scene.children scene.files).2.2] := rfl

end Scene

/-- The line that shows a command. -/
def Command.trace (command : Command) : ByteString :=
  Text.encode (">> " ++ lineOf (command.program :: command.arguments) ++ "\n")

/-- Whenever a child starts, the line with its command is the last thing that was written, and
nothing else has happened since. -/
def Announced (history : List Happening) : Prop :=
  ∀ before command files answer after rest,
    history = before ++ .ran command files answer after :: rest →
      ∃ earlier, before = earlier ++ [.wrote command.trace]

lemma announced_of_dealingsOf_eq_nil {history : List Happening} (h : dealingsOf history = []) :
    Announced history := by
  rintro before command files answer after rest rfl
  rw [dealingsOf_append] at h
  cases (List.append_eq_nil_iff.1 h).2

lemma announced_pair (command : Command) (files : FileSystem)
    (answer : Except SystemError Exit) (after : FileSystem) :
    Announced [.wrote command.trace, .ran command files answer after] := by
  intro before other files' answer' after' rest h
  match before with
  | [] => cases h
  | [first] =>
    obtain ⟨rfl, h⟩ := List.cons.inj h
    cases h
    exact ⟨[], rfl⟩
  | first :: second :: more =>
    have hlength := congrArg List.length h
    simp only [List.length_cons, List.length_nil, List.cons_append, List.length_append] at hlength
    omega

lemma Announced.append {history more : List Happening} (h : Announced history)
    (h' : Announced more) : Announced (history ++ more) := by
  intro before command files answer after rest hsplit
  rcases List.append_eq_append_iff.1 hsplit with
    ⟨between, rfl, hmore⟩ | ⟨between, hhistory, hrest⟩
  · obtain ⟨earlier, rfl⟩ := h' _ _ _ _ _ _ hmore
    exact ⟨history ++ earlier, by rw [List.append_assoc]⟩
  · match between with
    | [] =>
      -- The child starts at the border, so nothing of the second part came before it.
      rw [List.append_nil] at hhistory
      obtain ⟨earlier, hearlier⟩ := h' [] _ _ _ _ _ hrest.symm
      cases List.append_eq_nil_iff.1 hearlier.symm |>.2
    | first :: others =>
      obtain ⟨rfl, rfl⟩ := List.cons.inj hrest
      exact h _ _ _ _ _ _ hhistory

/-! ## The transcript -/

namespace Record

/-- The bytes that are written for a record. -/
def bytes (colour : Colour) (record : Record) : ByteString :=
  Text.encode (record.text colour)

/-- What telling a record leaves in a history. -/
def writes (colour : Colour) (record : Record) : List Happening :=
  (record.chunks colour).map fun chunk => .wrote (Text.encode chunk)

lemma writtenIn_writes (colour : Colour) (record : Record) :
    writtenIn (record.writes colour) = record.bytes colour := by
  rw [writes, bytes, text]
  induction record.chunks colour with
  | nil => exact Text.encode_empty.symm
  | cons chunk rest ih =>
    rw [String.join_cons, Text.encode_append, ← ih]
    rfl

end Record

lemma writtenIn_flatMap_writes (colour : Colour) (records : List Record) :
    writtenIn (records.flatMap (Record.writes colour)) = records.flatMap (Record.bytes colour) := by
  induction records with
  | nil => rfl
  | cons record rest ih =>
    rw [List.flatMap_cons, List.flatMap_cons, writtenIn_append, Record.writtenIn_writes, ih]

namespace Pipeline

/-- What a stage tells when it succeeds. -/
def script (pipeline : Pipeline) : Stage → List Record
  | .clean =>
    if pipeline.config.options.clean then [removing Layout.outputName, removing Layout.buildName]
    else []
  | .build =>
    if pipeline.config.options.build then [pipeline.startingBuild, buildFinished]
    else [skippingBuild]
  | .run =>
    if pipeline.config.options.inputs = [] then [noInputs]
    else [creatingOutput, pipeline.startingAnalyzer, analyzerFinished, pipeline.outputLocation]

/-- What a run tells when it succeeds. -/
def transcript (pipeline : Pipeline) : List Record :=
  Stage.all.flatMap pipeline.script

/-- How far stages have got in their script, and what they told before each command.  A removal is
told before it is tried, so the clean stage can fail at the end of its script.  The other stages
cannot, so a script that ends with one of them is told to its end by successes only. -/
structure Narrates (pipeline : Pipeline) (stages : List Stage) (outcome : Except Failure Unit)
    (happenings : List Happening) : Prop where
  told : ∃ records, records <+: stages.flatMap pipeline.script ∧
    spoken happenings = records.flatMap pipeline.told ∧
    (outcome = .ok () → records = stages.flatMap pipeline.script) ∧
    (stages.getLast? ≠ some .clean → records = stages.flatMap pipeline.script → outcome = .ok ())
  announced : pipeline.config.options.verbose = true → Announced happenings

variable {pipeline : Pipeline} {children : Children κ} {stage : Stage} {stages : List Stage}
  {scene after : Scene κ} {outcome : Except Failure Unit}

/-! ## One stage -/

@[simp] lemma spoken_told (pipeline : Pipeline) (record : Record) :
    spoken (pipeline.told record) = pipeline.told record := by
  rw [spoken, List.filter_eq_self]
  intro happening h
  unfold told at h
  split at h
  · obtain ⟨chunk, _, rfl⟩ := List.mem_map.1 h
    rfl
  · cases h

lemma announced_told (pipeline : Pipeline) (record : Record) : Announced (pipeline.told record) :=
  announced_of_dealingsOf_eq_nil (pipeline.dealingsOf_told record)

/-- A command is told and then handed over. -/
lemma exists_happenings_handed (pipeline : Pipeline) (children : Children κ) (scene : Scene κ)
    (message : String) (command : Command) :
    ∃ happenings,
      ((scene.tell pipeline (.command message command.display)).handed children command).history =
        scene.history ++ happenings ∧
      spoken happenings = pipeline.told (.command message command.display) ∧
      (pipeline.config.options.verbose = true → Announced happenings) := by
  let started := scene.tell pipeline (.command message command.display)
  let answered : Happening := .ran command started.files (started.answerTo children command)
    (children.answer command started.children started.files).2.2
  refine ⟨pipeline.told (.command message command.display) ++ [answered], ?_, ?_, ?_⟩
  · rw [Scene.history_handed, Scene.history_tell, List.append_assoc]
  · rw [spoken_append, spoken_told]
    exact List.append_nil _
  · intro hverbose
    have htold : pipeline.told (.command message command.display) =
        [.wrote (Text.encode (Record.infoLine pipeline.colour message {}))] ++
          [.wrote command.trace] := by
      rw [told, if_pos hverbose, Command.trace, ← command.display_eq_lineOf]
      rfl
    rw [htold, List.append_assoc]
    exact Announced.append (announced_of_dealingsOf_eq_nil rfl) (announced_pair _ _ _ _)

/-- A stage adds happenings to the history, and they narrate it. -/
def NarratesFrom (pipeline : Pipeline) (stages : List Stage) (scene : Scene κ)
    (outcome : Except Failure Unit) (after : Scene κ) : Prop :=
  ∃ happenings, after.history = scene.history ++ happenings ∧
    pipeline.Narrates stages outcome happenings

lemma narrates_singleton {records : List Record} {happenings : List Happening}
    (hstart : records <+: pipeline.script stage)
    (hspoken : spoken happenings = records.flatMap pipeline.told)
    (hfinished : outcome = .ok () → records = pipeline.script stage)
    (hstopped : stage ≠ .clean → records = pipeline.script stage → outcome = .ok ())
    (hannounced : pipeline.config.options.verbose = true → Announced happenings) :
    pipeline.Narrates [stage] outcome happenings where
  told := by
    refine ⟨records, ?_, hspoken, ?_, ?_⟩ <;>
      simp only [List.flatMap_cons, List.flatMap_nil, List.append_nil, List.getLast?_singleton]
    · exact hstart
    · exact hfinished
    · exact fun hlast => hstopped fun hclean => hlast (congrArg some hclean)
  announced := hannounced

lemma Removes.exists_happenings {name : String} {path : Path}
    (h : pipeline.Removes name path scene outcome after) :
    ∃ happenings, after.history = scene.history ++ happenings ∧
      spoken happenings = pipeline.told (removing name) ∧ dealingsOf happenings = [] := by
  have hchanged (files : FileSystem) :
      spoken (pipeline.told (removing name) ++ [.changed scene.files files]) =
          pipeline.told (removing name) ∧
        dealingsOf (pipeline.told (removing name) ++ [.changed scene.files files]) = [] := by
    rw [spoken_append, spoken_told, dealingsOf_append, dealingsOf_told]
    exact ⟨List.append_nil _, rfl⟩
  cases h with
  | absent _ => exact ⟨_, rfl, spoken_told _ _, dealingsOf_told _ _⟩
  | removed _ _ => exact ⟨_, List.append_assoc .., hchanged _⟩
  | refused _ _ => exact ⟨_, List.append_assoc .., hchanged _⟩

lemma Cleans.narrates (h : pipeline.Cleans scene outcome after) :
    pipeline.NarratesFrom [.clean] scene outcome after := by
  cases h with
  | skipped hclean =>
    have hscript : pipeline.script .clean = [] := by simp [script, hclean]
    refine ⟨[], (List.append_nil _).symm, narrates_singleton List.nil_prefix rfl ?_
      (fun hclean => absurd rfl hclean) ?_⟩
    · exact fun _ => hscript.symm
    · exact fun _ => announced_of_dealingsOf_eq_nil rfl
  | stopped hclean houtput =>
    obtain ⟨happenings, hhistory, hspoken, hdealings⟩ := houtput.exists_happenings
    have hscript : pipeline.script .clean =
        [removing Layout.outputName] ++ [removing Layout.buildName] := by simp [script, hclean]
    refine ⟨happenings, hhistory, narrates_singleton (hscript ▸ List.prefix_append _ _) ?_ nofun
      (fun hclean => absurd rfl hclean) fun _ => announced_of_dealingsOf_eq_nil hdealings⟩
    rw [hspoken, List.flatMap_singleton]
  | went hclean houtput hbuild =>
    obtain ⟨first, hfirst, hspoken, hdealings⟩ := houtput.exists_happenings
    obtain ⟨second, hsecond, hspoken', hdealings'⟩ := hbuild.exists_happenings
    have hscript : pipeline.script .clean =
        [removing Layout.outputName, removing Layout.buildName] := by simp [script, hclean]
    refine ⟨first ++ second, ?_, narrates_singleton (hscript ▸ List.prefix_refl _) ?_
      (fun _ => hscript.symm) (fun hclean => absurd rfl hclean) fun _ => announced_of_dealingsOf_eq_nil ?_⟩
    · rw [hsecond, hfirst, List.append_assoc]
    · rw [spoken_append, hspoken, hspoken']
      simp
    · rw [dealingsOf_append, hdealings, hdealings', List.append_nil]

lemma Builds.narrates (h : pipeline.Builds children scene outcome after) :
    pipeline.NarratesFrom [.build] scene outcome after := by
  obtain ⟨happenings, hhistory, hspoken, hannounced⟩ := pipeline.exists_happenings_handed children
    scene "Running build command" pipeline.buildCommand
  cases h with
  | skipped hbuild =>
    have hscript : pipeline.script .build = [skippingBuild] := by simp [script, hbuild]
    refine ⟨_, scene.history_tell _ _, narrates_singleton (hscript ▸ List.prefix_refl _) ?_
      (fun _ => hscript.symm) (fun _ _ => rfl) fun _ => announced_told _ _⟩
    rw [spoken_told, List.flatMap_singleton]
  | failed hbuild _ =>
    have hscript : pipeline.script .build = [pipeline.startingBuild] ++ [buildFinished] := by
      simp [script, hbuild]
    refine ⟨happenings, hhistory, narrates_singleton (hscript ▸ List.prefix_append _ _) ?_ nofun
      ?_ hannounced⟩
    · rw [hspoken, List.flatMap_singleton]
      rfl
    · simp [hscript]
  | succeeded hbuild _ =>
    have hscript : pipeline.script .build = [pipeline.startingBuild, buildFinished] := by
      simp [script, hbuild]
    refine ⟨happenings ++ pipeline.told buildFinished, ?_,
      narrates_singleton (hscript ▸ List.prefix_refl _) ?_ (fun _ => hscript.symm) (fun _ _ => rfl)
      fun hverbose => (hannounced hverbose).append (announced_told _ _)⟩
    · rw [Scene.history_tell, ← List.append_assoc, ← hhistory]
      rfl
    · rw [spoken_append, hspoken, spoken_told]
      simp [startingBuild]

/-- The directory for the output is told and then made, or not made. -/
lemma exists_happenings_prepared (pipeline : Pipeline) (scene : Scene κ) (files : FileSystem) :
    ∃ happenings, (pipeline.prepared scene files).history = scene.history ++ happenings ∧
      spoken happenings = pipeline.told creatingOutput ∧ Announced happenings := by
  refine ⟨pipeline.told creatingOutput ++ [.changed scene.files files], ?_, ?_, ?_⟩
  · rw [prepared, Scene.history_changed, Scene.history_tell, List.append_assoc]
    rfl
  · rw [spoken_append, spoken_told]
    exact List.append_nil _
  · exact (announced_told _ _).append (announced_of_dealingsOf_eq_nil rfl)

/-- The run stage up to the end of its child. -/
lemma exists_happenings_analyzed (pipeline : Pipeline) (children : Children κ) (scene : Scene κ)
    (files : FileSystem) :
    ∃ happenings,
      (((pipeline.prepared scene files).tell pipeline pipeline.startingAnalyzer).handed children
          pipeline.runCommand).history = scene.history ++ happenings ∧
      spoken happenings =
        [creatingOutput, pipeline.startingAnalyzer].flatMap pipeline.told ∧
      (pipeline.config.options.verbose = true → Announced happenings) := by
  obtain ⟨first, hfirst, hspoken, hannounced⟩ := pipeline.exists_happenings_prepared scene files
  obtain ⟨second, hsecond, hspoken', hannounced'⟩ := pipeline.exists_happenings_handed children
    (pipeline.prepared scene files) "Running analyzer" pipeline.runCommand
  refine ⟨first ++ second, ?_, ?_, fun hverbose => hannounced.append (hannounced' hverbose)⟩
  · rw [← List.append_assoc, ← hfirst, ← hsecond]
    rfl
  · rw [spoken_append, hspoken, hspoken']
    simp [startingAnalyzer]

lemma Analyzes.narrates (h : pipeline.Analyzes children scene outcome after) :
    pipeline.NarratesFrom [.run] scene outcome after := by
  have hscript (hinputs : pipeline.config.options.inputs ≠ []) : pipeline.script .run =
      [creatingOutput, pipeline.startingAnalyzer] ++
        [analyzerFinished, pipeline.outputLocation] := by
    simp [script, hinputs]
  cases h with
  | idle hinputs =>
    have hidle : pipeline.script .run = [noInputs] := by simp [script, hinputs]
    refine ⟨_, scene.history_tell _ _, narrates_singleton (hidle ▸ List.prefix_refl _) ?_
      (fun _ => hidle.symm) (fun _ _ => rfl) fun _ => announced_told _ _⟩
    rw [spoken_told, List.flatMap_singleton]
  | missing hinputs _ =>
    refine ⟨[], (List.append_nil _).symm, narrates_singleton List.nil_prefix rfl nofun ?_
      fun _ => announced_of_dealingsOf_eq_nil rfl⟩
    simp [hscript hinputs]
  | @unmade files reason hinputs _ _ =>
    obtain ⟨happenings, hhistory, hspoken, hannounced⟩ :=
      pipeline.exists_happenings_prepared scene files
    have hstart : [creatingOutput] <+: pipeline.script .run := by
      rw [hscript hinputs]
      exact List.prefix_append _ _
    refine ⟨happenings, hhistory, narrates_singleton hstart ?_ nofun ?_ fun _ => hannounced⟩
    · rw [hspoken, List.flatMap_singleton]
    · simp [hscript hinputs]
  | @failed files cause hinputs _ _ _ =>
    obtain ⟨happenings, hhistory, hspoken, hannounced⟩ :=
      pipeline.exists_happenings_analyzed children scene files
    refine ⟨happenings, hhistory, narrates_singleton ?_ hspoken nofun ?_ hannounced⟩
    · rw [hscript hinputs]
      exact List.prefix_append _ _
    · simp [hscript hinputs]
  | @succeeded files hinputs _ _ _ =>
    obtain ⟨happenings, hhistory, hspoken, hannounced⟩ :=
      pipeline.exists_happenings_analyzed children scene files
    have hmore : Announced
        (pipeline.told analyzerFinished ++ pipeline.told pipeline.outputLocation) :=
      (announced_told _ _).append (announced_told _ _)
    refine ⟨happenings ++
        (pipeline.told analyzerFinished ++ pipeline.told pipeline.outputLocation), ?_,
      narrates_singleton (List.prefix_refl _) ?_ (fun _ => rfl) (fun _ _ => rfl)
      fun hverbose => (hannounced hverbose).append hmore⟩
    · rw [Scene.history_tell, Scene.history_tell, hhistory, List.append_assoc, List.append_assoc]
    · rw [hscript hinputs, spoken_append, hspoken, spoken_append, spoken_told, spoken_told]
      simp

/-- What a stage tells follows its script. -/
lemma narrates_of_goes (h : pipeline.Goes children scene stage outcome after) :
    pipeline.NarratesFrom [stage] scene outcome after := by
  cases stage with
  | clean => exact Cleans.narrates h
  | build => exact Builds.narrates h
  | run => exact Analyzes.narrates h

/-! ## Stages in a row -/

lemma flatMap_script_cons (pipeline : Pipeline) (stage : Stage) (stages : List Stage) :
    (stage :: stages).flatMap pipeline.script =
      [stage].flatMap pipeline.script ++ stages.flatMap pipeline.script := by
  rw [← List.flatMap_append, List.singleton_append]

lemma script_ne_nil (pipeline : Pipeline) (hstage : stage ≠ .clean) :
    pipeline.script stage ≠ [] := by
  cases stage with
  | clean => exact absurd rfl hstage
  | build =>
    rw [script]
    split <;> simp
  | run =>
    rw [script]
    split <;> simp

lemma flatMap_script_ne_nil (pipeline : Pipeline) (hstages : stages ≠ [])
    (hlast : stages.getLast? ≠ some .clean) : stages.flatMap pipeline.script ≠ [] := by
  obtain ⟨front, last, rfl⟩ := stages.eq_nil_or_concat.resolve_left hstages
  rw [List.concat_eq_append, List.getLast?_concat] at hlast
  have hscript := pipeline.script_ne_nil fun hclean => hlast (congrArg some hclean)
  simp [hscript]

/-- A stage that succeeds has told its whole script, and what is told next follows on it. -/
lemma Narrates.append {first rest : List Happening} (h : pipeline.Narrates [stage] (.ok ()) first)
    (hrest : pipeline.Narrates stages outcome rest) :
    pipeline.Narrates (stage :: stages) outcome (first ++ rest) where
  told := by
    obtain ⟨records, _, hspoken, hfinished, _⟩ := h.told
    obtain ⟨more, hstart, hspoken', hfinished', hstopped⟩ := hrest.told
    have hrecords : records = [stage].flatMap pipeline.script := hfinished rfl
    refine ⟨records ++ more, ?_, ?_, ?_, ?_⟩
    · rw [flatMap_script_cons, hrecords]
      exact (List.prefix_append_right_inj _).2 hstart
    · rw [spoken_append, hspoken, hspoken', List.flatMap_append]
    · intro houtcome
      rw [flatMap_script_cons, hrecords, hfinished' houtcome]
    · intro hlast hwhole
      rw [flatMap_script_cons, hrecords, List.append_cancel_left_eq] at hwhole
      refine hstopped (fun hclean => hlast ?_) hwhole
      rw [List.getLast?_cons, hclean, Option.getD_some]
  announced hverbose := (h.announced hverbose).append (hrest.announced hverbose)

/-- A stage that fails is the last that tells anything. -/
lemma Narrates.cut {failure : Failure} {happenings : List Happening}
    (h : pipeline.Narrates [stage] (.error failure) happenings) (stages : List Stage) :
    pipeline.Narrates (stage :: stages) (.error failure) happenings where
  told := by
    obtain ⟨records, hstart, hspoken, _, hstopped⟩ := h.told
    refine ⟨records, ?_, hspoken, nofun, ?_⟩
    · rw [flatMap_script_cons]
      exact hstart.trans (List.prefix_append _ _)
    · intro hlast hwhole
      by_cases hstages : stages = []
      · subst hstages
        exact hstopped hlast hwhole
      · -- The stages after this one have something to tell, and they did not tell it.
        have hlast' : stages.getLast? ≠ some .clean := by
          intro hclean
          rw [List.getLast?_cons, hclean, Option.getD_some] at hlast
          exact hlast rfl
        have hrest := List.length_pos_iff.2 (pipeline.flatMap_script_ne_nil hstages hlast')
        have hlength := hstart.length_le
        rw [hwhole, flatMap_script_cons, List.length_append] at hlength
        omega
  announced := h.announced

lemma narrates_of_takes (h : pipeline.Takes (Scene.host children) stages scene outcome after) :
    pipeline.NarratesFrom stages scene outcome after := by
  induction h with
  | done scene =>
    have hannounced : Announced [] := announced_of_dealingsOf_eq_nil rfl
    refine ⟨[], (List.append_nil _).symm, ⟨[], List.nil_prefix, rfl, fun _ => rfl, ?_⟩, ?_⟩
    · exact fun _ _ => rfl
    · exact fun _ => hannounced
  | @failed stage rest _ _ _ hstage =>
    obtain ⟨happenings, hhistory, hnarrates⟩ := narrates_of_goes (goes_of_carryOut hstage)
    exact ⟨happenings, hhistory, hnarrates.cut rest⟩
  | passed hstage _ ih =>
    obtain ⟨first, hfirst, hnarrates⟩ := narrates_of_goes (goes_of_carryOut hstage)
    obtain ⟨rest, hrest, hnarrates'⟩ := ih
    exact ⟨first ++ rest, by rw [hrest, hfirst, List.append_assoc], hnarrates.append hnarrates'⟩

/-! ## A run in a world -/

lemma writtenIn_told (hverbose : pipeline.config.options.verbose = true) (records : List Record) :
    writtenIn (records.flatMap pipeline.told) =
      records.flatMap (Record.bytes pipeline.colour) := by
  have htold : pipeline.told = Record.writes pipeline.colour := by
    funext record
    rw [told, if_pos hverbose, Record.writes]
  rw [htold, writtenIn_flatMap_writes]

lemma flatMap_told_of_quiet (hquiet : pipeline.config.options.verbose = false)
    (records : List Record) : records.flatMap pipeline.told = [] := by
  simp [told, hquiet]

/-! ## The texts of a transcript -/

lemma map_text_script_clean (pipeline : Pipeline) :
    (pipeline.script .clean).map (Record.text pipeline.colour) = pipeline.cleanEntries := by
  rw [script, cleanEntries]
  split
  · simp only [List.map_cons, List.map_nil, removing, Record.text_note]
    rfl
  · rfl

lemma map_text_script_build (pipeline : Pipeline) :
    (pipeline.script .build).map (Record.text pipeline.colour) = pipeline.buildEntries := by
  have hfinished : buildFinished.text pipeline.colour = _ :=
    Record.text_styled pipeline.colour "Build finished successfully" .success
  rw [script, buildEntries]
  split
  · simp only [List.map_cons, List.map_nil, startingBuild, Record.text_command,
      Command.display_eq_lineOf, hfinished]
    rfl
  · simp only [List.map_cons, List.map_nil, skippingBuild, Record.text_note]
    rfl

lemma text_outputLocation (pipeline : Pipeline) :
    pipeline.outputLocation.text pipeline.colour = Tone.result.line pipeline.colour
      ("INFO: Output path: " ++ pipeline.config.outputPath.display) := by
  have hlabel : "INFO: " ++ "Output path: " = "INFO: Output path: " := rfl
  rw [← hlabel, String.append_assoc]
  exact Record.text_styled pipeline.colour _ .result

lemma map_text_script_run (pipeline : Pipeline) :
    (pipeline.script .run).map (Record.text pipeline.colour) = pipeline.runEntries := by
  have hfinished : analyzerFinished.text pipeline.colour = _ :=
    Record.text_styled pipeline.colour "Analyzer finished successfully" .success
  rw [script, runEntries]
  split
  · simp only [List.map_cons, List.map_nil, noInputs, Record.text_note]
    rfl
  · simp only [List.map_cons, List.map_nil, creatingOutput, startingAnalyzer, Record.text_note,
      Record.text_command, Command.display_eq_lineOf, hfinished, pipeline.text_outputLocation]
    rfl

/-- The records of a transcript are rendered as the texts that are written down for them. -/
lemma map_text_transcript (pipeline : Pipeline) :
    pipeline.transcript.map (Record.text pipeline.colour) = pipeline.entries := by
  have hstages : pipeline.transcript =
      pipeline.script .clean ++ pipeline.script .build ++ pipeline.script .run := by
    simp [transcript, Stage.all]
  rw [hstages, List.map_append, List.map_append, map_text_script_clean, map_text_script_build,
    map_text_script_run, entries]

lemma encode_ne_nil_of_mem_entries {entry : String} (h : entry ∈ pipeline.entries) :
    Text.encode entry ≠ [] := by
  -- Each text ends its line, so it takes at least the byte for that.
  obtain ⟨front, rfl⟩ := exists_front_of_mem_entries h
  rw [Text.encode_append]
  exact List.append_ne_nil_of_right_ne_nil _ (by decide)

/-- Every text takes bytes, so the bytes tell how many of the texts there are. -/
lemma eq_entries_of_flatMap_encode_eq {told : List String} (hstart : told <+: pipeline.entries)
    (h : told.flatMap Text.encode = pipeline.entries.flatMap Text.encode) :
    told = pipeline.entries := by
  obtain ⟨rest, hrest⟩ := hstart
  have hnone : rest.flatMap Text.encode = [] := by
    rw [← hrest, List.flatMap_append] at h
    exact List.self_eq_append_right.1 h
  match rest with
  | [] => rw [← hrest, List.append_nil]
  | entry :: more =>
    have hmem : entry ∈ pipeline.entries := by simp [← hrest]
    rw [List.flatMap_cons] at hnone
    exact absurd (List.append_eq_nil_iff.1 hnone).1 (encode_ne_nil_of_mem_entries hmem)

/-- A verbose run has told an initial part of its texts, all of them if and only if it has
succeeded. -/
lemma Narrates.exists_told {happenings : List Happening}
    (h : pipeline.Narrates Stage.all outcome happenings)
    (hverbose : pipeline.config.options.verbose = true) :
    ∃ told, told <+: pipeline.entries ∧ writtenIn happenings = told.flatMap Text.encode ∧
      (outcome = .ok () ↔ told = pipeline.entries) := by
  obtain ⟨records, hstart, hspoken, hfinished, hstopped⟩ := h.told
  refine ⟨records.map (Record.text pipeline.colour), ?_, ?_, ?_, ?_⟩
  · rw [← map_text_transcript]
    exact hstart.map _
  · rw [← writtenIn_spoken, hspoken, writtenIn_told hverbose, List.flatMap_map]
    rfl
  · intro houtcome
    rw [← map_text_transcript, hfinished houtcome]
    rfl
  · intro hwhole
    rw [← map_text_transcript] at hwhole
    have hlength : records.length = pipeline.transcript.length := by
      simpa using congrArg List.length hwhole
    exact hstopped (by decide) (hstart.eq_of_length hlength)

/-- A run that is not verbose says nothing. -/
lemma Narrates.spoken_eq_nil {happenings : List Happening}
    (h : pipeline.Narrates stages outcome happenings)
    (hquiet : pipeline.config.options.verbose = false) : spoken happenings = [] := by
  obtain ⟨records, _, hspoken, _⟩ := h.told
  rw [hspoken, flatMap_told_of_quiet hquiet]

/-- What a run adds to the history is what its stages narrate, and its console follows it. -/
lemma exists_narrates (children : Children κ) (sink : Sink σ) (pipeline : Pipeline)
    (world : World κ σ) :
    let result := carryOut (pipeline.execute (World.host children sink)) world
    ∃ happenings, result.2.history = world.history ++ happenings ∧
      result.2.console = replay sink world.console happenings ∧
      pipeline.Narrates Stage.all result.1 happenings := by
  intro result
  obtain ⟨happenings, hhistory, hnarrates⟩ :=
    narrates_of_takes (takes_scene children sink pipeline world)
  obtain ⟨others, hothers, hconsole⟩ := exists_happenings children sink pipeline world
  obtain rfl : others = happenings := List.append_cancel_left (hothers.symm.trans hhistory)
  exact ⟨others, hothers, hconsole, hnarrates⟩

/-- **A run follows its wording.**  Whatever happens, a verbose run writes the texts of its pipeline
up to the end of one of them, and all of them if and only if the run succeeds.  Before each child
starts, the line with its command is the last thing that was written.  A sink that keeps what it is
given ends up with exactly these bytes.  A run that is not verbose gives its console nothing at
all. -/
theorem execute_follows_transcript (children : Children κ) (sink : Sink σ) (pipeline : Pipeline)
    (world : World κ σ) :
    let result := carryOut (pipeline.execute (World.host children sink)) world
    ∃ happenings, result.2.history = world.history ++ happenings ∧
      (pipeline.config.options.verbose = true →
        Announced happenings ∧ ∃ told, told <+: pipeline.entries ∧
          let bytes := told.flatMap Text.encode
          result.2.written = world.written ++ bytes ∧
          (∀ held, sink.Keeps held → held result.2.console = held world.console ++ bytes) ∧
          (result.1 = .ok () ↔ bytes = pipeline.entries.flatMap Text.encode)) ∧
      (pipeline.config.options.verbose = false →
        spoken happenings = [] ∧ result.2.written = world.written ∧
          result.2.console = world.console) := by
  intro result
  obtain ⟨happenings, hhistory, hconsole, hnarrates⟩ :=
    exists_narrates children sink pipeline world
  have hwritten : result.2.written = world.written ++ writtenIn happenings := by
    rw [World.written_eq, World.written_eq, ← writtenIn_append]
    exact congrArg writtenIn hhistory
  refine ⟨happenings, hhistory, fun hverbose => ?_, fun hquiet => ?_⟩
  · obtain ⟨told, hstart, hbytes, hwhole⟩ := hnarrates.exists_told hverbose
    refine ⟨hnarrates.announced hverbose, told, hstart, by rw [hwritten, hbytes], ?_, ?_, ?_⟩
    · intro held hkeeps
      rw [← hbytes, ← hkeeps.held_replay]
      exact congrArg held hconsole
    · intro houtcome
      rw [hwhole.1 houtcome]
    · intro hbytes
      exact hwhole.2 (eq_entries_of_flatMap_encode_eq hstart hbytes)
  · have hnone := hnarrates.spoken_eq_nil hquiet
    refine ⟨hnone, ?_, hconsole.trans (replay_of_spoken_eq_nil hnone)⟩
    rw [hwritten, ← writtenIn_spoken, hnone]
    exact List.append_nil _

/-- A run that cleans and has an input, on a console that shows colours. -/
example :
    let pipeline : Pipeline :=
      { config := ⟨{ inputs := [Text.encode "a.ts"], verbose := true, clean := true },
          ⟨.ofString "/r/bin", .ofString "/r"⟩⟩
        programs := .default
        colour := .ansi }
    pipeline.entries =
      ["INFO: Removing out directory\n", "INFO: Removing build directory\n",
        "INFO: Running build command\n>> tsc\n",
        "\x1b[92mINFO: Build finished successfully\x1b[0m\n",
        "INFO: Creating output directory\n",
        "INFO: Running analyzer\n>> node /r/build/main.js /r/out a.ts\n",
        "\x1b[92mINFO: Analyzer finished successfully\x1b[0m\n",
        "\x1b[1mINFO: Output path: /r/out/graph.txt\x1b[0m\n"] := by
  decide +kernel

end Pipeline

end StagedRun
