import StagedRun.Proofs.Cleaning
import StagedRun.Proofs.Options.Answers
import StagedRun.Proofs.Path.Absolute
import StagedRun.Proofs.Reporting
import StagedRun.Proofs.Text.Encoding

/-!
# The path that a run reports

The last line of a verbose run that has analyzed something tells where its result is.  The analyzer
is given the output directory and writes there, and the line is to name a file in this directory.
What it names is the directory joined with the name that the user chose, and the name may be any
text.

A name that is not absolute is put behind the directory whatever it holds, separators, dots or
nothing at all (`Config.liesInOutput_outputPath_iff`).  An absolute name replaces the directory, and
then the line names a file that the analyzer was told nothing about
(`Pipeline.execute_reports_elsewhere`).  `Pipeline.execute_reports_output` is the law of a run for
both kinds of names.

The law is about runs that succeed.  One that neither cleans nor builds does if both of its
directories are there and the analyzer succeeds (`Pipeline.execute_eq_ok`).
-/

namespace StagedRun

variable {κ σ : Type}

lemma Layout.isUtf8_output {layout : Layout} (h : layout.root.isUtf8 = true) :
    layout.output.isUtf8 = true :=
  Path.isUtf8_join h (by decide)

/-! ## Where the path lies -/

namespace Config

/-- The name that a user chose for the result, as a path. -/
def resultName (config : Config) : Path :=
  ⟨config.options.output⟩

/-- A path is that of a file in the output directory: the directory, a separator and the name.  If
the name has an ordinary component, the path goes on where the directory ends. -/
structure LiesInOutput (config : Config) (reported : Path) : Prop where
  text : reported.bytes =
    config.layout.output.bytes ++ Path.separator :: config.resultName.bytes
  below : (∃ part, .name part ∈ config.resultName.components) →
    config.layout.output.components <+: reported.components ∧
      config.layout.output.components ≠ reported.components

variable {config : Config}

lemma outputPath_of_isAbsolute (h : config.resultName.isAbsolute = true) :
    config.outputPath = config.resultName :=
  Path.join_of_isAbsolute _ h

lemma bytes_outputPath (h : config.resultName.isAbsolute = false) :
    config.outputPath.bytes =
      config.layout.output.bytes ++ Path.separator :: config.resultName.bytes := by
  have hname : (⟨config.options.output⟩ : Path).isAbsolute = false := h
  rw [outputPath, Path.join, hname, config.layout.isEmpty_output,
    config.layout.endsInSeparator_output]
  rfl

lemma components_outputPath (h : config.resultName.isAbsolute = false) :
    config.outputPath.components = config.layout.output.components ++
      config.resultName.names.map Path.componentOf := by
  have houtput : config.layout.output.bytes ≠ [] :=
    fun hbytes => by simpa [Path.isEmpty, hbytes] using config.layout.isEmpty_output
  have hpath : config.outputPath =
      ⟨config.layout.output.bytes ++ Path.separator :: config.resultName.bytes⟩ :=
    congrArg Path.mk (bytes_outputPath h)
  rw [hpath]
  exact Path.components_append_separator houtput config.resultName.bytes

/-- The reported path lies in the output directory exactly if the name is not absolute. -/
theorem liesInOutput_outputPath_iff (config : Config) :
    config.LiesInOutput config.outputPath ↔ config.resultName.isAbsolute = false := by
  constructor
  · intro h
    by_contra habsolute
    rw [Bool.not_eq_false] at habsolute
    have hlength := congrArg List.length h.text
    rw [outputPath_of_isAbsolute habsolute, List.length_append, List.length_cons] at hlength
    omega
  · intro h
    refine ⟨bytes_outputPath h, ?_⟩
    rintro ⟨part, hpart⟩
    rw [components_outputPath h]
    refine ⟨List.prefix_append _ _, fun hsame => ?_⟩
    -- An ordinary component comes from a segment, so the name adds at least that one.
    have hnone : config.resultName.names.map Path.componentOf = [] :=
      List.append_right_eq_self.1 hsame.symm
    rw [Path.components, hnone, List.append_nil] at hpart
    cases hanchor : config.resultName.anchor <;> simp [hanchor, Path.Anchor.components] at hpart

/-- The reported path is shown as it is, as both of its parts are texts. -/
lemma encode_display_outputPath (hroot : config.layout.root.isUtf8 = true)
    (hname : Text.isUtf8 config.options.output = true) :
    Text.encode config.outputPath.display = config.outputPath.bytes :=
  Text.encode_lossy (Path.isUtf8_join (Layout.isUtf8_output hroot) hname)

end Config

/-! ## A run that only analyzes -/

namespace Pipeline

variable {pipeline : Pipeline} {children : Children κ} {scene after : Scene κ}
  {outcome : Except Failure Unit}

lemma Cleans.of_skipped (hclean : pipeline.config.options.clean = false)
    (h : pipeline.Cleans scene outcome after) : outcome = .ok () ∧ after = scene := by
  cases h with
  | skipped _ => exact ⟨rfl, rfl⟩
  | stopped hcleans _ | went hcleans _ _ =>
    rw [hclean] at hcleans
    cases hcleans

lemma Analyzes.eq_ok (h : pipeline.Analyzes children scene outcome after)
    (hfurnished : pipeline.Furnished scene.files scene.current)
    (hanswer : ∀ known files,
      (children.answer pipeline.runCommand known files).1 = .ok (.exited 0)) :
    outcome = .ok () := by
  obtain ⟨hthere, houtput⟩ := hfurnished
  cases h with
  | idle _ | succeeded _ _ _ _ => rfl
  | missing _ hbuild =>
    have hthere' : scene.isDirectory pipeline.config.layout.build = true := hthere
    rw [hthere'] at hbuild
    cases hbuild
  | unmade _ _ hunmade =>
    have hmade : scene.files.makeDirectories scene.current pipeline.config.layout.output =
        (scene.files, .ok ()) :=
      FileSystem.makeDirectories_of_isDirectory Layout.isPlain_outputName houtput
    rw [hmade] at hunmade
    cases hunmade
  | failed _ _ _ hfailed =>
    rw [Scene.answerTo, ChildFailure.of?_eq_none_iff.2 (hanswer _ _)] at hfailed
    cases hfailed

lemma eq_ok_of_takes
    (h : pipeline.Takes (Scene.host children) Stage.all scene outcome after)
    (hclean : pipeline.config.options.clean = false)
    (hbuild : pipeline.config.options.build = false)
    (hfurnished : pipeline.Furnished scene.files scene.current)
    (hanswer : ∀ known files,
      (children.answer pipeline.runCommand known files).1 = .ok (.exited 0)) :
    outcome = .ok () := by
  cases h with
  | failed hstage => cases (Cleans.of_skipped hclean (goes_of_carryOut hstage)).1
  | passed hstage hrest =>
    obtain ⟨_, rfl⟩ := Cleans.of_skipped hclean (goes_of_carryOut hstage)
    cases hrest with
    | failed hstage => cases (Builds.of_skipped hbuild (goes_of_carryOut hstage)).1
    | passed hstage hrest =>
      -- One line has been told so far, and the files are those of the start.
      obtain ⟨_, rfl⟩ := Builds.of_skipped hbuild (goes_of_carryOut hstage)
      have hanalyzes : pipeline.Analyzes children _ outcome after :=
        goes_of_takes_singleton hrest
      exact hanalyzes.eq_ok hfurnished hanswer

/-- A run that neither cleans nor builds succeeds if both directories are there and the analyzer
succeeds. -/
theorem execute_eq_ok {sink : Sink σ} {world : World κ σ}
    (hclean : pipeline.config.options.clean = false)
    (hbuild : pipeline.config.options.build = false)
    (hfurnished : pipeline.Furnished world.files world.current)
    (hanswer : ∀ known files,
      (children.answer pipeline.runCommand known files).1 = .ok (.exited 0)) :
    (carryOut (pipeline.execute (World.host children sink)) world).1 = .ok () := by
  exact eq_ok_of_takes (takes_scene children sink pipeline world) hclean hbuild hfurnished hanswer

/-- A repository at `/r` that has been built and run before. -/
def usedRepository : FileSystem :=
  let place : Place := [Text.encode "r"]
  let root := FileSystem.empty.insert (Text.encode "r") [] .directory rfl rfl
  let built := root.insert (Text.encode "build") place .directory rfl rfl
  built.insert (Text.encode "out") place .directory rfl rfl

lemma furnished_usedRepository (hroot : pipeline.config.layout.root = .ofString "/r") :
    pipeline.Furnished usedRepository [] := by
  have hjoin : (Path.ofString "/").join ⟨Text.encode "r"⟩ = .ofString "/r" := by decide +kernel
  have hinto : usedRepository.LeadsInto [] (.ofString "/r") [Text.encode "r"] := by
    rw [← hjoin]
    exact (usedRepository.leadsInto_root []).join (by decide) (by decide) rfl (by decide +kernel)
  have hthere (name : Name) (hname : Path.IsPlain name) (hlength : name.length ≤ 5)
      (hentry : usedRepository.get? [name, Text.encode "r"] = some .directory)
      (hcheck : FileSystem.checkPath ((Path.ofString "/r").join ⟨name⟩) = .ok ()) :
      usedRepository.isDirectory [] ((Path.ofString "/r").join ⟨name⟩) = true :=
    (hinto.join hname (hlength.trans (by decide)) rfl hentry).isDirectory hname hcheck hentry
  rw [Furnished, Layout.build, Layout.output, hroot]
  exact ⟨hthere _ Layout.isPlain_buildName (by decide) (by decide +kernel) (by decide +kernel),
    hthere _ Layout.isPlain_outputName (by decide) (by decide +kernel) (by decide +kernel)⟩

/-! ## A run -/

/-- A verbose run that has succeeded on some input has told its location last. -/
lemma exists_written_execute {sink : Sink σ} {world : World κ σ}
    (hverbose : pipeline.config.options.verbose = true)
    (hinputs : pipeline.config.options.inputs ≠ [])
    (hok : (carryOut (pipeline.execute (World.host children sink)) world).1 = .ok ()) :
    ∃ earlier, (carryOut (pipeline.execute (World.host children sink)) world).2.written =
      world.written ++ earlier ++ Text.encode (Tone.result.line pipeline.colour
        ("INFO: Output path: " ++ pipeline.config.outputPath.display)) := by
  obtain ⟨happenings, told, hadds, hrecites, hbytes⟩ :=
    exists_recites children sink pipeline world
  have htold : told = pipeline.entries := by
    cases hrecites with
    | quiet hquiet =>
      rw [hverbose] at hquiet
      cases hquiet
    | verbose _ _ hwhole => exact hwhole.1 hok
  obtain ⟨earlier, hentries⟩ : ∃ earlier, pipeline.entries = earlier ++
      [Tone.result.line pipeline.colour
        ("INFO: Output path: " ++ pipeline.config.outputPath.display)] := by
    rw [entries, runEntries, if_neg hinputs]
    exact ⟨_, (List.append_assoc _ [_, _, _] [_]).symm⟩
  rw [hadds.written_eq, hbytes, htold, hentries, List.flatMap_append, List.flatMap_singleton,
    ← List.append_assoc]
  exact ⟨_, rfl⟩

/-- **What a run reports.**  The last line of a verbose run that succeeds names a path, byte by byte.
For a name that is not absolute this is the directory that the analyzer was given, a separator and
the name, so it goes on below that directory.  For an absolute name it is the name alone. -/
theorem execute_reports_output (children : Children κ) (sink : Sink σ) (pipeline : Pipeline)
    (world : World κ σ) {root : Option ByteString} {arguments : List ByteString}
    (hparse : Options.parse root arguments = .ok pipeline.config.options)
    (hroot : pipeline.config.layout.root.isUtf8 = true)
    (hverbose : pipeline.config.options.verbose = true)
    (hinputs : pipeline.config.options.inputs ≠ [])
    (hok : (carryOut (pipeline.execute (World.host children sink)) world).1 = .ok ()) :
    let config := pipeline.config
    let last := (carryOut (pipeline.execute (World.host children sink)) world).2
    ∃ earlier reported commands,
      last.written = world.written ++ earlier ++ Text.encode
        (Tone.result.line pipeline.colour ("INFO: Output path: " ++ reported.display)) ∧
      Text.encode reported.display = reported.bytes ∧
      last.commands = world.commands ++ commands ++
        [⟨pipeline.programs.runtime, (config.layout.build.join (.ofString Config.entryName)).bytes ::
          config.layout.output.bytes :: config.options.inputs⟩] ∧
      (config.LiesInOutput reported ↔ config.resultName.isAbsolute = false) ∧
      (config.resultName.isAbsolute = true → reported = config.resultName) := by
  intro config last
  obtain ⟨earlier, hwritten⟩ := exists_written_execute hverbose hinputs hok
  have hcommands := commands_execute hok
  rw [plan, if_neg hinputs, ← List.append_assoc] at hcommands
  have hname := Options.isUtf8_output_of_parse hparse
  exact ⟨earlier, config.outputPath, _, hwritten, Config.encode_display_outputPath hroot hname,
    hcommands, config.liesInOutput_outputPath_iff, Config.outputPath_of_isAbsolute⟩

/-- A name with a separator and two dots in it. -/
theorem execute_reports_output_dots :
    let arguments := ["-nvo", "../g.txt", "-i", "a.ts"].map Text.encode
    let options : Options :=
      { build := false, inputs := [Text.encode "a.ts"], output := Text.encode "../g.txt",
        verbose := true }
    let pipeline : Pipeline :=
      { config := ⟨options, ⟨.ofString "/r/bin", .ofString "/r"⟩⟩
        programs := .default
        colour := .plain }
    let idle : Children Unit := ⟨fun _ _ files => (.ok (.exited 0), (), files)⟩
    let world := World.fresh usedRepository [] () ({} : Kept)
    let result := carryOut (pipeline.execute (World.host idle (.bounded none))) world
    Options.parse none arguments = .ok options ∧
      pipeline.config.layout.root.isUtf8 = true ∧
      options.verbose = true ∧ options.inputs ≠ [] ∧ result.1 = .ok () ∧
      ∃ earlier reported commands,
        result.2.written = world.written ++ earlier ++
          Text.encode ("INFO: Output path: " ++ reported.display ++ "\n") ∧
        Text.encode reported.display = reported.bytes ∧
        result.2.commands = world.commands ++ commands ++
          [⟨Text.encode "node", [Text.encode "/r/build/main.js", Text.encode "/r/out",
            Text.encode "a.ts"]⟩] ∧
        (pipeline.config.LiesInOutput reported ↔
          pipeline.config.resultName.isAbsolute = false) ∧
        (pipeline.config.resultName.isAbsolute = true →
          reported = pipeline.config.resultName) := by
  intro arguments options pipeline idle world result
  have hparse : Options.parse none arguments = .ok options := by decide +kernel
  have hroot : pipeline.config.layout.root.isUtf8 = true := by decide +kernel
  have hok : result.1 = .ok () :=
    execute_eq_ok rfl rfl (furnished_usedRepository rfl) fun _ _ => rfl
  have hcommand : pipeline.runCommand = ⟨Text.encode "node", [Text.encode "/r/build/main.js",
      Text.encode "/r/out", Text.encode "a.ts"]⟩ := by decide +kernel
  rw [← hcommand]
  exact ⟨hparse, hroot, rfl, List.cons_ne_nil _ _, hok,
    execute_reports_output idle (.bounded none) pipeline world hparse hroot rfl
      (List.cons_ne_nil _ _) hok⟩

/-- An absolute name is reported as it is, although the analyzer was given the output directory as
ever. -/
theorem execute_reports_elsewhere :
    let arguments := ["-nvo", "/tmp/graph.txt", "-i", "a.ts"].map Text.encode
    let options : Options :=
      { build := false, inputs := [Text.encode "a.ts"], output := Text.encode "/tmp/graph.txt",
        verbose := true }
    let config : Config := ⟨options, ⟨.ofString "/r/bin", .ofString "/r"⟩⟩
    let pipeline : Pipeline := ⟨config, .default, .plain⟩
    let idle : Children Unit := ⟨fun _ _ files => (.ok (.exited 0), (), files)⟩
    let world := World.fresh usedRepository [] () ({} : Kept)
    let result := carryOut (pipeline.execute (World.host idle (.bounded none))) world
    let reported : Path := .ofString "/tmp/graph.txt"
    Options.parse none arguments = .ok options ∧ result.1 = .ok () ∧
      Text.encode "INFO: Output path: /tmp/graph.txt\n" <:+ result.2.written ∧
      result.2.commands = [⟨Text.encode "node", [Text.encode "/r/build/main.js",
        Text.encode "/r/out", Text.encode "a.ts"]⟩] ∧
      reported.bytes ≠ config.layout.output.bytes ++ Path.separator :: options.output ∧
      .name (Text.encode "graph.txt") ∈ config.resultName.components ∧
      ¬config.layout.output.components <+: reported.components := by
  intro arguments options config pipeline idle world result reported
  have hok : result.1 = .ok () :=
    execute_eq_ok rfl rfl (furnished_usedRepository rfl) fun _ _ => rfl
  obtain ⟨earlier, hwritten⟩ := exists_written_execute rfl (List.cons_ne_nil _ _) hok
  have hline : Text.encode (Tone.result.line .plain
        ("INFO: Output path: " ++ config.outputPath.display)) =
      Text.encode "INFO: Output path: /tmp/graph.txt\n" := by
    decide +kernel
  have hplan : pipeline.plan = [⟨Text.encode "node", [Text.encode "/r/build/main.js",
      Text.encode "/r/out", Text.encode "a.ts"]⟩] := by decide +kernel
  refine ⟨by decide +kernel, hok, ?_, ?_, by decide +kernel, by decide +kernel, by decide +kernel⟩
  · rw [← hline]
    exact ⟨_, hwritten.symm⟩
  · rw [← hplan]
    exact commands_execute hok

end Pipeline

end StagedRun
