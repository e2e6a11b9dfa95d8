import Mathlib.Logic.ExistsUnique
import StagedRun.Proofs.ExitStatus
import StagedRun.Proofs.Transcript

/-!
# What a program tells

A program that has read its command line tells what its pipeline tells, and then how the run ended.
After a success there is nothing to add.  A failure is one line, and in a verbose run the causes
behind it follow, the nearest first, and advice where there is some.  `main_tells` is this law for
every program, every world and every sink.  Like the texts of a pipeline, those of a report are
written down here as they stand on a console: `closes_report` says that the records of a report are
rendered as these texts.

The causes are found by asking each for the next one.  `Cause.Unwinds` describes this walk without a
bound on its length.  It comes to an end for every failure (`unwinds_chain`), however many reasons an
error holds, and there is only one way for it to go (`Unwinds.unique`).

`World.Adds` follows a history and its console together, so what is told last can be put behind what
the pipeline told.
-/

namespace StagedRun

variable {κ σ : Type}

/-! ## The causes behind a failure -/

namespace Cause

/-- The list holds a cause, the one behind it, and so on up to one with nothing behind it. -/
inductive Unwinds : Option Cause → List Cause → Prop
  | done : Unwinds none []
  | next {cause : Cause} {rest : List Cause} (hrest : Unwinds cause.next? rest) :
      Unwinds (some cause) (cause :: rest)

lemma unwinds_chain (cause : Cause) : Unwinds (some cause) cause.chain := by
  induction cause using Cause.chain.induct with
  | case1 cause hlast =>
    rw [chain]
    split
    · refine .next ?_
      rw [hlast]
      exact .done
    · next next hnext =>
      rw [hlast] at hnext
      cases hnext
  | case2 cause next hnext ih =>
    rw [chain]
    split
    · next hlast =>
      rw [hlast] at hnext
      cases hnext
    · next found hfound =>
      obtain rfl := Option.some.inj (hnext.symm.trans hfound)
      refine .next ?_
      rw [hnext]
      exact ih

lemma Unwinds.unique {first? : Option Cause} {causes others : List Cause}
    (h : Unwinds first? causes) (h' : Unwinds first? others) : others = causes := by
  induction h generalizing others with
  | done =>
    cases h'
    rfl
  | next _ ih =>
    cases h' with
    | next hrest => rw [ih hrest]

end Cause

namespace Failure

lemma unwinds_chain (failure : Failure) : Cause.Unwinds failure.cause? failure.chain := by
  unfold chain
  cases hcause : failure.cause? with
  | none => exact .done
  | some cause => exact cause.unwinds_chain

/-- The walk to the last cause ends for every failure, in one way. -/
lemma existsUnique_unwinds (failure : Failure) :
    ∃! causes, Cause.Unwinds failure.cause? causes :=
  ⟨failure.chain, failure.unwinds_chain, fun _ h => failure.unwinds_chain.unique h⟩

lemma help?_isSome_iff (failure : Failure) :
    failure.help?.isSome = true ↔ (∃ path, failure = .noParentDirectory path) ∨
      ∃ path, failure = .buildDirectoryMissing path := by
  cases failure <;> simp [help?]

end Failure

/-! ## Telling in a world -/

namespace World

/-- A world has gone on to `after`, and its console holds what happened on the way made of it. -/
structure Adds (sink : Sink σ) (world after : World κ σ) (happenings : List Happening) : Prop where
  history : after.history = world.history ++ happenings
  console : after.console = replay sink world.console happenings

variable {sink : Sink σ} {world midway after : World κ σ} {happenings more : List Happening}

lemma adds_refl (sink : Sink σ) (world : World κ σ) : world.Adds sink world [] :=
  ⟨(List.append_nil _).symm, rfl⟩

lemma Adds.trans (h : world.Adds sink midway happenings) (h' : midway.Adds sink after more) :
    world.Adds sink after (happenings ++ more) where
  history := by rw [h'.history, h.history, List.append_assoc]
  console := by
    rw [h'.console, h.console, replay_append]

lemma Adds.written_eq (h : world.Adds sink after happenings) :
    after.written = world.written ++ writtenIn happenings := by
  rw [World.written_eq, World.written_eq, h.history, writtenIn_append]

lemma adds_note (sink : Sink σ) (world : World κ σ) (diagnostic : Diagnostic) :
    world.Adds sink (world.note diagnostic) [] := by
  unfold note
  split
  · exact ⟨(List.append_nil _).symm, rfl⟩
  · exact world.adds_refl sink

lemma adds_tell (children : Children κ) (sink : Sink σ) (colour : Colour) (record : Record)
    (world : World κ σ) :
    world.Adds sink (((host children sink).tell colour record).run world).2
      (record.writes colour) := by
  unfold Host.tell Record.writes
  induction record.chunks colour generalizing world with
  | nil => exact world.adds_refl sink
  | cons chunk rest ih =>
    have hfirst : world.Adds sink (world.emit sink (Text.encode chunk))
        [.wrote (Text.encode chunk)] := ⟨rfl, rfl⟩
    exact hfirst.trans (ih _)

lemma adds_tellAll (children : Children κ) (sink : Sink σ) (colour : Colour)
    (records : List Record) (world : World κ σ) :
    world.Adds sink ((records.forM ((host children sink).tell colour)).run world).2
      (records.flatMap (Record.writes colour)) := by
  induction records generalizing world with
  | nil => exact world.adds_refl sink
  | cons record rest ih =>
    have hfirst := world.adds_tell children sink colour record
    exact hfirst.trans (ih _)

end World

namespace Pipeline

/-- What a run tells are its texts up to the end of one of them, and all of them if and only if it
succeeds.  Unless it is verbose it tells nothing. -/
inductive Recites (pipeline : Pipeline) (outcome : Except Failure Unit) : List String → Prop
  | quiet (hquiet : pipeline.config.options.verbose = false) : Recites pipeline outcome []
  | verbose {told : List String} (hverbose : pipeline.config.options.verbose = true)
      (hstart : told <+: pipeline.entries) (hwhole : outcome = .ok () ↔ told = pipeline.entries) :
      Recites pipeline outcome told

lemma exists_recites (children : Children κ) (sink : Sink σ) (pipeline : Pipeline)
    (world : World κ σ) :
    let result := carryOut (pipeline.execute (World.host children sink)) world
    ∃ happenings told, world.Adds sink result.2 happenings ∧
      pipeline.Recites result.1 told ∧ writtenIn happenings = told.flatMap Text.encode := by
  intro result
  obtain ⟨happenings, hhistory, hconsole, hnarrates⟩ :=
    exists_narrates children sink pipeline world
  have hadds : world.Adds sink result.2 happenings := ⟨hhistory, hconsole⟩
  cases hverbose : pipeline.config.options.verbose with
  | false =>
    have hnone : writtenIn happenings = [] := by
      rw [← writtenIn_spoken, hnarrates.spoken_eq_nil hverbose]
      rfl
    exact ⟨happenings, [], hadds, .quiet hverbose, hnone⟩
  | true =>
    obtain ⟨told, hstart, hbytes, hwhole⟩ := hnarrates.exists_told hverbose
    exact ⟨happenings, told, hadds, .verbose hverbose hstart hwhole, hbytes⟩

end Pipeline

namespace Program

/-! ## Before the end and after it -/

/-- What a program tells of its attempt: nothing if it does not find its directories, and what its
pipeline tells if it does. -/
inductive Opens (environment : Environment) (options : Options) :
    Except Failure Layout → Except Failure Unit → List String → Prop
  | lost (failure : Failure) : Opens environment options (.error failure) (.error failure) []
  | took {layout : Layout} {outcome : Except Failure Unit} {told : List String}
      (hrecites : (pipelineFor environment ⟨options, layout⟩).Recites outcome told) :
      Opens environment options (.ok layout) outcome told

/-- The line that reports a failure. -/
def failureLine (colour : Colour) (failure : Failure) : String :=
  Tone.failure.line colour ("ERROR: " ++ failure.message)

/-- What a program tells at its end: nothing after a success, and one line for a failure.  A verbose
program adds a line for each cause, up to the last one, and one for advice if there is some. -/
inductive Closes (colour : Colour) (verbose : Bool) : Except Failure Unit → List String → Prop
  | succeeded : Closes colour verbose (.ok ()) []
  | brief {failure : Failure} (hverbose : verbose = false) :
      Closes colour verbose (.error failure) [failureLine colour failure]
  | explained {failure : Failure} {causes : List Cause} (hverbose : verbose = true)
      (hcauses : Cause.Unwinds failure.cause? causes) :
      Closes colour verbose (.error failure) (failureLine colour failure ::
        causes.map (fun cause => "INFO: caused by: " ++ cause.message ++ "\n") ++
          failure.help?.toList.map fun help => "INFO: help: " ++ help ++ "\n")

/-- All that a program tells if it is not verbose. -/
def outcomeLines (colour : Colour) : Except Failure Unit → List String
  | .ok _ => []
  | .error failure => [failureLine colour failure]

lemma Closes.eq_outcomeLines {colour : Colour} {verbose : Bool} {outcome : Except Failure Unit}
    {told : List String} (hquiet : verbose = false) (h : Closes colour verbose outcome told) :
    told = outcomeLines colour outcome := by
  cases h with
  | succeeded => rfl
  | brief _ => rfl
  | explained hverbose _ =>
    rw [hquiet] at hverbose
    cases hverbose

lemma text_causeRecord (colour : Colour) (cause : Cause) :
    (causeRecord cause).text colour = "INFO: caused by: " ++ cause.message ++ "\n" := by
  have hlabel : "INFO: " ++ "caused by: " = "INFO: caused by: " := rfl
  rw [causeRecord, Record.text_note, ← String.append_assoc, hlabel]

lemma text_helpRecord (colour : Colour) (help : String) :
    (helpRecord help).text colour = "INFO: help: " ++ help ++ "\n" := by
  have hlabel : "INFO: " ++ "help: " = "INFO: help: " := rfl
  rw [helpRecord, Record.text_note, ← String.append_assoc, hlabel]

lemma closes_report (colour : Colour) (verbose : Bool) (failure : Failure) :
    Closes colour verbose (.error failure)
      ((report verbose failure).map (Record.text colour)) := by
  have hfirst : (Record.error failure.message).text colour = failureLine colour failure :=
    Record.text_error colour failure.message
  cases verbose with
  | false =>
    have hreport : (report false failure).map (Record.text colour) =
        [failureLine colour failure] := congrArg (fun line => [line]) hfirst
    rw [hreport]
    exact .brief rfl
  | true =>
    have hreport : (report true failure).map (Record.text colour) =
        failureLine colour failure ::
          failure.chain.map (fun cause => "INFO: caused by: " ++ cause.message ++ "\n") ++
            failure.help?.toList.map fun help => "INFO: help: " ++ help ++ "\n" := by
      have hcauses : Record.text colour ∘ causeRecord =
          fun cause => "INFO: caused by: " ++ cause.message ++ "\n" :=
        funext (text_causeRecord colour)
      cases hhelp : failure.help? <;>
        simp [report, hfirst, hcauses, text_helpRecord, hhelp]
    rw [hreport]
    exact .explained rfl failure.unwinds_chain

variable {children : Children κ} {sink : Sink σ} {executable : Except SystemError Path}
  {environment : Environment} {arguments : List ByteString} {options : Options}
  {world after : World κ σ} {outcome : Except Failure Unit}

lemma Attempts.exists_opens
    (h : Attempts children sink executable environment options world outcome after) :
    ∃ happenings told, world.Adds sink after happenings ∧
      Opens environment options
        (Layout.discover executable world.currentDirectory options.root) outcome told ∧
      writtenIn happenings = told.flatMap Text.encode := by
  cases h with
  | @lost failure hlayout =>
    rw [hlayout]
    exact ⟨[], [], world.adds_refl sink, .lost failure, rfl⟩
  | @took layout _ _ hlayout htakes =>
    have hrecites := Pipeline.exists_recites children sink
      (pipelineFor environment ⟨options, layout⟩) world
    have hexecute : carryOut ((pipelineFor environment ⟨options, layout⟩).execute
        (World.host children sink)) world = (outcome, after) := Pipeline.takes_iff.1 htakes
    rw [hexecute] at hrecites
    obtain ⟨happenings, told, hadds, hrecites, hwritten⟩ := hrecites
    rw [hlayout]
    exact ⟨happenings, told, hadds, .took hrecites, hwritten⟩

lemma exists_closes
    (h : Options.parse (environment Options.rootVariable) arguments = .ok options)
    (hattempt : Attempts children sink executable environment options
      { world with listening := options.verbose } outcome after) :
    ∃ happenings told,
      after.Adds sink ((main (World.machine children sink executable) environment arguments).run
        world).2 happenings ∧
      Closes (Colour.ofEnvironment environment) options.verbose outcome told ∧
      writtenIn happenings = told.flatMap Text.encode := by
  let colour := Colour.ofEnvironment environment
  rw [main_run_of_attempts h hattempt]
  cases outcome with
  | ok _ => exact ⟨[], [], after.adds_refl sink, .succeeded, rfl⟩
  | error failure =>
    have htold := after.adds_tellAll children sink colour (report options.verbose failure)
    have hnoted := htold.trans (World.adds_note sink _ (.runFailed failure))
    refine ⟨_, _, hnoted, closes_report colour options.verbose failure, ?_⟩
    rw [List.append_nil, writtenIn_flatMap_writes, List.flatMap_map]
    rfl

lemma Opens.eq_nil_of_quiet {discovered : Except Failure Layout} {told : List String}
    (hquiet : options.verbose = false) (h : Opens environment options discovered outcome told) :
    told = [] := by
  cases h with
  | lost failure => rfl
  | took hrecites =>
    cases hrecites with
    | quiet _ => rfl
    | verbose hverbose _ _ =>
      have hsame : options.verbose = true := hverbose
      rw [hquiet] at hsame
      cases hsame

/-- What the console was given between a `world`, the world `after` the attempt, and the `last` one
of the program. -/
structure Tells (sink : Sink σ) (environment : Environment) (options : Options)
    (discovered : Except Failure Layout) (outcome : Except Failure Unit)
    (world after last : World κ σ) : Prop where
  parts : ∃ opening closing,
    Opens environment options discovered outcome opening ∧
    Closes (Colour.ofEnvironment environment) options.verbose outcome closing ∧
    after.written = world.written ++ opening.flatMap Text.encode ∧
    last.written = after.written ++ closing.flatMap Text.encode ∧
    ∀ held, sink.Keeps held →
      held last.console = held world.console ++ (opening ++ closing).flatMap Text.encode
  /-- A program that is not verbose tells nothing but a failure. -/
  quiet : options.verbose = false → last.written = world.written ++
    (outcomeLines (Colour.ofEnvironment environment) outcome).flatMap Text.encode

lemma Attempts.tells
    (h : Options.parse (environment Options.rootVariable) arguments = .ok options)
    (hattempt : Attempts children sink executable environment options
      { world with listening := options.verbose } outcome after) :
    Tells sink environment options
      (Layout.discover executable world.currentDirectory options.root) outcome world after
      ((main (World.machine children sink executable) environment arguments).run world).2 := by
  obtain ⟨first, opening, hfirst, hopens, hopening⟩ := hattempt.exists_opens
  obtain ⟨last, closing, hlast, hcloses, hclosing⟩ := exists_closes h hattempt
  have hbefore : after.written = world.written ++ opening.flatMap Text.encode := by
    rw [hfirst.written_eq, hopening]
    rfl
  have hafter := hlast.written_eq
  rw [hclosing] at hafter
  have hconsole := (hfirst.trans hlast).console
  constructor
  case parts =>
    refine ⟨opening, closing, hopens, hcloses, hbefore, hafter, fun held hkeeps => ?_⟩
    rw [hconsole, hkeeps.held_replay, writtenIn_append, hopening, hclosing, List.flatMap_append]
  case quiet =>
    intro hquiet
    rw [hafter, hbefore, hopens.eq_nil_of_quiet hquiet, hcloses.eq_outcomeLines hquiet,
      List.flatMap_nil, List.append_nil]

/-- **What a program tells.**  Once its command line is read, a program tells what its pipeline
tells, which is nothing if the directories are not found, and after a failure it reports that
failure.  Nothing else reaches the console, in this order.  A program that is not verbose tells
nothing before its end, so all that it ever tells is the one line for a failure.  Advice is there for
exactly two failures, and the walk along the causes of a failure always ends. -/
theorem main_tells (children : Children κ) (sink : Sink σ) (executable : Except SystemError Path)
    (environment : Environment) {arguments : List ByteString} {options : Options}
    (h : Options.parse (environment Options.rootVariable) arguments = .ok options)
    (world : World κ σ) :
    let last := ((main (World.machine children sink executable) environment arguments).run world).2
    let discovered := Layout.discover executable world.currentDirectory options.root
    (∃ outcome after,
      Attempts children sink executable environment options
          { world with listening := options.verbose } outcome after ∧
        Tells sink environment options discovered outcome world after last) ∧
      (∀ failure : Failure, failure.help?.isSome = true ↔
        (∃ path, failure = .noParentDirectory path) ∨
          ∃ path, failure = .buildDirectoryMissing path) ∧
      ∀ failure : Failure, ∃! causes, Cause.Unwinds failure.cause? causes := by
  intro last discovered
  refine ⟨?_, Failure.help?_isSome_iff, Failure.existsUnique_unwinds⟩
  rcases hcarry : carryOut (attempt (World.machine children sink executable) environment options)
    { world with listening := options.verbose } with ⟨outcome, after⟩
  have hattempt := attempts_iff.2 hcarry
  exact ⟨outcome, after, hattempt, hattempt.tells h⟩

/-- A verbose program right below the root directory, where there is no directory for it to work
in. -/
theorem main_tells_lost :
    let environment : Environment := fun _ => none
    let arguments := [Text.encode "-vi", Text.encode "a.ts"]
    let options : Options := { inputs := [Text.encode "a.ts"], verbose := true }
    let executable : Except SystemError Path := .ok (.ofString "/graphrun")
    let idle : Children Unit := ⟨fun _ _ files => (.ok (.exited 0), (), files)⟩
    let world := World.fresh .empty [] () ({} : Kept)
    let last := ((main (World.machine idle (.bounded none) executable) environment arguments).run
      world).2
    let discovered := Layout.discover executable world.currentDirectory options.root
    Options.parse (environment Options.rootVariable) arguments = .ok options ∧
      (∃ outcome after,
        Attempts idle (.bounded none) executable environment options
            { world with listening := options.verbose } outcome after ∧
          Tells (.bounded none) environment options discovered outcome world after last) ∧
      last.written = Text.encode
        ("\x1b[91m\x1b[1mERROR: Path / has no parent directory\x1b[0m\n" ++
          "INFO: help: pass --root to name the repository root explicitly\n") ∧
      (∀ failure : Failure, failure.help?.isSome = true ↔
        (∃ path, failure = .noParentDirectory path) ∨
          ∃ path, failure = .buildDirectoryMissing path) ∧
      ∀ failure : Failure, ∃! causes, Cause.Unwinds failure.cause? causes := by
  intro environment arguments options executable idle world last discovered
  have hparse : Options.parse (environment Options.rootVariable) arguments = .ok options := by rfl
  have hwritten : last.written = Text.encode
      ("\x1b[91m\x1b[1mERROR: Path / has no parent directory\x1b[0m\n" ++
        "INFO: help: pass --root to name the repository root explicitly\n") := by
    decide +kernel
  obtain ⟨htells, hrest⟩ := main_tells idle (.bounded none) executable environment hparse world
  exact ⟨hparse, htells, hwritten, hrest⟩

/-- A compiler that could not be started, for a reason that holds another one. -/
example :
    (report true (.buildFailed (.notStarted (Text.encode "tsc")
        (.custom .other "no answer from the loader" ["the loader is busy"])))).map
        (Record.text .plain) =
      ["ERROR: Build failed\n", "INFO: caused by: failed to run tsc\n",
        "INFO: caused by: no answer from the loader\n", "INFO: caused by: the loader is busy\n"] := by
  decide +kernel

end Program

end StagedRun
