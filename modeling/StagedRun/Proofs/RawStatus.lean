import StagedRun.Proofs.CommandOrder
import StagedRun.Proofs.Reporting

/-!
# Raw statuses

The system tells how a child ended in thirty-two bits.  `AnsweredBy` is how the program answers for a
child that failed: with the code of the child, or with 128 more than the signal that ended it.  Both
lie between 1 and 255 when there was a failure, so nothing is lost on the way to the status of the
program (`answeredBy_exitStatusOf`).

A child that was run decides its stage, and if it fails it decides the whole program, because no
command comes after a failure.  `Program.main_answers_raw_status` is the law of both.  It speaks of
the children that were run, and a build stage that is not skipped runs one
(`Pipeline.exists_dealing_build`).
-/

namespace StagedRun

variable {κ σ : Type}

/-- What a program answers with for a child that left a raw status. -/
structure AnsweredBy (raw : UInt32) (status : UInt8) : Prop where
  /-- The child ended by itself. -/
  code : raw &&& 0x7F = 0 → status.toNat = ((raw >>> 8) &&& 0xFF).toNat
  /-- A signal ended the child. -/
  signal : raw &&& 0x7F ≠ 0 → raw &&& 0x7F ≠ 0x7F →
    status.toNat = 128 + (raw &&& 0x7F).toNat
  /-- The child did not end. -/
  neither : raw &&& 0x7F = 0x7F → status = 1

/-! ## Reading the bits -/

namespace Exit

variable {raw : UInt32}

lemma ofStatus_of_code (h : raw &&& 0x7F = 0) :
    ofStatus raw = .exited ((raw >>> 8) &&& 0xFF).toNat := by
  simp [ofStatus, h]

lemma ofStatus_of_signal (h : raw &&& 0x7F ≠ 0) (h' : raw &&& 0x7F ≠ 0x7F) :
    ofStatus raw = .killed (raw &&& 0x7F).toNat := by
  simp [ofStatus, h, h']

lemma ofStatus_of_neither (h : raw &&& 0x7F = 0x7F) : ofStatus raw = .unknown := by
  simp [ofStatus, h]

lemma ofStatus_eq_success_iff :
    ofStatus raw = .exited 0 ↔ raw &&& 0x7F = 0 ∧ (raw >>> 8) &&& 0xFF = 0 := by
  by_cases hsignal : raw &&& 0x7F = 0
  · rw [ofStatus_of_code hsignal, ← UInt32.toNat_inj (a := (raw >>> 8) &&& 0xFF)]
    simp [hsignal]
  · by_cases hended : raw &&& 0x7F = 0x7F
    · simp [ofStatus_of_neither hended, hsignal]
    · simp [ofStatus_of_signal hsignal hended, hsignal]

end Exit

lemma toNat_and_le (raw mask : UInt32) : (raw &&& mask).toNat ≤ mask.toNat := by
  rw [UInt32.toNat_and]
  exact Nat.and_le_right

/-- The number of a child that failed can be told from success, and it fits into a status. -/
lemma answeredBy_exitStatusOf {raw : UInt32} (h : Exit.ofStatus raw ≠ .exited 0) :
    AnsweredBy raw (exitStatusOf (Exit.ofStatus raw).code?) := by
  constructor
  case code =>
    intro hsignal
    have hne : ((raw >>> 8) &&& 0xFF).toNat ≠ 0 := fun hzero =>
      h (Exit.ofStatus_eq_success_iff.2 ⟨hsignal, UInt32.toNat_inj.1 hzero⟩)
    have hle : ((raw >>> 8) &&& 0xFF).toNat ≤ 255 := toNat_and_le _ 0xFF
    have hstatus : ((exitStatusOf (some (((raw >>> 8) &&& 0xFF).toNat : Int))).toNat : Int) =
        ((raw >>> 8) &&& 0xFF).toNat := toNat_exitStatusOf (by omega) (by omega)
    rw [Exit.ofStatus_of_code hsignal]
    exact Int.ofNat_inj.1 hstatus
  case signal =>
    intro hsignal hended
    have hle : (raw &&& 0x7F).toNat ≤ 127 := toNat_and_le raw 0x7F
    have hstatus : ((exitStatusOf (some (128 + (raw &&& 0x7F).toNat))).toNat : Int) =
        128 + (raw &&& 0x7F).toNat := toNat_exitStatusOf (by omega) (by omega)
    rw [Exit.ofStatus_of_signal hsignal hended]
    exact Int.ofNat_inj.1 hstatus
  case neither =>
    intro hended
    rw [Exit.ofStatus_of_neither hended]
    rfl

/-! ## Children that decide -/

namespace Pipeline

variable {pipeline : Pipeline} {stage : Stage} {stages : List Stage}
  {outcome : Except Failure Unit} {dealings : List Dealing} {dealing : Dealing}

lemma eq_command_of_mem_planOf {command : Command} (h : command ∈ pipeline.planOf stage) :
    command = pipeline.buildCommand ∨ command = pipeline.runCommand := by
  cases stage with
  | clean => cases h
  | build =>
    rw [planOf] at h
    split at h
    · exact .inl (List.mem_singleton.1 h)
    · cases h
  | run =>
    rw [planOf] at h
    split at h
    · cases h
    · exact .inr (List.mem_singleton.1 h)

/-- A child that failed is the reason for the failure of the stages. -/
lemma Heeds.exists_failure (h : pipeline.Heeds stages outcome dealings) (hmem : dealing ∈ dealings)
    {exit : Exit} (hanswer : dealing.answer = .ok exit) (hexit : exit ≠ .exited 0) :
    ∃ failure, outcome = .error failure ∧ failure.exitStatus = exitStatusOf exit.code? := by
  have hfails : dealing.Fails dealing.command (.ended dealing.command.program exit) :=
    ⟨rfl, by simp [ChildFailure.of?, hanswer, hexit]⟩
  obtain ⟨stage, _, hplan⟩ := List.mem_flatMap.1 (h.handed.subset (List.mem_map_of_mem hmem))
  rcases eq_command_of_mem_planOf hplan with hcommand | hcommand
  · rw [hcommand] at hfails
    exact ⟨_, (h.build _).2 ⟨dealing, hmem, hfails⟩, rfl⟩
  · rw [hcommand] at hfails
    exact ⟨_, (h.analyzer _).2 ⟨dealing, hmem, hfails⟩, rfl⟩

lemma length_planOf_le (pipeline : Pipeline) (stage : Stage) :
    (pipeline.planOf stage).length ≤ 1 := by
  cases stage with
  | clean => exact Nat.zero_le 1
  | build | run =>
    rw [planOf]
    split <;> simp

/-- A stage hands over one command at most, so its success is that of the child. -/
lemma Heeds.ok_iff (h : pipeline.Heeds [stage] outcome dealings) (hmem : dealing ∈ dealings) :
    outcome = .ok () ↔ dealing.Succeeded := by
  refine ⟨fun hok => (h.finished hok).2 dealing hmem, fun hsucceeded => ?_⟩
  have hplan : [stage].flatMap pipeline.planOf = pipeline.planOf stage := by simp
  have hhanded := h.handed
  rw [hplan] at hhanded
  have hlength := hhanded.length_le
  have hshort := pipeline.length_planOf_le stage
  have hpos := List.length_pos_of_mem hmem
  rw [List.length_map] at hlength
  obtain ⟨only, rfl⟩ := List.length_eq_one_iff.1 (by omega : dealings.length = 1)
  obtain rfl := List.mem_singleton.1 hmem
  have hwhole : [dealing].map Dealing.command = [stage].flatMap pipeline.planOf := by
    rw [hplan]
    exact hhanded.eq_of_length (by simpa using by omega)
  have hclean : Stage.clean ∉ [stage] := by
    intro hclean
    rw [← List.mem_singleton.1 hclean] at hlength
    exact absurd hlength (by simp [planOf])
  by_cases houtcome : outcome = .ok ()
  · exact houtcome
  · exact absurd ⟨hwhole, by simpa using hsucceeded⟩ (h.stopped hclean houtcome)

/-- A build stage that is not skipped does run its child. -/
theorem exists_dealing_build (children : Children κ) (sink : Sink σ)
    (hbuild : pipeline.config.options.build = true) (world : World κ σ) :
    let result := carryOut (pipeline.within (World.host children sink) .build) world
    ∃ dealing, result.2.dealings = world.dealings ++ [dealing] ∧
      dealing.command = pipeline.buildCommand ∧
      dealing.answer = (children.answer pipeline.buildCommand world.children world.files).1 := by
  intro result
  have hbuilds : pipeline.Builds children world.scene result.1 result.2.scene :=
    goes_scene children sink pipeline .build world
  exact ⟨_, hbuilds.dealings_eq hbuild, rfl, rfl⟩

lemma exists_heeds_within (children : Children κ) (sink : Sink σ) (pipeline : Pipeline)
    (stage : Stage) (world : World κ σ) :
    let result := carryOut (pipeline.within (World.host children sink) stage) world
    ∃ dealings, result.2.dealings = world.dealings ++ dealings ∧
      pipeline.Heeds [stage] result.1 dealings := by
  intro result
  exact heeds_of_goes (goes_scene children sink pipeline stage world)

end Pipeline

/-! ## A whole program -/

lemma dealingsOf_flatMap_writes (colour : Colour) (records : List Record) :
    dealingsOf (records.flatMap (Record.writes colour)) = [] := by
  simp [dealingsOf, List.filterMap_flatMap, Record.writes, List.filterMap_map, Function.comp_def,
    Happening.dealing?]

namespace World

lemma dealings_answer (world : World κ σ) (sink : Sink σ) (requested : Bool) (text : String) :
    (world.answer sink requested text).dealings = world.dealings := by
  unfold answer
  split
  · rw [emit, record, dealings, dealingsOf_append]
    exact List.append_nil _
  · rfl

lemma dealings_note (world : World κ σ) (diagnostic : Diagnostic) :
    (world.note diagnostic).dealings = world.dealings :=
  congrArg Scene.dealings (world.scene_note diagnostic)

lemma dealings_tellAll (children : Children κ) (sink : Sink σ) (colour : Colour)
    (records : List Record) (world : World κ σ) :
    ((records.forM ((host children sink).tell colour)).run world).2.dealings = world.dealings := by
  rw [dealings, (world.adds_tellAll children sink colour records).history, dealingsOf_append,
    dealingsOf_flatMap_writes, List.append_nil]
  rfl

end World

namespace Program

variable {children : Children κ} {sink : Sink σ} {executable : Except SystemError Path}
  {environment : Environment} {options : Options} {world after : World κ σ}
  {outcome : Except Failure Unit}

/-- Among the commands, a child that failed is the reason for the outcome. -/
def Decides (outcome : Except Failure Unit) (dealings : List Dealing) : Prop :=
  ∀ dealing ∈ dealings, ∀ exit, dealing.answer = .ok exit → exit ≠ .exited 0 →
    ∃ failure, outcome = .error failure ∧ failure.exitStatus = exitStatusOf exit.code?

lemma Attempts.exists_decides
    (h : Attempts children sink executable environment options world outcome after) :
    ∃ dealings, after.dealings = world.dealings ++ dealings ∧ Decides outcome dealings := by
  cases h with
  | lost _ => exact ⟨[], (List.append_nil _).symm, nofun⟩
  | took _ htakes =>
    obtain ⟨dealings, hdealings, hheeds⟩ :=
      Pipeline.heeds_of_takes (htakes.mirrored (World.mirrors_scene children sink))
    exact ⟨dealings, hdealings, fun dealing hmem exit hanswer hexit =>
      hheeds.exists_failure hmem hanswer hexit⟩

/-- The status of a program is that of a child that failed. -/
lemma main_status_of_failed (children : Children κ) (sink : Sink σ)
    (executable : Except SystemError Path) (environment : Environment)
    (arguments : List ByteString) (world : World κ σ) :
    let result : UInt8 × World κ σ :=
      (main (World.machine children sink executable) environment arguments).run world
    ∃ dealings, result.2.dealings = world.dealings ++ dealings ∧
      ∀ dealing ∈ dealings, ∀ exit, dealing.answer = .ok exit → exit ≠ .exited 0 →
        result.1 = exitStatusOf exit.code? := by
  intro result
  cases hparsed : Options.parse (environment Options.rootVariable) arguments with
  | error usage =>
    have hresult : result = _ := main_of_usage hparsed
    refine ⟨[], ?_, nofun⟩
    rw [hresult, World.dealings_answer, List.append_nil]
  | ok options =>
    rcases hcarry : carryOut (attempt (World.machine children sink executable) environment options)
      { world with listening := options.verbose } with ⟨outcome, after⟩
    have hattempt := attempts_iff.2 hcarry
    have hresult : result = _ := main_run_of_attempts hparsed hattempt
    obtain ⟨dealings, hdealings, hdecides⟩ := hattempt.exists_decides
    have hdealings' : after.dealings = world.dealings ++ dealings := hdealings
    rw [hresult]
    cases outcome with
    | ok _ =>
      refine ⟨dealings, hdealings', fun dealing hmem exit hanswer hexit => ?_⟩
      obtain ⟨_, houtcome, _⟩ := hdecides dealing hmem exit hanswer hexit
      cases houtcome
    | error failure =>
      refine ⟨dealings, ?_, fun dealing hmem exit hanswer hexit => ?_⟩
      · rw [World.dealings_note, World.dealings_tellAll, hdealings']
      · obtain ⟨_, houtcome, hstatus⟩ := hdecides dealing hmem exit hanswer hexit
        obtain rfl := Except.error.inj houtcome
        exact hstatus

/-- **The raw status of a child reaches the status of the program.**  A stage that runs a child
succeeds if and only if no bit of the signal and no bit of the code is set.  A child that failed is
answered for with its code or with its signal, by the stage that ran it and by the whole program. -/
theorem main_answers_raw_status (children : Children κ) (sink : Sink σ) :
    (∀ (pipeline : Pipeline) (stage : Stage) (world : World κ σ),
      let result := carryOut (pipeline.within (World.host children sink) stage) world
      ∃ dealings, result.2.dealings = world.dealings ++ dealings ∧
        ∀ dealing ∈ dealings, ∀ raw, dealing.answer = .ok (.ofStatus raw) →
          (result.1 = .ok () ↔ raw &&& 0x7F = 0 ∧ (raw >>> 8) &&& 0xFF = 0) ∧
          ∀ failure, result.1 = .error failure → AnsweredBy raw failure.exitStatus) ∧
    ∀ (executable : Except SystemError Path) (environment : Environment)
      (arguments : List ByteString) (world : World κ σ),
      let result : UInt8 × World κ σ :=
        (main (World.machine children sink executable) environment arguments).run world
      ∃ dealings, result.2.dealings = world.dealings ++ dealings ∧
        ∀ dealing ∈ dealings, ∀ raw, dealing.answer = .ok (.ofStatus raw) →
          ¬(raw &&& 0x7F = 0 ∧ (raw >>> 8) &&& 0xFF = 0) → AnsweredBy raw result.1 := by
  constructor
  · intro pipeline stage world result
    obtain ⟨dealings, hdealings, hheeds⟩ :=
      Pipeline.exists_heeds_within children sink pipeline stage world
    refine ⟨dealings, hdealings, fun dealing hmem raw hanswer => ?_⟩
    have hok : result.1 = .ok () ↔ Exit.ofStatus raw = .exited 0 := by
      rw [hheeds.ok_iff hmem, Dealing.Succeeded, hanswer, Except.ok.injEq]
    refine ⟨hok.trans Exit.ofStatus_eq_success_iff, fun failure hfailure => ?_⟩
    have hexit : Exit.ofStatus raw ≠ .exited 0 := fun hzero => by
      cases (hok.2 hzero).symm.trans hfailure
    obtain ⟨_, houtcome, hstatus⟩ := hheeds.exists_failure hmem hanswer hexit
    obtain rfl := Except.error.inj (houtcome.symm.trans hfailure)
    rw [hstatus]
    exact answeredBy_exitStatusOf hexit
  · intro executable environment arguments world result
    obtain ⟨dealings, hdealings, hstatus⟩ :=
      main_status_of_failed children sink executable environment arguments world
    refine ⟨dealings, hdealings, fun dealing hmem raw hanswer hbits => ?_⟩
    have hexit : Exit.ofStatus raw ≠ .exited 0 := mt Exit.ofStatus_eq_success_iff.1 hbits
    have hanswered := answeredBy_exitStatusOf hexit
    rwa [← hstatus dealing hmem _ hanswer hexit] at hanswered

/-- A program whose compiler is ended by the ninth signal, and leaves its memory behind. -/
theorem main_answers_killed_compiler :
    let children : Children Unit := ⟨fun _ known files => (.ok (.ofStatus 0x89), known, files)⟩
    let result : UInt8 × World Unit Kept :=
      (main (World.machine children (.bounded none) (.ok (.ofString "/r/bin/graphrun")))
        (fun _ => none) []).run (World.fresh .empty [] () {})
    result.1 = 137 ∧ result.2.commands = [⟨Text.encode "tsc", []⟩] := by
  decide +kernel

end Program

end StagedRun
