import StagedRun.Proofs.Stages
import StagedRun.World.Machine

/-!
# The status of a program

A program that can read its command line makes an attempt: it finds its directories, and then takes
its stages in a row.  `Program.Attempts` is that attempt as a relation, and `main_status` says what
becomes of it: the status is zero after a success and comes from the first failure otherwise.

`Failure.number?` is the number that stands behind a failure, read off the failure alone.  A status
is that number where it can be told from success, and one otherwise (`Failure.exitStatus_spec`), so
no failure is ever reported as a success.
-/

namespace StagedRun

variable {κ σ : Type}

/-! ## The number behind a failure -/

namespace Failure

/-- The number that stands behind a failure: the number of the system's error, or the code that a
child ended with, where a signal counts as 128 more than its number.  A child that was not started
has none, whatever the system's reason was. -/
def number? : Failure → Option Int
  | .toolLocation (.numbered number) | .removeDirectory _ _ (.numbered number)
  | .createOutputDirectory _ (.numbered number) => some number
  | .buildFailed (.ended _ (.exited code)) | .analyzerFailed (.ended _ (.exited code)) => some code
  | .buildFailed (.ended _ (.killed signal)) | .analyzerFailed (.ended _ (.killed signal)) =>
    some (128 + signal)
  | _ => none

lemma exitStatus_eq (failure : Failure) :
    failure.exitStatus = exitStatusOf failure.number? := by
  cases failure with
  | toolLocation reason => cases reason <;> rfl
  | removeDirectory name path reason => cases reason <;> rfl
  | createOutputDirectory path reason => cases reason <;> rfl
  | nonUtf8Path _ | noParentDirectory _ | buildDirectoryMissing _ => rfl
  | buildFailed cause | analyzerFailed cause =>
    cases cause with
    | notStarted program reason => rfl
    | ended program exit => cases exit <;> rfl

end Failure

lemma toNat_exitStatusOf {number : Int} (h : 1 ≤ number) (h' : number ≤ 255) :
    ((exitStatusOf (some number)).toNat : Int) = number := by
  have hcondition : 1 ≤ number ∧ number ≤ 255 := ⟨h, h'⟩
  rw [exitStatusOf, if_pos hcondition, UInt8.toNat_ofNat']
  omega

lemma exitStatusOf_eq_default {number? : Option Int}
    (h : ∀ number, number? = some number → ¬(1 ≤ number ∧ number ≤ 255)) :
    exitStatusOf number? = defaultExitStatus := by
  cases number? with
  | none => rfl
  | some number => rw [exitStatusOf, if_neg (h number rfl)]

/-- The status of a failure is its number where that can be told from success, and one
otherwise. -/
lemma Failure.exitStatus_spec (failure : Failure) :
    1 ≤ failure.exitStatus.toNat ∧ failure.exitStatus.toNat ≤ 255 ∧
      (∀ number, failure.number? = some number → 1 ≤ number → number ≤ 255 →
        (failure.exitStatus.toNat : Int) = number) ∧
      ((∀ number, failure.number? = some number → ¬(1 ≤ number ∧ number ≤ 255)) →
        failure.exitStatus = 1) := by
  refine ⟨?_, ?_, ?_, ?_⟩
  · have hne : failure.exitStatus.toNat ≠ 0 := by
      intro hzero
      exact failure.exitStatus_ne_zero (UInt8.toNat_inj.1 hzero)
    omega
  · have := failure.exitStatus.toNat_lt
    omega
  · intro number hnumber h h'
    rw [exitStatus_eq, hnumber]
    exact toNat_exitStatusOf h h'
  · intro h
    rw [exitStatus_eq]
    exact exitStatusOf_eq_default h

/-! ## Attempts -/

namespace Program

/-- How an attempt ends: with the failure to find the directories, or as the stages do. -/
inductive Attempts (children : Children κ) (sink : Sink σ) (executable : Except SystemError Path)
    (environment : Environment) (options : Options) (world : World κ σ) :
    Except Failure Unit → World κ σ → Prop
  | lost {failure : Failure}
      (hlayout : Layout.discover executable world.currentDirectory options.root = .error failure) :
      Attempts children sink executable environment options world (.error failure) world
  | took {layout : Layout} {outcome : Except Failure Unit} {after : World κ σ}
      (hlayout : Layout.discover executable world.currentDirectory options.root = .ok layout)
      (htakes : (pipelineFor environment ⟨options, layout⟩).Takes (World.host children sink)
        Stage.all world outcome after) :
      Attempts children sink executable environment options world outcome after

variable {children : Children κ} {sink : Sink σ} {executable : Except SystemError Path}
  {environment : Environment} {arguments : List ByteString} {options : Options}
  {world after : World κ σ} {outcome : Except Failure Unit}

lemma carryOut_attempt (world : World κ σ) :
    carryOut (attempt (World.machine children sink executable) environment options) world =
      match Layout.discover executable world.currentDirectory options.root with
      | .ok layout => carryOut ((pipelineFor environment ⟨options, layout⟩).execute
          (World.host children sink)) world
      | .error failure => (.error failure, world) := by
  show carryOut (ExceptT.mk (pure (Layout.discover executable world.currentDirectory options.root))
    >>= fun layout => (pipelineFor environment ⟨options, layout⟩).execute
      (World.host children sink)) world = _
  rw [carryOut_bind]
  cases hlayout : Layout.discover executable world.currentDirectory options.root with
  | ok layout => rfl
  | error failure => rfl

lemma attempts_iff :
    Attempts children sink executable environment options world outcome after ↔
      carryOut (attempt (World.machine children sink executable) environment options) world =
        (outcome, after) := by
  rw [carryOut_attempt]
  constructor
  · intro h
    cases h with
    | lost hlayout => rw [hlayout]
    | took hlayout htakes =>
      rw [hlayout]
      exact Pipeline.takes_iff.1 htakes
  · intro h
    cases hlayout : Layout.discover executable world.currentDirectory options.root with
    | ok layout =>
      rw [hlayout] at h
      exact .took hlayout (Pipeline.takes_iff.2 h)
    | error failure =>
      rw [hlayout] at h
      obtain ⟨rfl, rfl⟩ := Prod.mk.inj h
      exact .lost hlayout

/-! ## A whole program -/

/-- A program that cannot or need not run answers, and does nothing else. -/
lemma main_of_usage {usage : Usage}
    (h : Options.parse (environment Options.rootVariable) arguments = .error usage) :
    (main (World.machine children sink executable) environment arguments).run world =
      (usage.exitStatus,
        world.answer sink usage.isRequested (usage.message (environment Options.rootVariable))) := by
  rw [main, h]
  rfl

/-- A program with options makes its attempt, and reports the failure if that fails. -/
lemma main_run_of_attempts
    (h : Options.parse (environment Options.rootVariable) arguments = .ok options)
    (hattempt : Attempts children sink executable environment options
      { world with listening := options.verbose } outcome after) :
    (main (World.machine children sink executable) environment arguments).run world =
      match outcome with
      | .ok _ => (0, after)
      | .error failure => (failure.exitStatus,
          (((report options.verbose failure).forM
            ((World.host children sink).tell (Colour.ofEnvironment environment))).run
              after).2.note (.runFailed failure)) := by
  have hcarry : (attempt (World.machine children sink executable) environment options).run.run
      { world with listening := options.verbose } = (outcome, after) := attempts_iff.1 hattempt
  have hlisten : ((World.machine children sink executable).listen options.verbose).run world =
      ((), { world with listening := options.verbose }) := rfl
  rw [main, h]
  simp only [run_bind, hlisten, hcarry]
  cases outcome with
  | ok _ => rfl
  | error failure => rfl

lemma main_of_attempts
    (h : Options.parse (environment Options.rootVariable) arguments = .ok options)
    (hattempt : Attempts children sink executable environment options
      { world with listening := options.verbose } outcome after) :
    ((main (World.machine children sink executable) environment arguments).run world).1 =
      match outcome with
      | .ok _ => 0
      | .error failure => failure.exitStatus := by
  rw [main_run_of_attempts h hattempt]
  cases outcome with
  | ok _ => rfl
  | error failure => rfl

/-- A program with options makes its attempt, which ends, and its status follows from the end. -/
lemma exists_attempts (children : Children κ) (sink : Sink σ)
    (executable : Except SystemError Path) (world : World κ σ)
    (h : Options.parse (environment Options.rootVariable) arguments = .ok options) :
    (∃ after, Attempts children sink executable environment options
        { world with listening := options.verbose } (.ok ()) after ∧
      ((main (World.machine children sink executable) environment arguments).run world).1 = 0) ∨
    ∃ failure after, Attempts children sink executable environment options
        { world with listening := options.verbose } (.error failure) after ∧
      ((main (World.machine children sink executable) environment arguments).run world).1 =
        failure.exitStatus := by
  rcases hcarry : carryOut (attempt (World.machine children sink executable) environment options)
    { world with listening := options.verbose } with ⟨outcome, after⟩
  have hattempt := attempts_iff.2 hcarry
  have hstatus := main_of_attempts h hattempt
  cases outcome with
  | ok _ => exact .inl ⟨after, hattempt, hstatus⟩
  | error failure => exact .inr ⟨failure, after, hattempt, hstatus⟩

lemma exitStatus_eq_zero_iff (usage : Usage) :
    usage.exitStatus = 0 ↔ usage.isRequested = true := by
  unfold Usage.exitStatus
  split
  · simp_all
  · simp_all

lemma main_eq_zero_iff :
    ((main (World.machine children sink executable) environment arguments).run world).1 = 0 ↔
      (∃ usage, Options.parse (environment Options.rootVariable) arguments = .error usage ∧
        usage.isRequested = true) ∨
      ∃ options after, Options.parse (environment Options.rootVariable) arguments = .ok options ∧
        Attempts children sink executable environment options
          { world with listening := options.verbose } (.ok ()) after := by
  cases hparsed : Options.parse (environment Options.rootVariable) arguments with
  | error usage =>
    rw [main_of_usage hparsed, exitStatus_eq_zero_iff]
    simp
  | ok options =>
    constructor
    · intro hzero
      rcases exists_attempts children sink executable world hparsed with
        ⟨after, hattempt, _⟩ | ⟨failure, _, _, hstatus⟩
      · exact .inr ⟨options, after, rfl, hattempt⟩
      · exact absurd (hstatus.symm.trans hzero) failure.exitStatus_ne_zero
    · rintro (⟨_, hother, _⟩ | ⟨_, after, hsame, hattempt⟩)
      · cases hother
      · cases hsame
        exact main_of_attempts hparsed hattempt

/-- **What a status says.**  The status is zero if and only if help or the version was asked for, or
the directories were found and all stages succeeded.  It is two when the command line cannot be
read, and then no child was started and no file changed.  Otherwise it comes from the first failure:
it is the number behind that failure where that lies between 1 and 255, and one where there is no
such number, as for every child that was not started. -/
theorem main_status (children : Children κ) (sink : Sink σ)
    (executable : Except SystemError Path) (environment : Environment)
    (arguments : List ByteString) (world : World κ σ) :
    let result : UInt8 × World κ σ :=
      (main (World.machine children sink executable) environment arguments).run world
    let parsed := Options.parse (environment Options.rootVariable) arguments
    let attempted := fun options => Attempts children sink executable environment options
      { world with listening := options.verbose }
    (result.1 = 0 ↔ (∃ usage, parsed = .error usage ∧ usage.isRequested = true) ∨
        ∃ options after, parsed = .ok options ∧ attempted options (.ok ()) after) ∧
      (∀ usage, parsed = .error usage → usage.isRequested = false →
        result.1 = 2 ∧ result.2.commands = world.commands ∧ result.2.files = world.files) ∧
      (∀ options, parsed = .ok options →
        (∃ after, attempted options (.ok ()) after ∧ result.1 = 0) ∨
          ∃ failure after, attempted options (.error failure) after ∧
            result.1 = failure.exitStatus) ∧
      (∀ failure : Failure, 1 ≤ failure.exitStatus.toNat ∧ failure.exitStatus.toNat ≤ 255 ∧
        (∀ number, failure.number? = some number → 1 ≤ number → number ≤ 255 →
          (failure.exitStatus.toNat : Int) = number) ∧
        ((∀ number, failure.number? = some number → ¬(1 ≤ number ∧ number ≤ 255)) →
          failure.exitStatus = 1)) ∧
      ∀ program reason, (Failure.buildFailed (.notStarted program reason)).exitStatus = 1 ∧
        (Failure.analyzerFailed (.notStarted program reason)).exitStatus = 1 := by
  intro result parsed attempted
  refine ⟨main_eq_zero_iff, ?_, fun options hparsed => exists_attempts _ _ _ _ hparsed,
    Failure.exitStatus_spec, fun _ _ => ⟨rfl, rfl⟩⟩
  intro usage hparsed hrequested
  have hresult : result = (usage.exitStatus, world.answer sink usage.isRequested
    (usage.message (environment Options.rootVariable))) := main_of_usage hparsed
  rw [hresult, hrequested, Usage.exitStatus, hrequested]
  exact ⟨rfl, rfl, rfl⟩

end Program

end StagedRun
