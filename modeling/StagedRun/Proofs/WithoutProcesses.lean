import StagedRun.Proofs.CommandOrder
import StagedRun.World.Absent

/-!
# Runs without processes

A host can answer every command with an error, as the one of `World.absentMachine` does.  A run on
such a host succeeds only if it has nothing to hand over: `Pipeline.execute_ne_ok_of_refuses` is the
law for all hosts, and `execute_absent_ne_ok` is the one for a world without processes.

A computation that never succeeds spoils every sequence in which it stands.  This is all that the
argument needs, so it looks at no state.
-/

namespace StagedRun

variable {S σ α β : Type}

/-- An action succeeds from no state. -/
def NeverOk (action : ExceptT Failure (StateM S) α) : Prop :=
  ∀ state value, (carryOut action state).1 ≠ .ok value

namespace NeverOk

lemma of_throw (failure : Failure) : NeverOk (throw failure : ExceptT Failure (StateM S) α) :=
  fun _ _ => nofun

lemma bind {action : ExceptT Failure (StateM S) α} (h : NeverOk action)
    (next : α → ExceptT Failure (StateM S) β) : NeverOk (action >>= next) := by
  intro state value
  rw [carryOut_bind]
  rcases hfirst : carryOut action state with ⟨outcome, midway⟩
  cases outcome with
  | ok found => exact absurd (congrArg Prod.fst hfirst) (h state found)
  | error failure => exact nofun

lemma after (action : ExceptT Failure (StateM S) α)
    {next : α → ExceptT Failure (StateM S) β} (h : ∀ value, NeverOk (next value)) :
    NeverOk (action >>= next) := by
  intro state value
  rw [carryOut_bind]
  rcases carryOut action state with ⟨outcome, midway⟩
  cases outcome with
  | ok found => exact h found midway value
  | error failure => exact nofun

end NeverOk

/-- A host answers every command with an error. -/
def Host.Refuses (host : Host (StateM S)) : Prop :=
  ∀ command state, ∃ reason, ((host.run command).run state).1 = .error reason

namespace Pipeline

variable {host : Host (StateM S)} {pipeline : Pipeline}

lemma neverOk_runCommandWith (h : host.Refuses) (failed : ChildFailure → Failure)
    (command : Command) : NeverOk (runCommandWith host failed command) := by
  intro state value
  obtain ⟨reason, hreason⟩ := h command state
  rw [runCommandWith, carryOut_bind, carryOut_lift, hreason]
  intro hok
  cases hok

lemma neverOk_build (h : host.Refuses) (hbuild : pipeline.config.options.build = true) :
    NeverOk (pipeline.build host) := by
  rw [build, if_pos hbuild]
  exact .after _ fun _ => (neverOk_runCommandWith h _ _).bind _

lemma neverOk_run (h : host.Refuses) (hinputs : pipeline.config.options.inputs ≠ []) :
    NeverOk (pipeline.run host) := by
  rw [run, if_neg (by simpa using hinputs)]
  refine .after _ fun there => ?_
  cases there with
  | true => exact .after _ fun _ => .after _ fun _ => (neverOk_runCommandWith h _ _).bind _
  | false => exact .of_throw _

/-- What stands around a stage makes it succeed no sooner. -/
lemma neverOk_within {stage : Stage} (h : NeverOk (pipeline.stage host stage)) :
    NeverOk (pipeline.within host stage) :=
  fun _ value => h _ value

lemma Takes.not_neverOk {stages : List Stage} {state after : S} {outcome : Except Failure Unit}
    (h : pipeline.Takes host stages state outcome after) (hok : outcome = .ok ()) :
    ∀ stage ∈ stages, ¬NeverOk (pipeline.stage host stage) := by
  induction h with
  | done state => exact fun _ => nofun
  | failed _ => cases hok
  | passed hstage _ ih =>
    intro stage hmem hnever
    rcases List.mem_cons.1 hmem with rfl | hmem
    · exact neverOk_within hnever _ () (congrArg Prod.fst hstage)
    · exact ih hok stage hmem hnever

/-- A run that has something to hand over does not succeed where every command is refused. -/
theorem execute_ne_ok_of_refuses (h : host.Refuses) (hplan : pipeline.plan ≠ []) (state : S) :
    (carryOut (pipeline.execute host) state).1 ≠ .ok () := by
  intro hok
  have hstages := (pipeline.takes_execute host state).not_neverOk hok
  refine hplan ?_
  have hbuild : pipeline.config.options.build = false :=
    Bool.eq_false_iff.2 fun hbuild => hstages .build (by decide) (neverOk_build h hbuild)
  have hinputs : pipeline.config.options.inputs = [] :=
    Decidable.byContradiction fun hinputs => hstages .run (by decide) (neverOk_run h hinputs)
  simp [plan, hbuild, hinputs]

end Pipeline

/-! ## A world without processes -/

lemma refuses_absentMachine (sink : Sink σ) (executable : Except SystemError Path) :
    (World.absentMachine sink executable).toHost.Refuses :=
  fun _ _ => ⟨_, rfl⟩

theorem execute_absent_ne_ok (sink : Sink σ) (executable : Except SystemError Path)
    {pipeline : Pipeline} (hplan : pipeline.plan ≠ []) (world : World Unit σ) :
    (carryOut (pipeline.execute (World.absentMachine sink executable).toHost) world).1 ≠ .ok () :=
  pipeline.execute_ne_ok_of_refuses (refuses_absentMachine sink executable) hplan world

end StagedRun
