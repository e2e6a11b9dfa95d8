import Mathlib.Tactic.Lemma
import StagedRun.Pipeline

/-!
# Carrying out an action

`carryOut` reads an action on a state as a function: from the state it gives the outcome and the
state that is left.  The laws below peel an action apart step by step, so that an argument about a
stage never has to look into the monads that the stage is written in.

The same is done for computations without a state by `bind_eq_ok_iff`: a sequence succeeds if its
parts do.  `bind_eq_error_iff` tells where one fails.

`Mirrors view action image` says that `image` does on the view of a state what `action` does on the
state itself.  What the view leaves out has then no influence on the outcome, and an argument about
what it keeps can be carried out on the view alone.
-/

namespace StagedRun

/-- A sequence succeeds if its parts do. -/
lemma bind_eq_ok_iff {ε α β : Type} {first : Except ε α} {next : α → Except ε β} {result : β} :
    (first >>= next) = .ok result ↔ ∃ value, first = .ok value ∧ next value = .ok result := by
  cases first with
  | error reason => simp [bind, Except.bind]
  | ok value => simp [bind, Except.bind]

/-- A sequence fails if its first part does, or if the second does after it. -/
lemma bind_eq_error_iff {ε α β : Type} {first : Except ε α} {next : α → Except ε β} {failure : ε} :
    (first >>= next) = .error failure ↔
      first = .error failure ∨ ∃ value, first = .ok value ∧ next value = .error failure := by
  cases first with
  | error reason => simp [bind, Except.bind]
  | ok value => simp [bind, Except.bind]

/-- A sequence that starts with a check succeeds if the check and the rest do. -/
lemma check_bind_eq_ok_iff {ε β : Type} {check : Except ε Unit} {next : Unit → Except ε β}
    {result : β} :
    (check >>= next) = .ok result ↔ check = .ok () ∧ next () = .ok result := by
  cases check with
  | error reason => simp [bind, Except.bind]
  | ok _ => simp [bind, Except.bind]

variable {S T U α β : Type}

/-- The outcome of an action from a state, and the state that it leaves. -/
def carryOut (action : ExceptT Failure (StateM S) α) (state : S) : Except Failure α × S :=
  action.run.run state

@[simp] lemma carryOut_pure (value : α) (state : S) :
    carryOut (pure value) state = (.ok value, state) := rfl

@[simp] lemma carryOut_throw (failure : Failure) (state : S) :
    carryOut (throw failure : ExceptT Failure (StateM S) α) state = (.error failure, state) := rfl

@[simp] lemma carryOut_lift (action : StateM S α) (state : S) :
    carryOut (liftM action) state = (.ok (action.run state).1, (action.run state).2) := rfl

/-- An action after another one starts where that one ended, if it succeeded. -/
lemma carryOut_bind (action : ExceptT Failure (StateM S) α)
    (next : α → ExceptT Failure (StateM S) β) (state : S) :
    carryOut (action >>= next) state =
      match carryOut action state with
      | (.ok value, midway) => carryOut (next value) midway
      | (.error failure, after) => (.error failure, after) := by
  simp only [carryOut, ExceptT.run_bind, StateT.run_bind]
  rcases h : action.run.run state with ⟨outcome, midway⟩
  cases outcome with
  | ok value => rfl
  | error failure => rfl

lemma carryOut_forM_cons (action : β → ExceptT Failure (StateM S) Unit) (first : β)
    (rest : List β) (state : S) :
    carryOut ((first :: rest).forM action) state =
      match carryOut (action first) state with
      | (.ok _, midway) => carryOut (rest.forM action) midway
      | (.error failure, after) => (.error failure, after) := by
  show carryOut (action first >>= fun _ => rest.forM action) state = _
  rw [carryOut_bind]
  rcases carryOut (action first) state with ⟨outcome, midway⟩
  cases outcome with
  | ok _ => rfl
  | error failure => rfl

/-- An action that cannot fail is always followed by the next one. -/
lemma run_bind (action : StateM S α) (next : α → StateM S β) (state : S) :
    (action >>= next).run state = (next (action.run state).1).run (action.run state).2 := rfl

/-! ## Actions seen through a view -/

/-- `image` does on the view of a state what `action` does on the state. -/
def Mirrors (view : S → T) (action : StateM S α) (image : StateM T α) : Prop :=
  ∀ state, image.run (view state) = ((action.run state).1, view (action.run state).2)

namespace Mirrors

variable {view : S → T}

lemma of_pure (view : S → T) (value : α) : Mirrors view (pure value) (pure value) :=
  fun _ => rfl

lemma bind {action : StateM S α} {image : StateM T α} {next : α → StateM S β}
    {nextImage : α → StateM T β} (h : Mirrors view action image)
    (hnext : ∀ value, Mirrors view (next value) (nextImage value)) :
    Mirrors view (action >>= next) (image >>= nextImage) := by
  intro state
  rw [run_bind, run_bind, h state]
  exact hnext _ _

lemma trans {first : S → T} {second : T → U} {action : StateM S α} {image : StateM T α}
    {last : StateM U α} (h : Mirrors first action image) (h' : Mirrors second image last) :
    Mirrors (second ∘ first) action last := by
  intro state
  rw [Function.comp_apply, h' (first state), h state]
  rfl

/-- Actions that can fail are mirrored one after the other, because a mirrored failure is the same
failure. -/
lemma except_bind {action : ExceptT Failure (StateM S) α} {image : ExceptT Failure (StateM T) α}
    {next : α → ExceptT Failure (StateM S) β} {nextImage : α → ExceptT Failure (StateM T) β}
    (h : Mirrors view action.run image.run)
    (hnext : ∀ value, Mirrors view (next value).run (nextImage value).run) :
    Mirrors view (action >>= next).run (image >>= nextImage).run := by
  rw [ExceptT.run_bind, ExceptT.run_bind]
  refine h.bind fun outcome => ?_
  cases outcome with
  | ok value => exact hnext value
  | error failure => exact of_pure view _

lemma except_pure (view : S → T) (value : α) :
    Mirrors view (pure value : ExceptT Failure (StateM S) α).run
      (pure value : ExceptT Failure (StateM T) α).run :=
  of_pure view (Except.ok value)

lemma except_throw (view : S → T) (failure : Failure) :
    Mirrors view (throw failure : ExceptT Failure (StateM S) α).run
      (throw failure : ExceptT Failure (StateM T) α).run :=
  of_pure view (Except.error failure)

lemma ite {condition : Prop} [Decidable condition] {action other : ExceptT Failure (StateM S) α}
    {image otherImage : ExceptT Failure (StateM T) α} (h : Mirrors view action.run image.run)
    (h' : Mirrors view other.run otherImage.run) :
    Mirrors view (if condition then action else other).run
      (if condition then image else otherImage).run := by
  split
  · exact h
  · exact h'

lemma lift {action : StateM S α} {image : StateM T α} (h : Mirrors view action image) :
    Mirrors view (liftM action : ExceptT Failure (StateM S) α).run
      (liftM image : ExceptT Failure (StateM T) α).run :=
  h.bind fun value => of_pure view (Except.ok value)

lemma carryOut {action : ExceptT Failure (StateM S) α} {image : ExceptT Failure (StateM T) α}
    (h : Mirrors view action.run image.run) (state : S) :
    carryOut image (view state) =
      ((carryOut action state).1, view (carryOut action state).2) :=
  h state

end Mirrors

end StagedRun
