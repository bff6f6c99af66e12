import StableQueue.Failure

/-!
# Operations on a State

An `Action σ α` works on a state `σ` and answers with an `α` or fails. In both cases it says which
state it leaves behind, so an operation that fails half way shows what it has done so far, and
that a failed call has changed nothing is a statement about its last state.

The lemmas named `runOn_…` compute the outcome of an operation from the outcomes of its parts.
-/

namespace StableQueue

/-- An operation on a state `σ` that answers with an `α` or fails. -/
abbrev Action (σ : Type) := ExceptT Failure (StateM σ)

namespace Action

variable {σ τ α β : Type}

/-- The result of an operation that starts in a given state, and the state after it. -/
def runOn (action : Action σ α) (state : σ) : Except Failure α × σ := action state

/-- Refuse the call, leaving the state as it is now. -/
def refuse (cause : Refusal) : Action σ α := throw (.refused cause)

/-- Abort the call, leaving the state as it is now. -/
def abort (fault : Fault) : Action σ α := throw (.faulted fault)

/-- A computation that may fault and touches no state. -/
def ofFault : Except Fault α → Action σ α
  | .ok a => pure a
  | .error fault => abort fault

/-- A check that may refuse the call and touches no state. -/
def ofRefusal : Except Refusal α → Action σ α
  | .ok a => pure a
  | .error cause => refuse cause

/-- An operation on one part of a larger state. -/
def onPart (part : τ → σ) (replace : σ → τ → τ) (action : Action σ α) : Action τ α := fun whole =>
  let (result, state) := action.runOn (part whole)
  (result, replace state whole)

/-- Undo what an operation has done so far if it is refused. A fault is passed on at once. -/
def onRefusal (action : Action σ α) (undo : Action σ Unit) : Action σ α := fun state =>
  match action.runOn state with
  | (.error (.refused cause), state) => (do undo; refuse cause : Action σ α).runOn state
  | outcome => outcome

/-- An answer leaves the state as it is. -/
@[simp] theorem runOn_pure (a : α) (s : σ) : (pure a : Action σ α).runOn s = (.ok a, s) := rfl

/-- The second operation starts where the first one has stopped, unless that has failed. -/
@[simp] theorem runOn_bind (x : Action σ α) (f : α → Action σ β) (s : σ) :
    (x >>= f).runOn s =
      match x.runOn s with
      | (.ok a, s') => (f a).runOn s'
      | (.error e, s') => (.error e, s') := by
  simp only [runOn, bind, ExceptT.bind, ExceptT.mk, StateT.bind]
  rcases x s with ⟨_ | _, _⟩ <;> rfl

/-- A function of the answer leaves the state as it is. -/
@[simp] theorem runOn_map (f : α → β) (x : Action σ α) (s : σ) :
    (f <$> x).runOn s = ((x.runOn s).1.map f, (x.runOn s).2) := by
  rw [map_eq_pure_bind, runOn_bind]
  rcases x.runOn s with ⟨_ | _, _⟩ <;> rfl

/-- Looking at the state leaves it as it is. -/
@[simp] theorem runOn_get (s : σ) : (get : Action σ σ).runOn s = (.ok s, s) := rfl

/-- A state that has been set is the one left behind. -/
@[simp] theorem runOn_set (s t : σ) : (set t : Action σ PUnit).runOn s = (.ok (), t) := rfl

/-- A change of the state is what is left behind. -/
@[simp] theorem runOn_modify (f : σ → σ) (s : σ) :
    (modify f : Action σ PUnit).runOn s = (.ok (), f s) := rfl

/-- A refusal leaves the state as it is. -/
@[simp] theorem runOn_refuse (cause : Refusal) (s : σ) :
    (refuse cause : Action σ α).runOn s = (.error (.refused cause), s) := rfl

/-- A fault leaves the state as it is. -/
@[simp] theorem runOn_abort (fault : Fault) (s : σ) :
    (abort fault : Action σ α).runOn s = (.error (.faulted fault), s) := rfl

/-- A choice between operations is a choice between their outcomes. -/
@[simp] theorem runOn_ite (c : Prop) [Decidable c] (x y : Action σ α) (s : σ) :
    (if c then x else y).runOn s = if c then x.runOn s else y.runOn s := by
  split <;> rfl

/-- An operation on a part replaces that part by what it leaves behind. -/
@[simp] theorem runOn_onPart (part : τ → σ) (replace : σ → τ → τ) (x : Action σ α) (t : τ) :
    (onPart part replace x).runOn t =
      ((x.runOn (part t)).1, replace (x.runOn (part t)).2 t) := rfl

end Action

end StableQueue
