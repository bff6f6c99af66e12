import StableQueue.Pipeline
import StableQueue.Proofs.Monitor.Callers

/-!
# Schedules of a Pipeline

`Pipeline.Advance` is one step of the threads of a pipeline, in whatever order they get their turns.
A wake-up is delivered or a caller passes through the lock; a thread takes note of the end of its
call and makes its next one; or the queue is closed, once and after all messages have been sent.
`Pipeline.Step` also lets parked callers wake for no reason. They wait without deadline, so that is
all that time can do here. `Pipeline.Run` is any number of steps from the first calls of all threads
on, which are made at once but may take the lock at any time.

## Main results

* `Pipeline.Step.cases`: what a step does to the calls under way and to the queue.
* `Pipeline.Run.exists_monitorRun`: the queue sees callers like any other queue does.
-/

namespace StableQueue.Pipeline

/-- The pipeline, if other calls are over. -/
def State.withReturned (state : State) (returned : List (Nat × Outcome)) : State :=
  { state with monitor := { state.monitor with returned } }

/-- A thread takes note of the end of its call, and makes its next one. -/
def State.goOn (state : State) (call : Nat × Outcome) : State := (state.accept call).resume call.1

/-- One step forward of a pipeline, and the calls that end with it. -/
inductive Advance : State → List (Visit × Outcome) → State → Prop
  /-- A wake-up is delivered, or a caller passes through the lock. -/
  | turn {state : State} {ended : List (Visit × Outcome)} {monitor : Monitor}
      (hstep : state.monitor.Step ended monitor)
      (hless : monitor.owed.length < state.monitor.owed.length ∨
        monitor.active.length < state.monitor.active.length) :
      Advance state ended { state with monitor }
  /-- A thread takes note of the end of its call, and makes its next one. -/
  | accept {state : State} {call : Nat × Outcome} {returned : List (Nat × Outcome)}
      (hreturned : state.monitor.returned.Perm (call :: returned)) :
      Advance state [] ((state.withReturned returned).goOn call)
  /-- The queue is closed when every message has been sent. -/
  | close {state : State} (hopen : state.closed = false)
      (hsent : state.workers.any Worker.isSending = false) :
      Advance state [] state.close

/-- One step of a pipeline: a step forward, or a parked caller wakes by itself. -/
inductive Step : State → List (Visit × Outcome) → State → Prop
  /-- A step forward. -/
  | advance {state after : State} {ended : List (Visit × Outcome)}
      (h : Advance state ended after) : Step state ended after
  /-- A parked caller wakes for no reason. -/
  | unpark {state : State} {caller : Visit × Condition} {parked : List (Visit × Condition)}
      (hparked : state.monitor.parked.Perm (caller :: parked)) :
      Step state []
        { state with
          monitor :=
            { state.monitor with
              active := state.monitor.active ++ [Monitor.wake caller], parked } }

/-- Any number of steps, and the calls that end with them, in order. -/
inductive Run (start : State) : List (Visit × Outcome) → State → Prop
  /-- Nothing has happened yet. -/
  | refl : Run start [] start
  /-- One step more. -/
  | step {history ended : List (Visit × Outcome)} {state after : State}
      (hrun : Run start history state) (hstep : Step state ended after) :
      Run start (history ++ ended) after

variable {state after : State} {history ended : List (Visit × Outcome)}

/-- A single step forward is a run. -/
theorem Run.single (h : Advance state ended after) : Run state ended after := by
  simpa using Run.refl.step (.advance h)

/-- A run can be continued by another one. -/
theorem Run.trans {start : State} {later : List (Visit × Outcome)}
    (h : Run start history state) (hlater : Run state later after) :
    Run start (history ++ later) after := by
  induction hlater with
  | refl => simpa using h
  | step _ hstep ih =>
      rw [← List.append_assoc]
      exact ih.step hstep

/-! ### Threads and their calls -/

/-- What the thread at a position asks of the queue next; nothing if it has ended. -/
def State.asks (state : State) (token : Nat) : Option Request :=
  (state.workers[token]?).bind Worker.next?

/-- What a thread knows after a call has ended. A call that is aborted tells it nothing. -/
def Worker.hear (worker : Worker) (outcome : Outcome) : Worker :=
  match outcome.result with
  | .ok reply => worker.learn (.ok reply)
  | .error (.refused cause) => worker.learn (.error cause)
  | .error (.faulted _) => worker

/-- Taking note of a call that has ended concerns the thread that has made it. -/
theorem State.accept_eq (state : State) (call : Nat × Outcome) :
    state.accept call =
      { state with workers := state.workers.modify call.1 (·.hear call.2) } := by
  obtain ⟨token, result, buffer⟩ := call
  rw [accept]
  cases result with
  | ok reply => rfl
  | error failure =>
      cases failure with
      | refused cause => rfl
      | faulted fault =>
          have hnone : state.workers.modify token (·.hear ⟨.error (.faulted fault), buffer⟩) =
              state.workers := List.modify_id _ _
          rw [hnone]

/-- Taking note of a call that has ended does not concern the queue. -/
@[simp] theorem State.monitor_accept (state : State) (call : Nat × Outcome) :
    (state.accept call).monitor = state.monitor := by
  rw [accept_eq]

/-- Taking note of a call that has ended closes nothing. -/
@[simp] theorem State.closed_accept (state : State) (call : Nat × Outcome) :
    (state.accept call).closed = state.closed := by
  rw [accept_eq]

/-- A thread that has ended makes no call. -/
theorem State.resume_of_none {token : Nat} (h : state.asks token = none) :
    state.resume token = state := by
  rw [asks] at h
  simp only [resume, h]

/-- Every other thread calls the queue, and waits for as long as it takes. -/
theorem State.resume_of_some {token : Nat} {request : Request}
    (h : state.asks token = some request) :
    state.resume token =
      { state with
        monitor := state.monitor.arrive { token, request, deadline := .never } } := by
  rw [asks] at h
  simp only [resume, h]

/-- Making a call is a step of the callers at the queue, or nothing at all. -/
theorem State.monitorRun_resume (state : State) (token : Nat) :
    Monitor.Run state.monitor [] (state.resume token).monitor := by
  cases hasks : state.asks token with
  | none =>
      rw [resume_of_none hasks]
      exact .refl
  | some request =>
      rw [resume_of_some hasks]
      exact .single (.arrive rfl)

/-- Making a call changes no thread. -/
@[simp] theorem State.workers_resume (state : State) (token : Nat) :
    (state.resume token).workers = state.workers := by
  rw [resume]
  split <;> rfl

/-- Making a call closes nothing. -/
@[simp] theorem State.closed_resume (state : State) (token : Nat) :
    (state.resume token).closed = state.closed := by
  rw [resume]
  split <;> rfl

/-- Making a call does not change the queue. -/
@[simp] theorem State.queue_resume (state : State) (token : Nat) :
    (state.resume token).monitor.queue = state.monitor.queue := by
  rw [resume]
  split <;> rfl

/-- Making a call ends no other one. -/
theorem State.calls_subset_resume (state : State) (token : Nat) :
    state.monitor.calls ⊆ (state.resume token).monitor.calls := by
  intro visit hvisit
  cases hasks : state.asks token with
  | none =>
      rw [resume_of_none hasks]
      exact hvisit
  | some request =>
      rw [resume_of_some hasks, (Monitor.calls_arrive rfl).mem_iff]
      exact List.mem_cons_of_mem _ hvisit

/-- A thread that goes on does not change the queue. -/
@[simp] theorem State.queue_goOn (state : State) (call : Nat × Outcome) :
    (state.goOn call).monitor.queue = state.monitor.queue := by
  rw [goOn, queue_resume, monitor_accept]

/-- A thread that goes on closes nothing. -/
@[simp] theorem State.closed_goOn (state : State) (call : Nat × Outcome) :
    (state.goOn call).closed = state.closed := by
  rw [goOn, closed_resume, closed_accept]

/-- A thread that goes on ends no call. -/
theorem State.calls_subset_goOn (state : State) (call : Nat × Outcome) :
    state.monitor.calls ⊆ (state.goOn call).monitor.calls := by
  have hcalls := (state.accept call).calls_subset_resume call.1
  rwa [monitor_accept] at hcalls

/-! ### What a step does -/

variable {live : Live}

/-- **What a step does to a pipeline.** No call begins or ends, a call ends with a turn of the
queue, a thread takes note of that, or the queue is about to be closed. -/
theorem Step.cases (hstep : Step state ended after)
    (hqueue : state.monitor.queue = .created live)
    (hlive : live.contents.Consistent live.config) :
    (ended = [] ∧ ∃ monitor, after = { state with monitor } ∧ monitor.queue = .created live ∧
      monitor.returned = state.monitor.returned ∧ monitor.calls.Perm state.monitor.calls) ∨
    (∃ visit now outcome owed log live' monitor,
      live.Turn (visit.deadline.allows now) visit.request (.leave outcome owed log) live' ∧
      ended = [(visit, outcome)] ∧ after = { state with monitor } ∧
      monitor.queue = .created live' ∧
      monitor.returned = state.monitor.returned ++ [(visit.token, outcome)] ∧
      state.monitor.calls.Perm (visit.fresh :: monitor.calls)) ∨
    (ended = [] ∧ ∃ call returned, state.monitor.returned.Perm (call :: returned) ∧
      after = (state.withReturned returned).goOn call) ∨
    (ended = [] ∧ state.closed = false ∧ state.workers.any Worker.isSending = false ∧
      after = state.close) := by
  cases hstep with
  | advance h =>
      cases h with
      | @turn _ monitor hstep hless =>
          obtain ⟨visit, rfl⟩ | ⟨hended, hafter, hreturned, hcalls⟩ |
            ⟨visit, now, outcome, owed, log, live', hturn, hended, hafter, hreturned, hcalls⟩ :=
            hstep.calls_cases hqueue hlive
          · simp [Monitor.arrive] at hless
          · exact .inl ⟨hended, monitor, rfl, hafter, hreturned, hcalls⟩
          · exact .inr (.inl ⟨visit, now, outcome, owed, log, live', monitor, hturn, hended, rfl,
              hafter, hreturned, hcalls⟩)
      | @accept call returned hreturned =>
          exact .inr (.inr (.inl ⟨rfl, call, returned, hreturned, rfl⟩))
      | close hopen hsent => exact .inr (.inr (.inr ⟨rfl, hopen, hsent, rfl⟩))
  | @unpark caller parked hparked =>
      exact .inl ⟨rfl, _, rfl, hqueue, rfl, Monitor.calls_wake_perm [caller] hparked⟩

/-! ### The callers at the queue -/

/-- A pipeline at its start sees the first calls of its threads arrive. -/
theorem monitorRun_foldl_resume (state : State) (tokens : List Nat) :
    Monitor.Run state.monitor [] (tokens.foldl State.resume state).monitor := by
  induction tokens generalizing state with
  | nil => exact .refl
  | cons token tokens ih => exact (state.monitorRun_resume token).trans (ih _)

/-- A step of a pipeline is at most a step of the callers at its queue, if some of the calls that
are over are forgotten. -/
theorem Step.exists_monitorRun (hstep : Step state ended after) :
    ∃ returned, Monitor.Run { state.monitor with returned } ended after.monitor := by
  cases hstep with
  | advance h =>
      cases h with
      | turn hstep _ => exact ⟨_, .single hstep⟩
      | @accept call returned _ =>
          have hresume := ((state.withReturned returned).accept call).monitorRun_resume call.1
          rw [State.monitor_accept] at hresume
          exact ⟨returned, hresume⟩
      | close _ _ => exact ⟨_, .single (.arrive rfl)⟩
  | unpark hparked => exact ⟨_, .single (.unpark hparked)⟩

/-- **The queue of a pipeline sees callers like any other queue does**, if the calls that are over
are all remembered. -/
theorem Run.exists_monitorRun {queue : Queue} {receivers : Nat} {messages : List (List Message)}
    (hrun : Run (start queue receivers messages) history state) :
    ∃ returned, Monitor.Run { queue } history { state.monitor with returned } := by
  induction hrun with
  | refl =>
      refine ⟨_, monitorRun_foldl_resume { monitor := { queue }, workers := _ } _⟩
  | step _ hstep ih =>
      obtain ⟨returned, hbefore⟩ := ih
      obtain ⟨forgotten, hlast⟩ := hstep.exists_monitorRun
      obtain ⟨returned', hlast'⟩ := hlast.withReturned returned
      exact ⟨returned', hbefore.trans hlast'⟩

end StableQueue.Pipeline
