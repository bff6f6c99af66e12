import StableQueue.Proofs.Monitor.Wakeups
import StableQueue.Proofs.Pipeline.Serving

/-!
# No Schedule Gets Stuck

As long as a thread of a pipeline has not ended, some step forward is possible, even if no parked
caller ever wakes by itself. If nothing else can happen then all callers are parked, and in vain: a
receiver because there is no message, a sender because there is no free slot. Since no wake-up is
lost, both cannot be, and one of them alone is not left behind: senders who wait leave the
receivers running, and when the senders are done the queue is closed, which wakes all receivers.

## Main results

* `Pipeline.eq_nil_of_advance?_eq_none`: what it means that no step forward is preferred.
* `Pipeline.Run.exists_advance`: some step forward is possible until all threads have ended.
-/

namespace StableQueue.Pipeline

variable {history : List (Visit × Outcome)} {state : State} {live : Live} {token : Nat}
  {request : Request} {receivers : Nat} {messages : List (List Message)}

/-! ### One possible step forward -/

/-- The step forward that is preferred: deliver a wake-up that is owed, let a caller through the
lock, let a thread take note of the end of its call, or close the queue when all messages have been
sent. -/
def State.advance? (state : State) : Option (List (Visit × Outcome) × State) :=
  match state.monitor.owed, state.monitor.active, state.monitor.returned with
  | signal :: owed, _, _ =>
    some ([], { state with monitor := { state.monitor with owed }.deliver signal })
  | [], visit :: active, _ =>
    some (state.monitor.endings 0 visit,
      { state with monitor := { state.monitor with active }.enter 0 visit })
  | [], [], call :: returned =>
    some ([], (state.withReturned returned).goOn call)
  | [], [], [] =>
    if state.closed || state.workers.any Worker.isSending then none else some ([], state.close)

/-- The preferred step is a step forward. -/
theorem advance_of_advance? {ended : List (Visit × Outcome)} {after : State}
    (h : state.advance? = some (ended, after)) : Advance state ended after := by
  rw [State.advance?] at h
  split at h
  · rename_i signal owed howed
    cases h
    refine .turn (Monitor.step_deliver howed) (.inl ?_)
    rw [Monitor.owed_deliver, howed]
    exact Nat.lt_succ_self _
  · rename_i visit active _ hactive
    cases h
    refine .turn (.enter (.of_eq hactive) 0) (.inr ?_)
    rw [Monitor.active_enter, hactive]
    exact Nat.lt_succ_self _
  · rename_i call returned _ _ hreturned
    cases h
    exact .accept (.of_eq hreturned)
  · split at h
    · contradiction
    · rename_i hclose
      cases h
      rw [Bool.or_eq_true, not_or, Bool.not_eq_true, Bool.not_eq_true] at hclose
      exact .close hclose.1 hclose.2

/-- **What it means to be stuck.** If no step forward is preferred, nobody is about to take the lock
or has a call to take note of, no wake-up is owed, and the queue has been closed if all messages
have been sent. -/
theorem eq_nil_of_advance?_eq_none (h : state.advance? = none) :
    state.monitor.active = [] ∧ state.monitor.owed = [] ∧ state.monitor.returned = [] ∧
      (state.closed = true ∨ state.workers.any Worker.isSending = true) := by
  rw [State.advance?] at h
  split at h
  · contradiction
  · contradiction
  · contradiction
  · rename_i howed hactive hreturned
    split at h
    · rename_i hclose
      exact ⟨hactive, howed, hreturned, by simpa using hclose⟩
    · contradiction

/-- At most so many preferred steps. -/
def State.advance (state : State) : Nat → State
  | 0 => state
  | fuel + 1 =>
    match state.advance? with
    | none => state
    | some (_, after) => after.advance fuel

/-- The preferred steps make a run. -/
theorem run_advance (state : State) (fuel : Nat) :
    ∃ history, Run state history (state.advance fuel) := by
  induction fuel generalizing state with
  | zero => exact ⟨[], .refl⟩
  | succ fuel ih =>
      rw [State.advance]
      split
      · exact ⟨[], .refl⟩
      · rename_i ended after hafter
        obtain ⟨history, hrun⟩ := ih after
        exact ⟨_, (Run.single (advance_of_advance? hafter)).trans hrun⟩

/-! ### Threads that wait -/

/-- If nobody is about to take the lock, those whose calls are under way are parked. -/
theorem exists_parked_of_mem_calls (hactive : state.monitor.active = []) {visit : Visit}
    (hvisit : visit ∈ state.monitor.calls) :
    ∃ caller ∈ state.monitor.parked, caller.1.token = visit.token ∧
      caller.1.request = visit.request := by
  rw [Monitor.calls, hactive, List.nil_append, List.map_map] at hvisit
  obtain ⟨caller, hcaller, rfl⟩ := List.mem_map.mp hvisit
  exact ⟨caller, hcaller, rfl, rfl⟩

/-- Callers who are parked while nothing else can happen have found the queue open, and nothing of
what they wait for is there. -/
theorem available_of_parked (hattended : state.monitor.Attended live)
    (hactive : state.monitor.active = []) (howed : state.monitor.owed = [])
    {caller : Visit × Condition} (hcaller : caller ∈ state.monitor.parked) :
    live.contents.closed = false ∧ caller.1.request.awaits = some caller.2 ∧
      live.available caller.2 = 0 := by
  have hparks := hattended.parked caller hcaller
  simp only [Request.parksOn, Bool.and_eq_true, decide_eq_true_eq] at hparks
  obtain ⟨hopen, hle⟩ := hattended.covered caller.2 ⟨caller, hcaller, rfl⟩ (by simp [howed])
  rw [Monitor.woken, hactive, howed] at hle
  exact ⟨hopen, hparks.1, Nat.le_zero.mp hle⟩

/-- A thread that wants to make a call while nothing else can happen has found the queue open, and
nothing of what it waits for is there. -/
theorem Orderly.available_of_asks {first : List Worker} (h : Orderly first [] history state)
    (hattended : state.monitor.Attended live) (hactive : state.monitor.active = [])
    (howed : state.monitor.owed = []) (hreturned : state.monitor.returned = [])
    (hasks : state.asks token = some request) :
    live.contents.closed = false ∧
      ∃ condition, request.awaits = some condition ∧ live.available condition = 0 := by
  have hpresent := h.present token request hasks
  rw [List.nil_append, State.tokens, hreturned, List.map_nil, List.append_nil] at hpresent
  obtain ⟨visit, hvisit, rfl⟩ := List.mem_map.mp hpresent
  obtain ⟨caller, hcaller, -, hrequest⟩ := exists_parked_of_mem_calls hactive hvisit
  have hsame : visit.request = request := by
    obtain ⟨worker, hworker, hnext⟩ := State.exists_worker_of_asks hasks
    exact Option.some.inj ((h.next?_of_call hvisit hworker).symm.trans hnext)
  obtain ⟨hopen, hawaits, hnone⟩ := available_of_parked hattended hactive howed hcaller
  rw [hrequest, hsame] at hawaits
  exact ⟨hopen, caller.2, hawaits, hnone⟩

/-- A receiver ends only when the queue has been closed. -/
theorem Orderly.asks_receive (h : Orderly (threads receivers messages) [] history state)
    (hserved : Served history state live) (hreturned : state.monitor.returned = [])
    (hopen : live.contents.closed = false) (htoken : token < receivers) :
    state.asks token = some .receive := by
  obtain ⟨worker, hworker⟩ : ∃ worker, state.workers[token]? = some worker := by
    have hlength := h.length_eq
    rw [threads, List.length_append, List.length_replicate] at hlength
    exact ⟨_, List.getElem?_eq_getElem (by omega)⟩
  obtain ⟨start, hstart, hinformed⟩ := h.informed token worker hworker
  obtain rfl : .receiver [] none = start := by
    rw [threads, List.getElem?_append_left (by simpa using htoken),
      List.getElem?_replicate_of_lt htoken] at hstart
    exact Option.some.inj hstart
  cases hinformed with
  | unheard _ _ _ hmem => simp [hreturned] at hmem
  | heard hcalls _ =>
      obtain ⟨taken, final, rfl, -, -, rfl | ⟨-, hdrained⟩⟩ := hcalls.receiver
        fun call hcall => hserved.answered call (callsOf_subset token history hcall)
      · rw [State.asks, hworker]
        rfl
      · have hclosed := (hserved.drained (callsOf_subset token history hdrained)).1
        simp [hopen] at hclosed

/-- A thread that has messages to send wants to send the first of them. -/
theorem Worker.exists_next?_of_isSending {worker : Worker} (h : worker.isSending = true) :
    ∃ request, worker.next? = some request ∧ request.awaits = some .notFull := by
  cases worker with
  | receiver taken final => simp [isSending] at h
  | sender pending results =>
      cases pending with
      | nil => simp [isSending] at h
      | cons message pending => exact ⟨_, rfl, rfl⟩

/-- A pipeline in which nothing can happen any more has come to its end. -/
theorem Orderly.ended_of_parked (h : Orderly (threads receivers messages) [] history state)
    (hserved : Served history state live) (hattended : state.monitor.Attended live)
    (hdepth : 0 < live.config.depth) (hreceivers : 0 < receivers)
    (hactive : state.monitor.active = []) (howed : state.monitor.owed = [])
    (hreturned : state.monitor.returned = [])
    (hclosing : state.closed = true ∨ state.workers.any Worker.isSending = true) :
    ∀ worker ∈ state.workers, worker.next? = none := by
  intro worker hworker
  rw [Option.eq_none_iff_forall_ne_some]
  intro request hnext
  obtain ⟨token, htoken⟩ := State.exists_asks hworker hnext
  obtain ⟨hopen, -⟩ := h.available_of_asks hattended hactive howed hreturned htoken
  rcases hclosing with hclosed | hsending
  · -- Who closes the queue is not parked, and so has closed it.
    rcases hserved.closing hclosed with hclosed' | ⟨visit, hvisit, hclose⟩
    · simp [hopen] at hclosed'
    · obtain ⟨caller, hcaller, -, hrequest⟩ := exists_parked_of_mem_calls hactive hvisit
      obtain ⟨-, hawaits, -⟩ := available_of_parked hattended hactive howed hcaller
      simp [hrequest, hclose, Request.awaits] at hawaits
  · -- A sender waits for a slot and a receiver for a message, but the queue has room for one.
    obtain ⟨sender, hsender, hpending⟩ := List.any_eq_true.mp hsending
    obtain ⟨asked, hasked, hnotFull⟩ := Worker.exists_next?_of_isSending hpending
    obtain ⟨token', htoken'⟩ := State.exists_asks hsender hasked
    obtain ⟨-, condition, hawaits, hfull⟩ :=
      h.available_of_asks hattended hactive howed hreturned htoken'
    obtain rfl : .notFull = condition := Option.some.inj (hnotFull.symm.trans hawaits)
    have hreceive := h.asks_receive hserved hreturned hopen hreceivers
    obtain ⟨-, condition, hawaits', hempty⟩ :=
      h.available_of_asks hattended hactive howed hreturned hreceive
    obtain rfl : .notEmpty = condition := Option.some.inj hawaits'
    have hsum := hserved.consistent.len_add_freeCount
    simp only [Live.available] at hfull hempty
    omega

/-- Nobody in a pipeline is parked in vain. -/
theorem Run.attended {config : Config} {host host' : Host} {queue : Queue}
    (hbuild : (Queue.build config).runOn host = (.ok queue, host'))
    (hrun : Run (start queue receivers messages) history state)
    (haccepted : acceptedCount (Monitor.finished history) < 2 ^ 63)
    (hqueue : state.monitor.queue = .created live) : state.monitor.Attended live := by
  obtain ⟨returned, hmonitor⟩ := hrun.exists_monitorRun
  have hfault := hmonitor.not_faulted_of_create hbuild haccepted
  obtain ⟨-, id, contents, hnew, rfl⟩ := Queue.of_create hbuild
  obtain ⟨same, hsame, hattended⟩ :=
    hmonitor.attended rfl (Contents.Consistent.new hnew).1 (.new _) hfault
  obtain rfl : live = same := Queue.created.inj (hqueue.symm.trans hsame)
  exact ⟨hattended.parked, hattended.active, hattended.covered⟩

/-- **No schedule gets stuck.** Until all threads have ended, some step forward is possible. -/
theorem Run.exists_advance {config : Config} {host host' : Host} {queue : Queue}
    (hbuild : (Queue.build config).runOn host = (.ok queue, host')) (hreceivers : 0 < receivers)
    (htotal : messages.flatten.length < 2 ^ 63)
    (hrun : Run (start queue receivers messages) history state)
    (hgoing : ∃ worker ∈ state.workers, worker.next?.isSome = true) :
    ∃ ended after, Advance state ended after := by
  obtain ⟨horderly, live, rfl, hserved⟩ := hrun.served hbuild htotal
  cases hnext : state.advance? with
  | some next => exact ⟨next.1, next.2, advance_of_advance? hnext⟩
  | none =>
      obtain ⟨hactive, howed, hreturned, hclosing⟩ := eq_nil_of_advance?_eq_none hnext
      have haccepted := horderly.acceptedCount_le hserved.answered
      have hattended := hrun.attended hbuild (by omega) hserved.queue
      obtain ⟨hvalid, -⟩ := Queue.of_create hbuild
      have hdepth := (Config.validate_eq_ok_iff.mp hvalid).1
      obtain ⟨worker, hworker, hasks⟩ := hgoing
      have hended := horderly.ended_of_parked hserved hattended hdepth hreceivers hactive howed
        hreturned hclosing worker hworker
      simp [hended] at hasks

end StableQueue.Pipeline
