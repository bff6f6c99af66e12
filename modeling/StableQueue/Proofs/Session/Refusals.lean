import StableQueue.Proofs.Monitor.Receiving
import StableQueue.Proofs.Session.Accounting
import StableQueue.Proofs.Session.Foreign

/-!
# Refused Calls Leave No Trace

Which refusal a caller is told is fixed by `Queue.Objects`, in whatever way it waits. Of
`Queue.Decides` and `Queue.Spotless`, the first says so for a single pass through the lock, whoever
else is at the queue, and for the call of a caller who is alone. The second says that who is refused
has changed nothing: neither the queue, with all that is known of it without its lock, nor the
registry. So a call that is refused might as well not have been made.

## Main results

* `Monitor.Run.queue_eq_of_refused`: a queue after any number of calls that were all refused.
* `Queue.WellFormed.performAll_of_refused`: calls made one after the other, with and without one
  that is refused.
* `Contents.Consistent.runOn_enqueue_eq_refused_iff`: the operation underneath a call of `send`.
* `Queue.refusals_leave_no_trace`: both hold of every queue that can be reached.
-/

namespace StableQueue

/-! ### Callers in any order -/

namespace Monitor

variable {monitor after : Monitor}

/-- Who passes through the lock leaves the queue as the pass does. -/
theorem queue_enter (monitor : Monitor) (now : Nat) (visit : Visit) :
    (monitor.enter now visit).queue =
      (monitor.queue.attempt visit.request (visit.deadline.allows now)).2 := by
  rw [enter]
  split
  · rename_i hattempt
    rw [hattempt]
  · rename_i hattempt
    rw [hattempt]

/-- The call that ends with a passage was refused, or no call ends with it: the queue is as it
was. -/
theorem queue_enter_of_refused (h : monitor.queue.WellFormed) {now : Nat} {visit : Visit}
    (hrefused : ∀ ending ∈ monitor.endings now visit, ∃ cause,
      ending.2.result = .error (.refused cause)) :
    (monitor.enter now visit).queue = monitor.queue := by
  rw [queue_enter]
  rw [endings] at hrefused
  obtain ⟨_, _, _, -, hsame⟩ | ⟨_, _, _, _, _, -, hsame⟩ |
    ⟨-, outcome, owed, log, hpass, hresult⟩ := h.attempt_cases (Prod.eta _).symm
  · exact hsame
  · exact hsame
  · rw [hpass] at hrefused
    obtain ⟨cause, hcause⟩ := hrefused _ List.mem_cons_self
    exact absurd hcause (hresult cause)

/-- **A step by which no call ends but those that are refused leaves the queue as it is.** -/
theorem Step.queue_eq_of_refused {ended : List (Visit × Outcome)} (hstep : Step monitor ended after)
    (h : monitor.queue.WellFormed)
    (hrefused : ∀ ending ∈ ended, ∃ cause, ending.2.result = .error (.refused cause)) :
    after.queue = monitor.queue := by
  cases hstep with
  | @enter visit active _ now =>
      exact @queue_enter_of_refused { monitor with active } h now visit hrefused
  | _ => rfl

/-- **A run in which all calls are refused leaves the queue as it is.** -/
theorem Run.queue_eq_of_refused {start : Monitor} {history : List (Visit × Outcome)}
    (hrun : Run start history monitor) (h : start.queue.WellFormed)
    (hrefused : ∀ ending ∈ history, ∃ cause, ending.2.result = .error (.refused cause)) :
    monitor.queue = start.queue := by
  induction hrun with
  | refl => rfl
  | @step history ended monitor after hrun hstep ih =>
      rw [List.forall_mem_append] at hrefused
      have hbefore := ih hrefused.1
      rw [← hbefore] at h
      exact (hstep.queue_eq_of_refused h hrefused.2).trans hbefore

end Monitor

/-! ### The operation underneath -/

/-- **Storing and queueing a payload is refused exactly if the payload does not fit** and there is a
slot for it. Nothing has changed then: the slot is back where it was. -/
theorem Contents.Consistent.runOn_enqueue_eq_refused_iff {contents after : Contents}
    {config : Config} (h : contents.Consistent config) {payload : ByteArray} {priority : Int}
    {cause : Refusal} :
    (enqueue payload priority).runOn contents = (.error (.refused cause), after) ↔
      contents.hasSpace = true ∧ config.messageSize < payload.size ∧
        cause = .oversized payload.size config.messageSize ∧ after = contents := by
  cases hspace : contents.hasSpace with
  | false =>
      have hfree : contents.pool.freeSlots = [] := by
        rw [← List.length_eq_zero_iff, h.pool.length_freeSlots]
        simpa [hasSpace] using hspace
      have habort : (enqueue payload priority).runOn contents =
          (.error (.faulted .noFreeSlot), contents) := by
        simp only [enqueue, Action.runOn_bind, runOn_onPool,
          SlotPool.runOn_acquire_of_nil h.pool hfree, Action.runOn_abort]
      simp [habort]
  | true =>
      obtain ⟨slot, rest, hfree⟩ := h.exists_freeSlots hspace
      rcases Nat.lt_or_ge config.messageSize payload.size with hsize | hsize
      · rw [h.runOn_enqueue_of_lt hfree hsize priority]
        simp [hsize, eq_comm]
      · rw [h.runOn_enqueue hfree hsize priority]
        split <;> simp [Nat.not_lt.mpr hsize]

/-- The only fault a pass can meet is that the heap is out of order. -/
theorem Live.Turn.fault_eq {live live' : Live} {mayWait : Bool} {request : Request}
    {outcome : Outcome} {owed : List Signal} {log : List Log.Event} {fault : Fault}
    (h : live.Turn mayWait request (.leave outcome owed log) live')
    (hfault : outcome.result = .error (.faulted fault)) : fault = .heapOrder := by
  cases h with
  | received _ _ _ _ => cases request <;> contradiction
  | sendAborted _ _ _ _ => simpa [eq_comm] using hfault
  | receiveAborted _ _ _ _ => simpa [eq_comm] using hfault
  | _ => simp [Outcome.refused] at hfault

/-! ### Calls one after the other -/

namespace Queue

variable {queue : Queue}

/-- A call that returns leaves a queue with consistent contents. -/
theorem WellFormed.perform (h : queue.WellFormed) {now : Nat} {request : Request}
    {patience : Patience} {outcome : Outcome} {log : List Log.Event} {after : Queue}
    (hperform : queue.perform now request patience = some (outcome, log, after)) :
    after.WellFormed := by
  obtain ⟨_, _, _, _, _, rfl⟩ | ⟨_, _, hafter⟩ := h.perform_cases hperform
  · exact h
  · exact hafter

/-- So do calls made one after the other. -/
theorem WellFormed.performAll (h : queue.WellFormed) {calls : List Call}
    {history : List Finished} {after : Queue}
    (hcalls : queue.performAll calls = some (history, after)) : after.WellFormed := by
  induction calls generalizing queue history with
  | nil =>
      cases hcalls
      exact h
  | cons call calls ih =>
      simp only [Queue.performAll, Option.bind_eq_bind, Option.bind_eq_some_iff, Prod.exists,
        Option.pure_def, Option.some.injEq, Prod.mk.injEq] at hcalls
      obtain ⟨outcome, log, middle, hperform, later, final, hlater, -, rfl⟩ := hcalls
      exact ih (h.perform hperform) hlater

/-- The first call, and then the others. -/
theorem performAll_cons (queue : Queue) (call : Call) (calls : List Call) :
    queue.performAll (call :: calls) =
      (queue.perform call.time call.request call.patience).bind fun ended =>
        (ended.2.2.performAll calls).map fun rest =>
          (⟨call.request, ended.1⟩ :: rest.1, rest.2) := by
  rw [performAll]
  cases queue.perform call.time call.request call.patience with
  | none => rfl
  | some ended => cases hrest : ended.2.2.performAll calls <;> simp [hrest]

/-- Calls made in two parts. -/
theorem performAll_append (queue : Queue) (earlier later : List Call) :
    queue.performAll (earlier ++ later) =
      (queue.performAll earlier).bind fun past =>
        (past.2.performAll later).map fun rest => (past.1 ++ rest.1, rest.2) := by
  induction earlier generalizing queue with
  | nil => simp [performAll]
  | cons call earlier ih =>
      simp only [List.cons_append, performAll_cons, ih]
      cases queue.perform call.time call.request call.patience with
      | none => rfl
      | some ended =>
          cases hpast : ended.2.2.performAll earlier with
          | none => simp [hpast]
          | some past => cases hrest : past.2.performAll later <;> simp [hpast, hrest]

/-- **Without a call that is refused, all others end as they do with it.** The same holds if one of
the later calls never returns. -/
theorem WellFormed.performAll_of_refused (h : queue.WellFormed) {earlier later : List Call}
    {call : Call} {past : List Finished} {present after : Queue} {outcome : Outcome}
    {log : List Log.Event} {cause : Refusal}
    (hpast : queue.performAll earlier = some (past, present))
    (hperform : present.perform call.time call.request call.patience = some (outcome, log, after))
    (hrefused : outcome.result = .error (.refused cause)) :
    queue.performAll (earlier ++ later) =
      (queue.performAll (earlier ++ call :: later)).map fun run =>
        (run.1.eraseIdx past.length, run.2) := by
  have hsame : after = present := by
    obtain ⟨_, _, _, _, _, hsame⟩ | ⟨_, hresult, _⟩ := (h.performAll hpast).perform_cases hperform
    · exact hsame
    · exact absurd hrefused (hresult cause)
  subst hsame
  rw [performAll_append, performAll_append, hpast, Option.bind_some, Option.bind_some,
    performAll_cons, hperform, Option.bind_some]
  cases after.performAll later with
  | none => rfl
  | some rest => simp [List.eraseIdx_append_of_length_le]

/-! ### Decisions -/

/-- How a queue, at which so many messages have been accepted, decides on the requests of its
callers. -/
structure Decides (queue : Queue) (accepted : Nat) : Prop where
  /-- A pass refuses the call exactly if there is this objection and the caller does not wait for it
  to be removed. -/
  pass_refused_iff (request : Request) (mayWait : Bool) (cause : Refusal) :
    (∃ outcome owed log after,
      queue.attempt request mayWait = (.leave outcome owed log, after) ∧
        outcome.result = .error (.refused cause)) ↔
      queue.Objects request cause ∧ (cause.isTransient = true → mayWait = false)
  /-- A caller parks exactly if it may wait and there is an objection that waiting may remove. -/
  pass_parks_iff (request : Request) (mayWait : Bool) :
    (∃ condition after, queue.attempt request mayWait = (.park condition, after)) ↔
      mayWait = true ∧ ∃ cause, queue.Objects request cause ∧ cause.isTransient = true
  /-- Without an objection the request is carried out in this pass. Only if too many messages have
  been accepted may the heap be found out of order. -/
  pass_carriesOut (request : Request) : (∀ cause, ¬ queue.Objects request cause) →
    ∃ outcome owed log after,
      (∀ mayWait, queue.attempt request mayWait = (.leave outcome owed log, after)) ∧
        ((∃ reply, outcome.result = .ok reply) ∨
          (2 ^ 63 ≤ accepted ∧ outcome.result = .error (.faulted .heapOrder)))
  /-- The call of a caller who is alone is refused exactly if there is this objection and the caller
  does not wait for ever for it to be removed. -/
  call_refused_iff (now : Nat) (request : Request) (patience : Patience) (cause : Refusal) :
    (∃ outcome log after, queue.perform now request patience = some (outcome, log, after) ∧
        outcome.result = .error (.refused cause)) ↔
      queue.Objects request cause ∧ (cause.isTransient = true → patience.deadline now ≠ .never)
  /-- Such a call never returns exactly if the caller does. -/
  call_endless_iff (now : Nat) (request : Request) (patience : Patience) :
    queue.perform now request patience = none ↔
      patience.deadline now = .never ∧
        ∃ cause, queue.Objects request cause ∧ cause.isTransient = true
  /-- Without an objection such a call is carried out, however patient the caller is. -/
  call_carriesOut (request : Request) : (∀ cause, ¬ queue.Objects request cause) →
    ∃ outcome log after,
      (∀ now patience, queue.perform now request patience = some (outcome, log, after)) ∧
        ((∃ reply, outcome.result = .ok reply) ∨
          (2 ^ 63 ≤ accepted ∧ outcome.result = .error (.faulted .heapOrder)))

/-- At a queue that can be reached, a pass that meets no objection carries the request out. -/
theorem Reached.carriesOut {history : List Finished} (h : queue.Reached history)
    {request : Request} (hnone : ∀ cause, ¬ queue.Objects request cause) :
    ∃ outcome owed log after,
      (∀ mayWait, queue.attempt request mayWait = (.leave outcome owed log, after)) ∧
        ((∃ reply, outcome.result = .ok reply) ∨
          (2 ^ 63 ≤ acceptedCount history ∧ outcome.result = .error (.faulted .heapOrder))) := by
  obtain ⟨outcome, owed, log, after, hleave, hresult, -⟩ :=
    h.wellFormed.attempt_of_not_objects hnone
  refine ⟨outcome, owed, log, after, hleave, ?_⟩
  obtain ⟨(cause | fault) | reply, buffer⟩ := outcome
  · exact absurd rfl (hresult cause)
  · refine .inr ⟨?_, ?_⟩
    · exact Nat.not_lt.mp fun hfew => h.not_faulted hfew (hleave false) fault rfl
    · obtain rfl | ⟨live, rfl, hlive, -⟩ := h.cases
      · exact absurd .uncreated (hnone .uninitialized)
      · have hturn := Live.attempt_turn hlive request false
        have hpass : (live.attempt request false).1 = .leave _ owed log :=
          congrArg Prod.fst (hleave false)
        rw [hpass] at hturn
        rw [hturn.fault_eq rfl]
  · exact .inl ⟨reply, rfl⟩

/-- **A queue that can be reached decides as it should.** -/
theorem Reached.decides {history : List Finished} (h : queue.Reached history) :
    queue.Decides (acceptedCount history) where
  pass_refused_iff request mayWait cause := by
    constructor
    · rintro ⟨outcome, owed, log, after, hattempt, hrefused⟩
      obtain ⟨other, hobjects, hwait, hpass, -⟩ | ⟨_, _, _, _, _, hpass, -⟩ |
        ⟨-, same, _, _, hpass, hresult⟩ := h.wellFormed.attempt_cases hattempt
      · obtain ⟨rfl, -, -⟩ := Pass.leave.inj hpass
        obtain rfl : other = cause := by simpa [Outcome.refused] using hrefused
        exact ⟨hobjects, hwait⟩
      · contradiction
      · obtain ⟨rfl, -, -⟩ := Pass.leave.inj hpass
        exact absurd hrefused (hresult cause)
    · rintro ⟨hobjects, hwait⟩
      exact ⟨_, _, _, _, (h.wellFormed.attempt_of_objects hobjects).1 mayWait hwait, rfl⟩
  pass_parks_iff request mayWait := by
    constructor
    · rintro ⟨condition, after, hattempt⟩
      obtain ⟨_, _, _, hpass, -⟩ | ⟨cause, _, hobjects, htransient, hmay, -, -⟩ |
        ⟨-, _, _, _, hpass, -⟩ := h.wellFormed.attempt_cases hattempt
      · contradiction
      · exact ⟨hmay, cause, hobjects, htransient⟩
      · contradiction
    · rintro ⟨rfl, cause, hobjects, htransient⟩
      obtain ⟨condition, -, hpark⟩ := (h.wellFormed.attempt_of_objects hobjects).2 htransient
      exact ⟨condition, queue, hpark⟩
  pass_carriesOut request hnone := h.carriesOut hnone
  call_refused_iff now request patience cause := by
    constructor
    · rintro ⟨outcome, log, after, hperform, hrefused⟩
      obtain ⟨other, hobjects, hwait, rfl, -, -⟩ | ⟨-, hresult, -⟩ :=
        h.wellFormed.perform_cases hperform
      · obtain rfl : other = cause := by simpa [Outcome.refused] using hrefused
        exact ⟨hobjects, hwait⟩
      · exact absurd hrefused (hresult cause)
    · rintro ⟨hobjects, hwait⟩
      exact ⟨_, _, _, (h.wellFormed.perform_of_objects hobjects now patience).1 hwait, rfl⟩
  call_endless_iff now request patience := by
    constructor
    · intro hnone
      by_cases hobjects : ∃ cause, queue.Objects request cause
      · obtain ⟨cause, hobjects⟩ := hobjects
        obtain ⟨hrefused, -⟩ := h.wellFormed.perform_of_objects hobjects now patience
        by_contra hnot
        rw [hrefused fun htransient hnever => hnot ⟨hnever, cause, hobjects, htransient⟩] at hnone
        contradiction
      · obtain ⟨_, _, _, hreturns, -⟩ :=
          h.wellFormed.perform_of_not_objects (not_exists.mp hobjects)
        rw [hreturns] at hnone
        contradiction
    · rintro ⟨hnever, cause, hobjects, htransient⟩
      exact (h.wellFormed.perform_of_objects hobjects now patience).2 htransient hnever
  call_carriesOut request hnone := by
    obtain ⟨outcome, owed, log, after, hleave, hends⟩ := h.carriesOut hnone
    refine ⟨outcome, log, after, fun now patience => ?_, hends⟩
    rw [perform, hleave]

/-! ### No traces -/

/-- Who is refused at this queue has changed nothing. -/
structure Spotless (queue : Queue) : Prop where
  /-- A pass that refuses the call leaves the buffer of the caller and the queue as they were. -/
  pass (request : Request) (mayWait : Bool) (outcome : Outcome) (owed : List Signal)
      (log : List Log.Event) (after : Queue) (cause : Refusal) :
    queue.attempt request mayWait = (.leave outcome owed log, after) →
      outcome.result = .error (.refused cause) → outcome.buffer = request.buffer ∧ after = queue
  /-- So does a pass that parks. -/
  park (request : Request) (mayWait : Bool) (condition : Condition) (after : Queue) :
    queue.attempt request mayWait = (.park condition, after) → after = queue
  /-- After any number of steps of any number of callers, who have come and waited and gone, the
  queue is as it was if all calls that have ended were refused. -/
  run (start monitor : Monitor) (history : List (Visit × Outcome)) : start.queue = queue →
    Monitor.Run start history monitor →
      (∀ ending ∈ history, ∃ cause, ending.2.result = .error (.refused cause)) →
        monitor.queue = queue
  /-- A call of a caller who is alone, if it is refused, leaves the buffer of the caller and the
  queue as they were. -/
  call (now : Nat) (request : Request) (patience : Patience) (outcome : Outcome)
      (log : List Log.Event) (after : Queue) (cause : Refusal) :
    queue.perform now request patience = some (outcome, log, after) →
      outcome.result = .error (.refused cause) → outcome.buffer = request.buffer ∧ after = queue
  /-- Of calls made one after the other, one that is refused can be left out. All others end in the
  same way, and the queue after them is the same. -/
  erase (earlier later : List Call) (call : Call) (past : List Finished) (present after : Queue)
      (outcome : Outcome) (log : List Log.Event) (cause : Refusal) :
    queue.performAll earlier = some (past, present) →
      present.perform call.time call.request call.patience = some (outcome, log, after) →
        outcome.result = .error (.refused cause) →
          queue.performAll (earlier ++ later) =
            (queue.performAll (earlier ++ call :: later)).map fun run =>
              (run.1.eraseIdx past.length, run.2)
  /-- Who fails to create the queue leaves the registry and the log as they were. -/
  create (config : Config) (host host' : Host) (failure : Failure) :
    (queue.create config).runOn host = (.error failure, host') → host' = host
  /-- The operation underneath refuses a payload only if it does not fit, and leaves the contents as
  they were. -/
  enqueue (live : Live) (payload : ByteArray) (priority : Int) (cause : Refusal)
      (after : Contents) : queue = .created live →
    ((Contents.enqueue payload priority).runOn live.contents = (.error (.refused cause), after) ↔
      live.contents.hasSpace = true ∧ live.config.messageSize < payload.size ∧
        cause = .oversized payload.size live.config.messageSize ∧ after = live.contents)
  /-- If no thread is at a queue, a call that is refused leaves the registry and all queues of the
  session as they were. -/
  session (session : Session) (key : Nat) (present : Monitor) (request : Request)
      (patience : Patience) (outcome : Outcome) (cause : Refusal) : session.isBusy = false →
    session.monitor? key = some present → present.queue = queue →
      (session.call key request patience).1 = some outcome →
        outcome.result = .error (.refused cause) →
          (session.call key request patience).2.host.registry = session.host.registry ∧
            ∀ k, (session.call key request patience).2.monitor? k = session.monitor? k

/-- A call that is refused, and what it leaves behind. -/
theorem WellFormed.eq_of_perform (h : queue.WellFormed) {now : Nat} {request : Request}
    {patience : Patience} {outcome : Outcome} {log : List Log.Event} {after : Queue}
    {cause : Refusal} (hperform : queue.perform now request patience = some (outcome, log, after))
    (hrefused : outcome.result = .error (.refused cause)) :
    outcome.buffer = request.buffer ∧ after = queue := by
  obtain ⟨_, _, _, rfl, _, hsame⟩ | ⟨_, hresult, _⟩ := h.perform_cases hperform
  · exact ⟨rfl, hsame⟩
  · exact absurd hrefused (hresult cause)

/-- **Nobody who is refused at a queue with consistent contents has changed anything.** -/
theorem WellFormed.spotless (h : queue.WellFormed) : queue.Spotless where
  pass request mayWait outcome owed log after cause hattempt hrefused := by
    obtain ⟨_, _, _, hpass, hsame⟩ | ⟨_, _, _, _, _, hpass, -⟩ | ⟨-, _, _, _, hpass, hresult⟩ :=
      h.attempt_cases hattempt
    · obtain ⟨rfl, -, -⟩ := Pass.leave.inj hpass
      exact ⟨rfl, hsame⟩
    · contradiction
    · obtain ⟨rfl, -, -⟩ := Pass.leave.inj hpass
      exact absurd hrefused (hresult cause)
  park request mayWait condition after hattempt := by
    obtain ⟨_, _, _, _, hsame⟩ | ⟨_, _, _, _, _, _, hsame⟩ | ⟨-, _, _, _, hpass, -⟩ :=
      h.attempt_cases hattempt
    · exact hsame
    · exact hsame
    · contradiction
  run start monitor history hqueue hrun hrefused := by
    subst hqueue
    exact hrun.queue_eq_of_refused h hrefused
  call now request patience outcome log after cause := h.eq_of_perform
  erase earlier later call past present after outcome log cause := h.performAll_of_refused
  create config host host' failure hcreate := by
    obtain ⟨cause, hsame⟩ | ⟨-, live, entered, hcreated, -⟩ := queue.create_cases config host
    · exact congrArg Prod.snd (hcreate.symm.trans hsame)
    · rw [hcreated] at hcreate
      simp at hcreate
  enqueue live payload priority cause after hqueue :=
    (h live hqueue).runOn_enqueue_eq_refused_iff
  session session key present request patience outcome cause hidle hpresent hqueue hcall
      hrefused := by
    obtain ⟨log, after, hperform⟩ := Session.exists_perform_of_call hidle hpresent hcall
    rw [Session.call_of_perform hidle hpresent hperform]
    rw [hqueue] at hperform
    obtain ⟨-, rfl⟩ := h.eq_of_perform hperform hrefused
    refine ⟨rfl, fun k => ?_⟩
    rw [Session.monitor?_emitAll, Session.monitor?_changeMonitor]
    split
    · rename_i hk
      rw [hk, hpresent, Option.map_some, ← hqueue]
    · rfl

/-- **Refusals leave no trace.** At every queue that can be reached, open or closed, full or empty
or not even created, it is decided which refusal a caller is told, and who is refused has changed
nothing. -/
theorem refusals_leave_no_trace {history : List Finished} (hqueue : queue.Reached history) :
    queue.Decides (acceptedCount history) ∧ queue.Spotless :=
  ⟨hqueue.decides, hqueue.wellFormed.spotless⟩

/-- At the sample while its message is queued, a caller whose buffer has no room is refused, however
long it is willing to wait, and the message stays. -/
theorem refusals_leave_no_trace_sampleSent :
    Monitor.sampleSent.queue.Reached (Monitor.finished Monitor.sampleHistory) ∧
      Monitor.sampleSent.queue.Objects (.receiveInto .empty) (.bufferTooSmall 1 0) ∧
      ∃ outcome log, Monitor.sampleSent.queue.perform 0 (.receiveInto .empty) .unlimited =
        some (outcome, log, Monitor.sampleSent.queue) := by
  have hreached := Reached.created create_sample Monitor.sample_run
  obtain ⟨hdecides, hspotless⟩ := refusals_leave_no_trace hreached
  have hresult : (Monitor.sampleSent.queue.perform 0 (.receiveInto .empty) .unlimited).map
      (fun ended => ended.1.result) = some (.error (.refused (.bufferTooSmall 1 0))) := by
    decide +kernel
  obtain ⟨⟨outcome, log, after⟩, hperform, hrefused⟩ := Option.map_eq_some_iff.mp hresult
  obtain ⟨-, rfl⟩ := hspotless.call _ _ _ _ _ _ _ hperform hrefused
  have hobjects := ((hdecides.call_refused_iff _ _ _ _).mp ⟨_, _, _, hperform, hrefused⟩).1
  exact ⟨hreached, hobjects, outcome, log, hperform⟩

end Queue

end StableQueue
