import StableQueue.Proofs.Session.Refusals

/-!
# Producers and Consumers Are Faithful

A handle passes its calls on to the queue it belongs to and words the answer in its own way. What it
says is tied to what the queue has said by `Producer.Mirrors` and `Consumer.Mirrors`. A consumer
takes an empty queue for an answer; that this does not hide a refusal from one who waits for ever
needs an argument about the queue, as does that no other refusal but two ever comes to a consumer.
Both hold of every call that ends, in whatever pass.

In a session several objects can hold one queue. A program of calls does the same through all of
them, and through any mixture.

## Main results

* `Queue.WellFormed.ends_of_attempt`: how a call that ends was decided.
* `Queue.Ends.producer_mirrors`, `Queue.Ends.consumer_mirrors`: what a handle makes of it.
* `Session.runAll_eq_callAll`: a program of calls through any objects that hold one queue.
* `Session.callAll_of_performAll`: the same program, made at the queue by a caller who is alone.
* `Session.handles_are_faithful`: all of it, at every queue that can be reached.
-/

namespace StableQueue

/-! ### What handles say -/

/-- The queue is closed, and no message is queued. -/
def Queue.IsDrained (queue : Queue) : Prop :=
  ∃ live, queue = .created live ∧ live.contents.closed = true ∧ live.contents.messages = []

/-- What a producer says of a call that has ended in this way. -/
structure Producer.Mirrors (outcome : Outcome) (report : Report) : Prop where
  /-- It succeeds exactly if the queue has accepted the message. -/
  ok_iff : report = .ok .nothing ↔ ∃ reply, outcome.result = .ok reply
  /-- A refusal is passed on with its sentence, as an error of a kind that says which one it is. -/
  refused (cause : Refusal) : outcome.result = .error (.refused cause) →
    ∃ error, report = .error (.handle error) ∧ error.message = cause.message ∧
      (error.kind = .wouldBlock ↔ cause = .full) ∧
      (error.kind = .invalidInput ↔ ∃ len max, cause = .oversized len max) ∧
      (error.kind = .brokenPipe ↔ cause = .closed) ∧
      (error.kind = .notConnected ↔ cause = .uninitialized)
  /-- It is aborted exactly if the call is. -/
  faulted_iff (fault : Fault) :
    report = .error (.faulted fault) ↔ outcome.result = .error (.faulted fault)

/-- What a consumer says of a call that has ended in this way at this queue. Of a message it passes
on what it is asked for. -/
structure Consumer.Mirrors (queue : Queue) (deadline : Deadline)
    (answer : Header → ByteArray → Answer) (outcome : Outcome) (report : Report) : Prop where
  /-- A message is passed on. -/
  received (reply : Reply) : outcome.result = .ok reply →
    ∃ header payload, reply = .message header payload ∧ report = .ok (answer header payload)
  /-- There is something to pass on exactly if the call has succeeded. -/
  ok_iff : (∃ answer, report = .ok answer ∧ answer ≠ .nothing) ↔ ∃ reply, outcome.result = .ok reply
  /-- There is nothing exactly if the queue was empty. -/
  nothing_iff : report = .ok .nothing ↔ outcome.result = .error (.refused .empty)
  /-- This is never said to who waits for ever. -/
  ne_nothing : deadline = .never → report ≠ .ok .nothing
  /-- An error has the sentence of the refusal it stands for, and is of one of two kinds. -/
  error (error : HandleError) : report = .error (.handle error) →
    (error.kind = .brokenPipe ∨ error.kind = .notConnected) ∧
      ∃ cause, outcome.result = .error (.refused cause) ∧ error.message = cause.message
  /-- The one kind says that the queue is closed and drained. -/
  brokenPipe_iff :
    (∃ error, report = .error (.handle error) ∧ error.kind = .brokenPipe) ↔ queue.IsDrained
  /-- The other kind says that it has not been created. -/
  notConnected_iff : (∃ error, report = .error (.handle error) ∧ error.kind = .notConnected) ↔
    queue = .uncreated
  /-- It is aborted exactly if the call is. -/
  faulted_iff (fault : Fault) :
    report = .error (.faulted fault) ↔ outcome.result = .error (.faulted fault)

/-- What a consumer reports, with the messages in some form. -/
def Consumer.report (form : Option (Header × ByteArray) → Report) (patience : Patience) :
    Except Failure Reply → Report
  | .ok reply => .ofHandle form (answer patience (.ok reply))
  | .error (.refused cause) => .ofHandle form (answer patience (.error cause))
  | .error (.faulted fault) => .error (.faulted fault)

/-- A consumer who passes on the payload. -/
theorem Consumer.report_receive (patience : Patience) (name : String) (outcome : Outcome) :
    (Task.receive patience).report (.consumer name) outcome =
      Consumer.report .ofPayload patience outcome.result := by
  obtain ⟨(cause | fault) | reply, buffer⟩ := outcome <;> rfl

/-- A consumer who passes on the header too. -/
theorem Consumer.report_receiveWithHeader (patience : Patience) (name : String)
    (outcome : Outcome) :
    (Task.receiveWithHeader patience).report (.consumer name) outcome =
      Consumer.report .ofMessage patience outcome.result := by
  obtain ⟨(cause | fault) | reply, buffer⟩ := outcome <;> rfl

/-- What handles say of the calls that end at a queue. -/
structure Queue.Mirrored (queue : Queue) : Prop where
  /-- A call of a producer ends with a pass, at whatever time and whoever else is at the queue. -/
  producer (monitor : Monitor) (visit : Visit) (made now : Nat) (name : String)
      (payload : ByteArray) (priority : Int) (patience : Patience) : monitor.queue = queue →
    visit.request = .send payload priority → visit.deadline = patience.deadline made →
      ∀ ending ∈ monitor.endings now visit, Producer.Mirrors ending.2
        ((Task.send payload priority patience).report (.producer name) ending.2)
  /-- So does a call of a consumer, who asks for the payload only or for the header too. -/
  consumer (monitor : Monitor) (visit : Visit) (made now : Nat) (name : String)
      (patience : Patience) : monitor.queue = queue → visit.request = .receive →
    visit.deadline = patience.deadline made →
      ∀ ending ∈ monitor.endings now visit,
        Consumer.Mirrors queue visit.deadline (fun _ payload => .bytes payload) ending.2
            ((Task.receive patience).report (.consumer name) ending.2) ∧
          Consumer.Mirrors queue visit.deadline .message ending.2
            ((Task.receiveWithHeader patience).report (.consumer name) ending.2)
  /-- All this holds of whole calls too, if the caller is alone. -/
  alone (now : Nat) (name : String) (payload : ByteArray) (priority : Int) (patience : Patience) :
    (∀ outcome log after,
      queue.perform now (.send payload priority) patience = some (outcome, log, after) →
        Producer.Mirrors outcome
          ((Task.send payload priority patience).report (.producer name) outcome)) ∧
    (∀ outcome log after, queue.perform now .receive patience = some (outcome, log, after) →
      Consumer.Mirrors queue (patience.deadline now) (fun _ payload => .bytes payload) outcome
          ((Task.receive patience).report (.consumer name) outcome) ∧
        Consumer.Mirrors queue (patience.deadline now) .message outcome
          ((Task.receiveWithHeader patience).report (.consumer name) outcome))

/-! ### How calls end -/

/-- How a call with this deadline, whose last pass has found the queue in this state, has ended. -/
inductive Queue.Ends (queue : Queue) (request : Request) (deadline : Deadline) : Outcome → Prop
  /-- The queue had an objection. Who waits for ever is only told of those that stay. -/
  | refused {cause : Refusal} (hobjects : queue.Objects request cause)
      (hwait : cause.isTransient = true → deadline ≠ .never) :
      Ends queue request deadline (.refused request cause)
  /-- The queue had none. -/
  | carriedOut {outcome : Outcome} (hnone : ∀ cause, ¬ queue.Objects request cause)
      (hresult : ∀ cause, outcome.result ≠ .error (.refused cause))
      (hreply : request = .receive → ∀ reply, outcome.result = .ok reply →
        ∃ header payload, reply = .message header payload) :
      Ends queue request deadline outcome

/-- A receiver without a buffer gets a message with its payload. -/
theorem Live.Turn.exists_message {live live' : Live} {mayWait : Bool} {outcome : Outcome}
    {owed : List Signal} {log : List Log.Event} {reply : Reply}
    (h : live.Turn mayWait .receive (.leave outcome owed log) live')
    (hreply : outcome.result = .ok reply) : ∃ header payload, reply = .message header payload := by
  cases h with
  | received _ _ _ _ => exact ⟨_, _, (Except.ok.inj hreply).symm⟩
  | receiveAborted _ _ _ _ => contradiction
  | drained _ _ _ => contradiction
  | receiveEmpty _ _ _ _ => contradiction

namespace Queue

variable {queue after : Queue} {request : Request} {deadline : Deadline} {outcome : Outcome}
  {owed : List Signal} {log : List Log.Event}

/-- **How a call ends with a pass.** A caller without a deadline may wait in all its passes. -/
theorem WellFormed.ends_of_attempt (h : queue.WellFormed) {mayWait : Bool}
    (hattempt : queue.attempt request mayWait = (.leave outcome owed log, after))
    (hnever : deadline = .never → mayWait = true) : queue.Ends request deadline outcome := by
  obtain ⟨cause, hobjects, hwait, hpass, -⟩ | ⟨_, _, _, _, _, hpass, -⟩ |
    ⟨hnone, _, _, _, hpass, hresult⟩ := h.attempt_cases hattempt
  · obtain ⟨rfl, -, -⟩ := Pass.leave.inj hpass
    refine .refused hobjects fun htransient hdeadline => ?_
    simp [hnever hdeadline] at hwait
    simp [hwait] at htransient
  · contradiction
  · obtain ⟨rfl, -, -⟩ := Pass.leave.inj hpass
    refine .carriedOut hnone hresult ?_
    rintro rfl reply hreply
    cases queue with
    | uncreated => exact absurd .uncreated (hnone .uninitialized)
    | created live =>
        have hturn := Live.attempt_turn (h live rfl) .receive mayWait
        have hleave : (live.attempt .receive mayWait).1 = .leave outcome owed log :=
          congrArg Prod.fst hattempt
        rw [hleave] at hturn
        exact hturn.exists_message hreply

/-- How a call ends for who passes through the lock. -/
theorem WellFormed.ends_of_mem_endings {monitor : Monitor} (h : monitor.queue.WellFormed)
    {visit : Visit} {now : Nat} {ending : Visit × Outcome}
    (hending : ending ∈ monitor.endings now visit) :
    monitor.queue.Ends visit.request visit.deadline ending.2 := by
  rw [Monitor.endings] at hending
  split at hending
  · contradiction
  · rename_i outcome owed log hpass
    obtain rfl := List.mem_singleton.mp hending
    have hattempt : monitor.queue.attempt visit.request (visit.deadline.allows now) =
        (.leave outcome owed log, _) := Prod.ext hpass rfl
    refine h.ends_of_attempt hattempt fun hnever => ?_
    rw [hnever, Deadline.allows]

/-- How a call ends for a caller who is alone. -/
theorem WellFormed.ends_of_perform (h : queue.WellFormed) {now : Nat} {patience : Patience}
    (hperform : queue.perform now request patience = some (outcome, log, after)) :
    queue.Ends request (patience.deadline now) outcome := by
  simp only [Queue.perform] at hperform
  split at hperform
  · rename_i hattempt
    cases hperform
    refine h.ends_of_attempt hattempt fun hnever => ?_
    rw [hnever, Deadline.allows]
  · rename_i parked hattempt
    obtain rfl : parked = queue := h.spotless.park _ _ _ _ hattempt
    split at hperform
    · rename_i hdeadline
      split at hperform
      · rename_i hagain
        cases hperform
        exact h.ends_of_attempt hagain fun hnever => absurd hnever (by simp [hdeadline])
      · contradiction
    · contradiction

/-! ### What handles make of it -/

/-- **What a producer says of a call that has ended.** -/
theorem Ends.producer_mirrors {payload : ByteArray} {priority : Int}
    (h : queue.Ends (.send payload priority) deadline outcome) (patience : Patience)
    (name : String) : Producer.Mirrors outcome
      ((Task.send payload priority patience).report (.producer name) outcome) := by
  cases h with
  | refused hobjects hwait =>
      refine ⟨by simp [Task.report, Outcome.refused, Report.ofHandle, Producer.answer], ?_,
        by simp [Task.report, Outcome.refused, Report.ofHandle, Producer.answer]⟩
      rintro _ ⟨⟩
      refine ⟨_, rfl, rfl, ?_⟩
      cases hobjects with
      | drained hrequest _ _ => simp [Request.awaits] at hrequest
      | empty hrequest _ _ => simp [Request.awaits] at hrequest
      | _ => simp [Refusal.toHandleError, Refusal.kind]
  | carriedOut _ hresult _ =>
      obtain ⟨(cause | fault) | reply, buffer⟩ := outcome
      · exact absurd rfl (hresult cause)
      · exact ⟨by simp [Task.report], by simp, by simp [Task.report]⟩
      · exact ⟨by simp [Task.report, Report.ofHandle, Producer.answer], by simp,
          by simp [Task.report, Report.ofHandle, Producer.answer]⟩

/-- A queue objects to a receiver as closed exactly if it is drained. -/
theorem objects_closed_iff : queue.Objects .receive .closed ↔ queue.IsDrained := by
  constructor
  · rintro (_ | _ | _ | _ | _ | ⟨-, hempty, hclosed⟩ | _)
    exact ⟨_, rfl, hclosed, hempty⟩
  · rintro ⟨live, rfl, hclosed, hempty⟩
    exact .drained rfl hempty hclosed

/-- A queue objects as uninitialized exactly if it has not been created. -/
theorem objects_uninitialized_iff : queue.Objects request .uninitialized ↔ queue = uncreated := by
  constructor
  · rintro ⟨⟩
    rfl
  · rintro rfl
    exact .uncreated

/-- There are three objections to a receiver without a buffer. -/
theorem Objects.cause_of_receive {cause : Refusal} (h : queue.Objects .receive cause) :
    cause = .uninitialized ∨ cause = .closed ∨ cause = .empty := by
  cases h <;> simp

/-- **What a consumer says of a call that has ended**, in whatever form it passes messages on. -/
theorem Ends.consumer_mirrors (hformed : queue.WellFormed) {patience : Patience} {made : Nat}
    (h : queue.Ends .receive (patience.deadline made) outcome)
    {form : Option (Header × ByteArray) → Report} {answer : Header → ByteArray → Answer}
    (hnothing : form none = .ok .nothing)
    (hmessage : ∀ header payload, form (some (header, payload)) = .ok (answer header payload))
    (hanswer : ∀ header payload, answer header payload ≠ .nothing) :
    Consumer.Mirrors queue (patience.deadline made) answer outcome
      (Consumer.report form patience outcome.result) := by
  cases h with
  | @refused cause hobjects hwait =>
      -- The queue has no other objection, so its state can be told from the cause.
      have hdrained : queue.IsDrained ↔ cause = .closed := by
        rw [← objects_closed_iff]
        exact ⟨fun hother => (hobjects.unique hformed hother).symm, fun heq => heq ▸ hobjects⟩
      have huncreated : queue = uncreated ↔ cause = .uninitialized := by
        rw [← objects_uninitialized_iff]
        exact ⟨fun hother => (hobjects.unique hformed hother).symm, fun heq => heq ▸ hobjects⟩
      obtain rfl | rfl | rfl := hobjects.cause_of_receive
      · constructor <;> simp [Consumer.report, Consumer.answer, Report.ofHandle, Outcome.refused,
          Refusal.toHandleError, Refusal.kind, hdrained, huncreated]
      · constructor <;> simp [Consumer.report, Consumer.answer, Report.ofHandle, Outcome.refused,
          Refusal.toHandleError, Refusal.kind, hdrained, huncreated]
      · -- Who waits for ever is not told that the queue is empty.
        have hdeadline := hwait rfl
        have hlimited : patience ≠ .unlimited := by
          rintro rfl
          exact hdeadline rfl
        constructor <;> simp [Consumer.report, Consumer.answer, Report.ofHandle, Outcome.refused,
          hlimited, hnothing, hdeadline, hdrained, huncreated]
  | carriedOut hnone hresult hreply =>
      have hdrained : ¬ queue.IsDrained := fun h => hnone _ (objects_closed_iff.mpr h)
      have huncreated : queue ≠ uncreated := fun h => hnone _ (objects_uninitialized_iff.mpr h)
      obtain ⟨(cause | fault) | reply, buffer⟩ := outcome
      · exact absurd rfl (hresult cause)
      · constructor <;> simp [Consumer.report, hdrained, huncreated]
      · obtain ⟨header, payload, rfl⟩ := hreply rfl reply rfl
        constructor <;> simp [Consumer.report, Consumer.answer, Consumer.message?, Report.ofHandle,
          hmessage, hanswer, hdrained, huncreated]

/-- What a consumer says of a call that has ended, in both forms. -/
theorem Ends.consumer_report_mirrors (hformed : queue.WellFormed) {patience : Patience} {made : Nat}
    (h : queue.Ends .receive (patience.deadline made) outcome) (name : String) :
    Consumer.Mirrors queue (patience.deadline made) (fun _ payload => .bytes payload) outcome
        ((Task.receive patience).report (.consumer name) outcome) ∧
      Consumer.Mirrors queue (patience.deadline made) .message outcome
        ((Task.receiveWithHeader patience).report (.consumer name) outcome) := by
  rw [Consumer.report_receive, Consumer.report_receiveWithHeader]
  exact ⟨h.consumer_mirrors hformed rfl (fun _ _ => rfl) (by simp),
    h.consumer_mirrors hformed rfl (fun _ _ => rfl) (by simp)⟩

/-- **Handles mirror every queue with consistent contents.** -/
theorem WellFormed.mirrored (h : queue.WellFormed) : queue.Mirrored where
  producer monitor visit made now name payload priority patience hqueue hrequest hdeadline ending
      hending := by
    subst hqueue
    have hends := h.ends_of_mem_endings hending
    rw [hrequest] at hends
    exact hends.producer_mirrors patience name
  consumer monitor visit made now name patience hqueue hrequest hdeadline ending hending := by
    subst hqueue
    have hends := h.ends_of_mem_endings hending
    rw [hrequest, hdeadline] at hends
    rw [hdeadline]
    exact hends.consumer_report_mirrors h name
  alone now name payload priority patience :=
    ⟨fun _ _ _ hperform => (h.ends_of_perform hperform).producer_mirrors patience name,
      fun _ _ _ hperform => (h.ends_of_perform hperform).consumer_report_mirrors h name⟩

end Queue

/-! ### Programs -/

/-- What is said of a call through an object, whether it has ended or never does. -/
def Task.told (task : Task) (target : Target) : Option Outcome → Report
  | none => .error .neverReturns
  | some outcome => task.report target outcome

namespace Session

/-- Calls made one after the other, each through the object that is named with it: what is said of
them, and the session after them. -/
def runAll (session : Session) : List (Target × Task) → List Report × Session
  | [] => ([], session)
  | (target, task) :: calls =>
    let (report, session) := session.run target (.task task)
    let (reports, session) := session.runAll calls
    (report :: reports, session)

/-- Calls made one after the other at the queue with this key: how they end, and the session after
them. -/
def callAll (session : Session) (key : Nat) : List Task → List (Option Outcome) × Session
  | [] => ([], session)
  | task :: tasks =>
    let (outcome?, session) := session.call key task.request task.patience
    let (outcomes, session) := session.callAll key tasks
    (outcome? :: outcomes, session)

variable {session : Session} {key : Nat} {present : Monitor}

/-! ### Names -/

/-- Whoever lets go of a queue, the names stand for what they did. -/
@[simp] theorem key?_release (session : Session) (key : Nat) (target : Target) :
    (session.release key).key? target = session.key? target := by
  rw [Session.release]
  split
  · rfl
  · split
    · rfl
    · cases target <;> rfl

/-- Whatever changes at a queue, the names stand for what they did. -/
@[simp] theorem key?_changeMonitor (session : Session) (key : Nat) (change : Monitor → Monitor)
    (target : Target) : (session.changeMonitor key change).key? target = session.key? target := by
  cases target <;> rfl

/-- Threads that come back do not touch the names. -/
@[simp] theorem key?_collect (session : Session) (key : Nat) (target : Target) :
    (session.collect key).key? target = session.key? target := by
  rw [Session.collect]
  split
  · rfl
  · rw [key?_release]
    cases target <;> rfl

/-- Whatever happens at a queue, the names stand for what they did. -/
@[simp] theorem key?_happen (session : Session) (key : Nat) (event : Monitor → Monitor)
    (target : Target) : (session.happen key event).key? target = session.key? target := by
  rw [Session.happen, key?_collect, key?_changeMonitor]

/-- Time that passes does not touch the names. -/
theorem key?_waitFor (finished : Session → Bool) (fuel : Nat) (session : Session)
    (target : Target) : (waitFor finished fuel session).key? target = session.key? target := by
  induction fuel generalizing session with
  | zero => rfl
  | succ fuel ih =>
      rw [waitFor]
      split
      · rfl
      · split
        · rfl
        · rename_i later hpass
          rw [ih]
          simp only [passTime?] at hpass
          split at hpass
          · contradiction
          · obtain ⟨-, rfl⟩ := by simpa using hpass
            rw [key?_happen]
            cases target <;> rfl

/-- **A call does not touch the names.** -/
theorem key?_call (session : Session) (key : Nat) (request : Request) (patience : Patience)
    (target : Target) :
    (session.call key request patience).2.key? target = session.key? target := by
  rw [call]
  split
  · rw [key?_changeMonitor, key?_waitFor, key?_happen]
  · split
    · rfl
    · split
      · rfl
      · cases target <;> rfl

/-- **A call through an object is the call itself**, and what is said of it is read off its
outcome. -/
theorem run_eq_call {target : Target} (hkey : session.key? target = some key) (task : Task) :
    session.run target (.task task) =
      (task.told target (session.call key task.request task.patience).1,
        (session.call key task.request task.patience).2) := by
  simp only [run, withKey, hkey]
  generalize session.call key task.request task.patience = called
  obtain ⟨_ | outcome, after⟩ := called <;> rfl

/-- **A program of calls is the same through all objects that hold one queue**, and through any
mixture of them. -/
theorem runAll_eq_callAll {calls : List (Target × Task)}
    (hkeys : ∀ call ∈ calls, session.key? call.1 = some key) :
    session.runAll calls =
      (List.zipWith (fun call outcome? => call.2.told call.1 outcome?) calls
        (session.callAll key (calls.map Prod.snd)).1,
      (session.callAll key (calls.map Prod.snd)).2) := by
  induction calls generalizing session with
  | nil => rfl
  | cons call calls ih =>
      obtain ⟨target, task⟩ := call
      rw [List.forall_mem_cons] at hkeys
      have hlater : ∀ call ∈ calls,
          (session.call key task.request task.patience).2.key? call.1 = some key := by
        intro call hcall
        rw [key?_call]
        exact hkeys.2 call hcall
      simp only [runAll, List.map_cons, callAll, run_eq_call hkeys.1, ih hlater,
        List.zipWith_cons_cons]

/-- **A program made at the queue by a caller who is alone.** If all its calls return, they end as
the calls of one who has nothing but the queue. -/
theorem callAll_of_performAll (hidle : session.isBusy = false)
    (hpresent : session.monitor? key = some present) {tasks : List Task}
    {history : List Finished} {final : Queue}
    (hperform : present.queue.performAll
      (tasks.map fun task => ⟨session.now, task.request, task.patience⟩) = some (history, final)) :
    (session.callAll key tasks).1 = history.map (fun finished => some finished.outcome) ∧
      (session.callAll key tasks).2.monitor? key = some { present with queue := final } := by
  induction tasks generalizing session present history with
  | nil =>
      cases hperform
      exact ⟨rfl, hpresent⟩
  | cons task tasks ih =>
      rw [List.map_cons, Queue.performAll_cons] at hperform
      obtain ⟨⟨outcome, log, queue⟩, hfirst, hrest⟩ := Option.bind_eq_some_iff.mp hperform
      obtain ⟨⟨later, final'⟩, hlater, heq⟩ := Option.map_eq_some_iff.mp hrest
      obtain ⟨rfl, rfl⟩ := Prod.mk.inj heq
      have hcall := call_of_perform hidle hpresent hfirst
      have hafter : ((session.changeMonitor key fun monitor => { monitor with queue }).emitAll
          log).monitor? key = some { present with queue } := by
        rw [monitor?_emitAll, monitor?_changeMonitor, if_pos rfl, hpresent, Option.map_some]
      obtain ⟨houtcomes, hfinal⟩ := ih (by exact hidle) hafter hlater
      simp only [callAll, hcall, houtcomes, hfinal, List.map_cons, and_self]

/-! ### Clones -/

/-- A queue that is held stays when another one is let go. -/
theorem monitor?_release? (hheld : session.isHeld key = true) (key? : Option Nat) :
    (session.release? key?).monitor? key = session.monitor? key := by
  cases key? with
  | none => rfl
  | some k =>
      rw [Session.release?, Session.release]
      split
      · rfl
      · rename_i hnot
        have hne : key ≠ k := by
          rintro rfl
          exact hnot hheld
        split
        · rfl
        · exact (lookup_filter_ne session.queues).trans (if_neg hne)

/-- Names stand for what they did whatever queue is let go. -/
theorem key?_release? (session : Session) (key? : Option Nat) (target : Target) :
    (session.release? key?).key? target = session.key? target := by
  cases key? with
  | none => rfl
  | some key => exact key?_release ..

/-- A name that is added or changed leaves the others as they are. -/
theorem lookup_assign (names : Names) (name other : String) (key : Nat) :
    (names.assign name key).lookup other =
      if other = name then some key else names.lookup other := by
  rw [Names.assign, lookup_cons_eq, Names.without, lookup_filter_ne]
  split <;> simp [*]

/-- **A clone holds the same queue**, and all other objects hold what they did. -/
theorem key?_hold (session : Session) (target other : Target) (key : Nat) :
    (session.hold target key).key? other =
      if other = target then some key else session.key? other := by
  cases target <;> rw [hold, key?_release?] <;> cases other <;>
    simp [key?, lookup_assign]

/-- Cloning leaves the queue as it is. -/
theorem monitor?_hold (session : Session) (target : Target) (key : Nat) :
    (session.hold target key).monitor? key = session.monitor? key := by
  have hheld := isHeld_hold session target key
  cases target <;> rw [hold, isHeld_release?] at hheld <;> exact monitor?_release? hheld _

/-! ### Faithful handles -/

/-- What objects do that hold the queue with this key. -/
structure Faithful (session : Session) (key : Nat) (present : Monitor) : Prop where
  /-- A call through an object leaves the session as the call itself does, whoever else is at the
  queue. What is said of it is read off its outcome. -/
  run (target : Target) (task : Task) : session.key? target = some key →
    session.step (.run target (.task task)) =
      (.single (task.told target (session.call key task.request task.patience).1),
        (session.call key task.request task.patience).2)
  /-- A clone of an object is one more that holds the queue, and the queue stays as it is. -/
  share (target clone : Target) : session.key? target = some key →
    (∀ other, other = clone ∨ session.key? other = some key →
      (session.step (.share target clone)).2.key? other = some key) ∧
    (session.step (.share target clone)).2.monitor? key = some present
  /-- A program of calls, made through any of these objects and any mixture of them, leaves the
  session as the same calls do when they are made at the queue, and what is said of each is read off
  how that one ends. -/
  program (calls : List (Target × Task)) : (∀ call ∈ calls, session.key? call.1 = some key) →
    session.runAll calls =
      (List.zipWith (fun call outcome? => call.2.told call.1 outcome?) calls
        (session.callAll key (calls.map Prod.snd)).1,
      (session.callAll key (calls.map Prod.snd)).2)
  /-- If no thread is at a queue, and all these calls return, they end like those of a caller who is
  alone with the queue, and leave the same queue behind. -/
  alone (tasks : List Task) (history : List Finished) (final : Queue) : session.isBusy = false →
    present.queue.performAll
        (tasks.map fun task => ⟨session.now, task.request, task.patience⟩) =
      some (history, final) →
    (session.callAll key tasks).1 = history.map (fun finished => some finished.outcome) ∧
      (session.callAll key tasks).2.monitor? key = some { present with queue := final }

/-- **Handles are faithful.** At every queue that can be reached, what a producer or a consumer says
mirrors how the call has ended, and what is done through an object is what is done at the queue that
it holds. -/
theorem handles_are_faithful {history : List Finished}
    (hpresent : session.monitor? key = some present) (hqueue : present.queue.Reached history) :
    present.queue.Mirrored ∧ session.Faithful key present where
  left := hqueue.wellFormed.mirrored
  right := {
    run target task hkey := by
      rw [step, run_eq_call hkey]
      rfl
    share target clone hkey := by
      simp only [step, withKey, hkey, single]
      refine ⟨fun other hother => ?_, (monitor?_hold session clone key).trans hpresent⟩
      rw [key?_hold]
      split
      · rfl
      · rename_i hne
        exact hother.resolve_left hne
    program calls hkeys := runAll_eq_callAll hkeys
    alone tasks history final hidle hperform := callAll_of_performAll hidle hpresent hperform }

/-- A session with a producer and a consumer. Their queue is the sample. -/
def sampleHandles : Session where
  queues := [(0, { queue := .created .sample })]
  nextKey := 1
  producers := [("p", 0)]
  consumers := [("c", 0)]

/-- A program for the two handles, the last call of which finds nothing. -/
def sampleProgram : List (Target × Task) :=
  [(.producer "p", .send ⟨#[7]⟩ 3 .unlimited), (.consumer "c", .receiveWithHeader .unlimited),
    (.consumer "c", .receive .impatient)]

/-- The handles of the sample are faithful. The program is carried out, and the queue is the one
that the calls leave behind when they are made without handles. -/
theorem handles_are_faithful_sampleHandles :
    (Queue.created .sample).Mirrored ∧
      (sampleHandles.runAll sampleProgram).2 =
        (sampleHandles.callAll 0 (sampleProgram.map Prod.snd)).2 ∧
      (sampleHandles.runAll sampleProgram).1 =
        [.ok .nothing, .ok (.message ⟨3, 0, 1⟩ ⟨#[7]⟩), .ok .nothing] := by
  have hreached : (Queue.created .sample).Reached [] := .created Queue.create_sample .refl
  have hpresent : sampleHandles.monitor? 0 = some { queue := .created .sample } := rfl
  obtain ⟨hmirrored, hfaithful⟩ := handles_are_faithful hpresent hreached
  have hkeys : ∀ call ∈ sampleProgram, sampleHandles.key? call.1 = some 0 := by decide +kernel
  refine ⟨hmirrored, ?_, by decide +kernel⟩
  rw [hfaithful.program sampleProgram hkeys]

end Session

end StableQueue
