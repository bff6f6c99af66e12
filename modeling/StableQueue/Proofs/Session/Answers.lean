import StableQueue.Proofs.Monitor.Callers
import StableQueue.Proofs.Session.Holding

/-!
# Where the Outcome of a Call Comes From

A call of the caller of a session goes two ways. If no thread is at any queue, it is performed at
once. Otherwise the caller comes to the queue like any other, and waits until an outcome with its
token is there; meanwhile time passes, threads come back and queues go. Either way the outcome is
the end of a pass of that very request through the lock of that very queue.

## Main results

* `Monitor.Awaits.settle`: taking turns, the caller gets no outcome but that of its own request.
* `Session.passes_of_call`: if no thread is at a queue, a call that returns is one pass.
* `Session.ends_of_call`: otherwise it has ended with a pass, between those of other callers.
-/

namespace StableQueue

namespace Live

/-- A pass of this request through the lock of a queue ends the call with this outcome, and leaves
the queue in the state `live'`. -/
def Passes (live : Live) (request : Request) (outcome : Outcome) (live' : Live) : Prop :=
  ∃ (mayWait : Bool) (owed : List Signal) (log : List Log.Event),
    live.Turn mayWait request (.leave outcome owed log) live'

/-- Passes of any number of callers lead from one state of a queue to another. -/
def Reaches : Live → Live → Prop :=
  Relation.ReflTransGen fun live live' => ∃ request outcome, live.Passes request outcome live'

variable {start live : Live}

/-- A queue keeps its number and its configuration. -/
theorem Reaches.config_eq (h : start.Reaches live) :
    live.id = start.id ∧ live.config = start.config := by
  induction h with
  | refl => exact ⟨rfl, rfl⟩
  | tail _ hpass ih =>
      obtain ⟨_, _, _, _, _, hturn⟩ := hpass
      exact ⟨hturn.config_eq.1.trans ih.1, hturn.config_eq.2.trans ih.2⟩

/-- Passes keep the contents consistent. -/
theorem Reaches.consistent (h : start.Reaches live)
    (hstart : start.contents.Consistent start.config) : live.contents.Consistent live.config := by
  induction h with
  | refl => exact hstart
  | tail _ hpass ih =>
      obtain ⟨_, _, _, _, _, hturn⟩ := hpass
      exact hturn.consistent ih

/-- On the way of a queue from the state `start` to the state `finish`, a pass of a request has
ended the call with this outcome. -/
def Ends (start : Live) (request : Request) (outcome : Outcome) (finish : Live) : Prop :=
  ∃ live live' : Live,
    start.Reaches live ∧ live.Passes request outcome live' ∧ live'.Reaches finish

end Live

/-! ### At one queue -/

namespace Monitor

/-- The caller of the session has no call at the queue, and none that has not been collected. -/
structure Unattended (monitor : Monitor) : Prop where
  /-- Whoever is at the queue is somebody else. -/
  ne_of_mem_calls (visit : Visit) : visit ∈ monitor.calls → visit.token ≠ Session.ownToken
  /-- Whoever has come back is somebody else. -/
  ne_of_mem_returned (entry : Nat × Outcome) :
    entry ∈ monitor.returned → entry.1 ≠ Session.ownToken

/-- If the caller of the session has a call at the queue, it is this request, and if the call is
over, it has ended with a pass of this request. -/
structure Awaits (monitor : Monitor) (start : Live) (request : Request) : Prop where
  /-- The queue was once in the state `start`. -/
  exists_live : ∃ live, monitor.queue = .created live ∧ start.Reaches live
  /-- The contents of the queue were consistent then. -/
  consistent : start.contents.Consistent start.config
  /-- The caller asks for this and nothing else. -/
  request_eq (visit : Visit) :
    visit ∈ monitor.calls → visit.token = Session.ownToken → visit.request = request
  /-- The caller gets what this request has led to. -/
  ends (outcome : Outcome) : (Session.ownToken, outcome) ∈ monitor.returned →
    ∃ live, monitor.queue = .created live ∧ start.Ends request outcome live

variable {monitor after : Monitor} {start : Live} {request : Request}

/-- Who has no call at a queue may make any. -/
theorem Unattended.awaits (h : monitor.Unattended) (hqueue : monitor.queue = .created start)
    (hstart : start.contents.Consistent start.config) (request : Request) :
    monitor.Awaits start request where
  exists_live := ⟨start, hqueue, .refl⟩
  consistent := hstart
  request_eq visit hvisit htoken := absurd htoken (h.ne_of_mem_calls visit hvisit)
  ends _ houtcome := absurd rfl (h.ne_of_mem_returned _ houtcome)

/-- Moving callers about does not matter. -/
theorem Awaits.of_calls_perm (h : monitor.Awaits start request)
    (hqueue : after.queue = monitor.queue) (hcalls : after.calls.Perm monitor.calls)
    (hreturned : after.returned = monitor.returned) : after.Awaits start request where
  exists_live := hqueue ▸ h.exists_live
  consistent := h.consistent
  request_eq visit hvisit := h.request_eq visit (hcalls.mem_iff.mp hvisit)
  ends outcome houtcome := hqueue ▸ h.ends outcome (hreturned ▸ houtcome)

/-- The call is made. -/
theorem Awaits.arrive (h : monitor.Awaits start request) {visit : Visit}
    (hnew : visit.wokenFrom = none) (hrequest : visit.request = request) :
    (monitor.arrive visit).Awaits start request where
  exists_live := h.exists_live
  consistent := h.consistent
  request_eq other hother htoken := by
    rcases List.mem_cons.mp ((calls_arrive hnew).mem_iff.mp hother) with rfl | hother
    · exact hrequest
    · exact h.request_eq other hother htoken
  ends := h.ends

/-- A caller who is woken makes the same call. -/
theorem Awaits.wakeFirst (h : monitor.Awaits start request) (test : Visit × Condition → Bool) :
    (monitor.wakeFirst test).Awaits start request := by
  rw [Monitor.wakeFirst]
  split
  · exact h
  · rename_i hfound
    exact h.of_calls_perm rfl (calls_wake_perm [_] (takeFirst_eq_some hfound).1) rfl

/-- Wake-ups do not matter. -/
theorem Awaits.deliver (h : monitor.Awaits start request) (signal : Signal) :
    (monitor.deliver signal).Awaits start request := by
  cases signal with
  | one condition => exact h.wakeFirst _
  | all condition =>
      have hsplit := List.filter_append_perm (fun caller : Visit × Condition =>
        decide (caller.2 = condition)) monitor.parked
      exact h.of_calls_perm rfl (calls_wake_perm _ hsplit.symm) rfl

/-- Whoever passes through the lock: if it is the caller of the session and its call is over, then
this pass has ended it. -/
theorem Awaits.enter {visit : Visit} {active : List Visit} (h : monitor.Awaits start request)
    (hactive : monitor.active = visit :: active) (now : Nat) :
    (({ monitor with active } : Monitor).enter now visit).Awaits start request := by
  obtain ⟨live, hqueue, hreaches⟩ := h.exists_live
  have hlive := hreaches.consistent h.consistent
  have hcalls : monitor.calls = visit.fresh :: ({ monitor with active } : Monitor).calls := by
    simp [calls, hactive]
  have hqueue' : ({ monitor with active } : Monitor).queue = .created live := hqueue
  obtain ⟨condition, -, -, hafter⟩ | ⟨outcome, owed, log, live', hturn, -, hafter⟩ :=
    enter_cases hqueue' hlive now visit
  · rw [hafter]
    refine h.of_calls_perm rfl ?_ rfl
    rw [hcalls]
    simp only [calls, List.map_append, List.map_cons, List.map_nil, ← List.append_assoc]
    exact List.perm_append_singleton _ _
  · rw [hafter]
    have hpass : live.Passes visit.request outcome live' := ⟨_, owed, log, hturn⟩
    refine ⟨⟨live', rfl, hreaches.tail ⟨_, _, hpass⟩⟩, h.consistent, ?_, ?_⟩
    · intro other hother
      exact h.request_eq other (hcalls ▸ List.mem_cons_of_mem _ hother)
    · intro other hother
      rcases List.mem_append.mp hother with hother | hother
      · obtain ⟨_, hsame, met, left, hmet, hends, hleft⟩ := h.ends other hother
        obtain rfl := Queue.created.inj (hqueue.symm.trans hsame)
        exact ⟨live', rfl, met, left, hmet, hends, hleft.tail ⟨_, _, hpass⟩⟩
      · -- The call that has just ended is that of the caller of the session.
        obtain ⟨htoken, rfl⟩ := Prod.mk.inj (List.mem_singleton.mp hother)
        have hrequest : visit.request = request :=
          h.request_eq visit.fresh (hcalls ▸ List.mem_cons_self) htoken.symm
        exact ⟨live', rfl, live, live', hreaches, hrequest ▸ hpass, .refl⟩

/-- **Taking turns, the caller gets no outcome but that of its own request.** -/
theorem Awaits.settle (h : monitor.Awaits start request) (now : Nat) :
    (monitor.settle now).Awaits start request := by
  induction monitor using Monitor.settle.induct now with
  | case1 monitor signal owed howed ih =>
      have hawaits : ({ monitor with owed } : Monitor).Awaits start request :=
        h.of_calls_perm rfl (.refl _) rfl
      rw [settle_of_owed now howed]
      exact ih (hawaits.deliver signal)
  | case2 monitor howed visit active hactive ih =>
      rw [settle_of_active now howed hactive]
      exact ih (h.enter hactive now)
  | case3 monitor howed hactive =>
      rw [settle_of_nil now howed hactive]
      exact h

end Monitor

/-! ### In a session -/

namespace Session

variable {session : Session} {start : Live} {request : Request} {key : Nat}

/-- If the queue with a key is still there, its callers are as described. -/
def Awaits (session : Session) (key : Nat) (start : Live) (request : Request) : Prop :=
  ∀ monitor, session.monitor? key = some monitor → monitor.Awaits start request

/-- Changes of queues that keep the description of their callers. -/
theorem Awaits.changeMonitor (h : session.Awaits key start request) (k : Nat)
    {change : Monitor → Monitor}
    (hchange : ∀ monitor : Monitor, monitor.Awaits start request →
      (change monitor).Awaits start request) :
    (session.changeMonitor k change).Awaits key start request := by
  intro monitor hmonitor
  rw [monitor?_changeMonitor] at hmonitor
  split at hmonitor
  · obtain ⟨earlier, hearlier, rfl⟩ := Option.map_eq_some_iff.mp hmonitor
    exact hchange earlier (h earlier hearlier)
  · exact h monitor hmonitor

/-- Records do not matter. -/
theorem Awaits.emitAll (h : session.Awaits key start request) (events : List Log.Event) :
    (session.emitAll events).Awaits key start request :=
  h

/-- Letting go of a queue makes no queue come. -/
theorem Awaits.release (h : session.Awaits key start request) (k : Nat) :
    (session.release k).Awaits key start request := by
  rw [Session.release]
  split
  · exact h
  · split
    · exact h
    · intro monitor hmonitor
      rw [monitor?, lookup_filter_ne] at hmonitor
      split at hmonitor
      · contradiction
      · exact h monitor hmonitor

/-- Collecting leaves the outcome of the caller where it is. -/
theorem Awaits.collect (h : session.Awaits key start request) (k : Nat) :
    (session.collect k).Awaits key start request := by
  rw [Session.collect]
  split
  · exact h
  · dsimp only
    refine Awaits.release (Awaits.emitAll (Awaits.changeMonitor ?_ k ?_) _) k
    · exact h
    · intro monitor hawaits
      refine ⟨hawaits.exists_live, hawaits.consistent, hawaits.request_eq,
        fun outcome houtcome => ?_⟩
      exact hawaits.ends outcome (List.mem_of_mem_filter houtcome)

/-- Whatever happens at any queue, the caller gets no outcome but that of its own request. -/
theorem Awaits.happen (h : session.Awaits key start request) (k : Nat) {event : Monitor → Monitor}
    (hevent : ∀ monitor : Monitor, monitor.Awaits start request →
      (event monitor).Awaits start request) :
    (session.happen k event).Awaits key start request :=
  (h.changeMonitor k fun monitor hmonitor => (hevent monitor hmonitor).settle _).collect k

/-- While the caller waits, it gets no outcome but that of its own request. -/
theorem Awaits.waitFor (h : session.Awaits key start request) (finished : Session → Bool)
    (fuel : Nat) : (Session.waitFor finished fuel session).Awaits key start request := by
  induction fuel generalizing session with
  | zero => exact h
  | succ fuel ih =>
      rw [Session.waitFor]
      split
      · exact h
      · split
        · exact h
        · rename_i hpass
          refine ih ?_
          rw [passTime?] at hpass
          split at hpass
          · contradiction
          · rename_i time k token _
            split at hpass
            · contradiction
            · cases hpass
              have hlater : { session with now := max session.now time }.Awaits key start request :=
                h
              exact hlater.happen k fun monitor hmonitor => hmonitor.wakeFirst _

/-! ### The two ways -/

variable {present : Monitor} {patience : Patience} {outcome : Outcome}

/-- Records do not touch the queues. -/
theorem monitor?_emitAll (session : Session) (events : List Log.Event) (key : Nat) :
    (session.emitAll events).monitor? key = session.monitor? key := rfl

/-- If no thread is at a queue, a call that returns is performed at once. -/
theorem call_of_perform (hidle : session.isBusy = false)
    (hpresent : session.monitor? key = some present) {log : List Log.Event} {queue : Queue}
    (hperform : present.queue.perform session.now request patience = some (outcome, log, queue)) :
    session.call key request patience = (some outcome,
      (session.changeMonitor key fun monitor => { monitor with queue }).emitAll log) := by
  rw [call, hidle, hpresent]
  simp only [Bool.false_eq_true, ↓reduceIte, hperform]

/-- If no thread is at a queue, a call that cannot be performed never returns. -/
theorem call_of_perform_eq_none (hidle : session.isBusy = false)
    (hpresent : session.monitor? key = some present)
    (hperform : present.queue.perform session.now request patience = none) :
    session.call key request patience = (none, session) := by
  rw [call, hidle, hpresent]
  simp only [Bool.false_eq_true, ↓reduceIte, hperform]

/-- If no thread is at a queue, a call that returns has been performed. -/
theorem exists_perform_of_call (hidle : session.isBusy = false)
    (hpresent : session.monitor? key = some present)
    (hcall : (session.call key request patience).1 = some outcome) :
    ∃ log queue,
      present.queue.perform session.now request patience = some (outcome, log, queue) := by
  cases hperform : present.queue.perform session.now request patience with
  | none =>
      rw [call_of_perform_eq_none hidle hpresent hperform] at hcall
      contradiction
  | some performed =>
      obtain ⟨outcome', log, queue⟩ := performed
      rw [call_of_perform hidle hpresent hperform] at hcall
      obtain rfl := Option.some.inj hcall
      exact ⟨log, queue, rfl⟩

/-- If no thread is at a queue, the outcome of a call is the end of its only pass. -/
theorem passes_of_call (hidle : session.isBusy = false)
    (hpresent : session.monitor? key = some present) (hqueue : present.queue = .created start)
    (hstart : start.contents.Consistent start.config)
    (hcall : (session.call key request patience).1 = some outcome) :
    ∃ finish, (session.call key request patience).2.monitor? key =
      some { present with queue := .created finish } ∧ start.Passes request outcome finish := by
  obtain ⟨log, queue, hperform⟩ := exists_perform_of_call hidle hpresent hcall
  rw [call_of_perform hidle hpresent hperform]
  rw [hqueue] at hperform
  obtain ⟨mayWait, owed, finish, rfl, hturn⟩ := Queue.exists_turn_of_perform hstart hperform
  refine ⟨finish, ?_, mayWait, owed, log, hturn⟩
  rw [monitor?_emitAll, monitor?_changeMonitor, if_pos rfl, hpresent]
  rfl

/-- **The outcome of a call is the end of one of its passes**, between the state of the queue before
the call and that after it. -/
theorem ends_of_call (hpresent : session.monitor? key = some present)
    (hqueue : present.queue = .created start) (hstart : start.contents.Consistent start.config)
    (hfree : session.isBusy = true → present.Unattended)
    (hcall : (session.call key request patience).1 = some outcome) :
    ∃ monitor finish, (session.call key request patience).2.monitor? key = some monitor ∧
      monitor.queue = .created finish ∧ start.Ends request outcome finish := by
  cases hbusy : session.isBusy with
  | false =>
      obtain ⟨finish, hafter, hpass⟩ := passes_of_call hbusy hpresent hqueue hstart hcall
      exact ⟨_, finish, hafter, rfl, start, finish, .refl, hpass, .refl⟩
  | true =>
      rw [call, if_pos hbusy] at hcall ⊢
      dsimp only at hcall ⊢
      have hbefore : session.Awaits key start request := by
        intro monitor hmonitor
        obtain rfl := Option.some.inj (hpresent.symm.trans hmonitor)
        exact (hfree hbusy).awaits hqueue hstart request
      let visit : Visit :=
        { token := ownToken, request, deadline := patience.deadline session.now }
      have harrived : (session.happen key (·.arrive visit)).Awaits key start request :=
        hbefore.happen key fun monitor hmonitor => hmonitor.arrive rfl rfl
      rw [ownOutcome?, Option.bind_eq_bind, Option.bind_eq_some_iff] at hcall
      obtain ⟨monitor, hmonitor, hlookup⟩ := hcall
      obtain ⟨before, after, hreturned, -⟩ := List.lookup_eq_some_iff.mp hlookup
      have hawaits := harrived.waitFor _ _ monitor hmonitor
      obtain ⟨finish, hfinish, hends⟩ :=
        hawaits.ends outcome (hreturned ▸ List.mem_append_cons_self)
      refine ⟨{ monitor with returned := [] }, finish, ?_, hfinish, hends⟩
      rw [monitor?_changeMonitor, if_pos rfl, hmonitor]
      rfl

end Session

end StableQueue
