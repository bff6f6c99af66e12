import StableQueue.Proofs.Monitor.Linearization

/-!
# No Wake-Up Is Lost

Wake-ups are delivered after the lock has been given up, so a caller that has just come may take
what a parked one is being woken for, deadlines race with wake-ups, and a woken receiver may find
its buffer too small. What is true in every order of these steps is a matter of counting. While a
caller is parked on a condition, each message or free slot that it waits for is matched by a caller
that has been woken from the condition and has not checked it again, or by a wake-up that is still
owed.

`Monitor.Attended` is that invariant. It counts a woken caller for what it may take, so it also says
that callers only wait for what their request waits for, and that parked payloads fit.

Passes that are aborted owe nothing, so they are left out here; `Monitor.storage_intact` says that
there are none as long as fewer than `2 ^ 63` messages have been accepted.

## Main results

* `Live.Turn.available_le`: what a turn makes available, and what it owes for it.
* `Monitor.Attended.step`, `Monitor.Run.attended`: one step and any number of them.
* `Monitor.no_lost_wakeup`: the bound for every reachable state.
-/

namespace StableQueue

/-- A caller with this request can come to park on the condition. -/
def Request.parksOn (config : Config) (condition : Condition) (request : Request) : Bool :=
  request.awaits = some condition && request.fits config

/-- A caller parks on one condition only. -/
theorem Request.eq_of_parksOn {config : Config} {request : Request} {c d : Condition}
    (hc : request.parksOn config c = true) (hd : request.parksOn config d = true) : c = d := by
  simp only [parksOn, Bool.and_eq_true, decide_eq_true_eq] at hc hd
  exact Option.some.inj (hc.1.symm.trans hd.1)

namespace Live

/-- What those parked on a condition wait for: messages or free slots. -/
def available (live : Live) : Condition → Nat
  | .notEmpty => live.contents.heap.len
  | .notFull => live.contents.pool.freeCount

variable {live live' : Live} {mayWait : Bool} {request : Request} {condition : Condition}

/-- Who parks has found the queue open and nothing available. -/
theorem Turn.available_of_park (h : live.Turn mayWait request (.park condition) live') :
    request.parksOn live.config condition = true ∧ live.contents.closed = false ∧
      live.available condition = 0 := by
  cases h with
  | sendWaits hsize hopen hfull _ =>
      exact ⟨by simp [Request.parksOn, Request.awaits, Request.fits, hsize], hopen, hfull⟩
  | receiveWaits hrequest hempty hopen _ =>
      refine ⟨?_, hopen, hempty⟩
      obtain rfl | ⟨buffer, rfl⟩ := Request.awaits_eq_notEmpty_iff.mp hrequest <;> rfl

/-- **What a turn owes.** A pass that ends a call on an open queue either leaves nothing available
for a condition, or owes wake-ups for what it adds; a caller who could have been woken from the
condition takes something, or passes its wake-up on. Only a pass that owes a wake-up to all is
exempt, and one that is aborted. -/
theorem Turn.available_le {outcome : Outcome} {owed : List Signal} {log : List Log.Event}
    (h : live.Turn mayWait request (.leave outcome owed log) live')
    (hlive : live.contents.Consistent live.config)
    (hfault : (Finished.mk request outcome).isFaulted = false)
    (hopen : live.contents.closed = false) (hall : .all condition ∉ owed) :
    live'.contents.closed = false ∧ (live'.available condition = 0 ∨
      live'.available condition + (request.parksOn live.config condition).toNat ≤
        live.available condition + owed.count (.one condition)) := by
  cases h with
  | oversized hsize =>
      refine ⟨hopen, .inr ?_⟩
      have hnot : ¬ _ := Nat.not_le.mpr hsize
      simp [Request.parksOn, Request.fits, hnot]
  | sendClosed _ hclosed => simp [hopen] at hclosed
  | sendFull _ _ hfull _ =>
      refine ⟨hopen, ?_⟩
      cases condition with
      | notFull => exact .inl hfull
      | notEmpty => exact .inr (by simp [Request.parksOn, Request.awaits])
  | @sent payload priority slot rest hsize _ hfree _ =>
      refine ⟨hopen, .inr ?_⟩
      have hlen := hlive.len_afterEnqueue hfree payload priority
      have hfreeCount := hlive.pool.length_freeSlots
      rw [hfree, List.length_cons] at hfreeCount
      cases condition with
      | notEmpty => simp [available, update, publish, Request.parksOn, Request.awaits, hlen]
      | notFull =>
          simp [available, update, publish, Request.parksOn, Request.awaits, Request.fits, hsize]
          omega
  | sendAborted _ _ _ _ => simp [Finished.isFaulted] at hfault
  | received hrequest hroot _ _ =>
      refine ⟨hopen, .inr ?_⟩
      have hlen := (Heap.peekMax_eq_some_iff.mp hroot).1
      cases condition with
      | notEmpty =>
          have hclaim := Bool.toNat_le (request.parksOn live.config .notEmpty)
          simp [available, update, publish]
          omega
      | notFull => simp [available, update, publish, Request.parksOn, hrequest]
  | receiveAborted _ _ _ _ => simp [Finished.isFaulted] at hfault
  | tooSmall _ _ =>
      refine ⟨hopen, .inr ?_⟩
      cases condition <;> simp [Request.parksOn, Request.awaits, Request.fits]
  | drained _ _ hclosed => simp [hopen] at hclosed
  | receiveEmpty hrequest hempty _ _ =>
      refine ⟨hopen, ?_⟩
      cases condition with
      | notEmpty => exact .inl hempty
      | notFull => exact .inr (by simp [Request.parksOn, hrequest])
  | closes _ => cases condition <;> simp at hall
  | closedBefore hclosed => simp [hopen] at hclosed

end Live

namespace Monitor

/-- The callers that have been woken from a condition and have not checked it again. -/
def woken (monitor : Monitor) (condition : Condition) : Nat :=
  monitor.active.countP (·.wokenFrom = some condition)

/-- Somebody is parked on the condition. -/
def IsParked (monitor : Monitor) (condition : Condition) : Prop :=
  ∃ caller ∈ monitor.parked, caller.2 = condition

/-- Nobody is parked in vain. -/
structure Attended (monitor : Monitor) (live : Live) : Prop where
  /-- Parked callers wait for what their requests wait for. -/
  parked : ∀ caller ∈ monitor.parked, caller.1.request.parksOn live.config caller.2 = true
  /-- So did the woken ones. -/
  active : ∀ visit ∈ monitor.active, ∀ condition, visit.wokenFrom = some condition →
    visit.request.parksOn live.config condition = true
  /-- While a caller is parked and not all are about to be woken, the queue is open, and what is
  available is matched by woken callers and by wake-ups that are owed. -/
  covered : ∀ condition, monitor.IsParked condition → .all condition ∉ monitor.owed →
    live.contents.closed = false ∧
      live.available condition ≤ monitor.woken condition + monitor.owed.count (.one condition)

variable {monitor after : Monitor} {live : Live} {history : List (Visit × Outcome)}

/-- At a queue where nobody is parked or woken, nobody is parked in vain. -/
theorem Attended.new (queue : Queue) : Attended { queue } live := by
  refine ⟨by simp, by simp, ?_⟩
  rintro condition ⟨caller, hcaller, -⟩
  contradiction

/-- Who passes through the lock is no longer among the woken. If it was woken from the condition,
it may take what it waited for there. -/
theorem Attended.woken_le (h : monitor.Attended live) {visit : Visit} {active : List Visit}
    (hactive : monitor.active.Perm (visit :: active)) (condition : Condition) :
    monitor.woken condition ≤ ({ monitor with active } : Monitor).woken condition +
      (visit.request.parksOn live.config condition).toNat := by
  have hvisit := h.active visit (hactive.mem_iff.mpr List.mem_cons_self)
  simp only [woken, hactive.countP_eq, List.countP_cons]
  by_cases hfrom : visit.wokenFrom = some condition
  · simp [hfrom, hvisit condition hfrom]
  · simp [hfrom]

/-- A passage that ends in parking leaves nobody parked in vain. -/
theorem Attended.park (h : monitor.Attended live) {visit : Visit} {active : List Visit}
    (hactive : monitor.active.Perm (visit :: active)) {mayWait : Bool} {parkedOn : Condition}
    (hturn : live.Turn mayWait visit.request (.park parkedOn) live) :
    Attended { monitor with active, parked := monitor.parked ++ [(visit, parkedOn)] } live := by
  obtain ⟨hparks, hopen, hnone⟩ := hturn.available_of_park
  refine ⟨?_, fun other hother => ?_, ?_⟩
  · intro caller hcaller
    rcases List.mem_append.mp hcaller with hold | hnew
    · exact h.parked caller hold
    · rw [List.mem_singleton.mp hnew]
      exact hparks
  · exact h.active other (hactive.mem_iff.mpr (List.mem_cons_of_mem _ hother))
  · rintro condition ⟨caller, hcaller, rfl⟩ hall
    refine ⟨hopen, ?_⟩
    rcases List.mem_append.mp hcaller with hold | hnew
    · by_cases heq : caller.2 = parkedOn
      · rw [heq, hnone]
        exact Nat.zero_le _
      · -- The one who parks waits for something else, so it was no woken caller to count on.
        have hclaim : visit.request.parksOn live.config caller.2 = false := by
          rw [Bool.eq_false_iff]
          intro hother
          exact heq (Request.eq_of_parksOn hother hparks)
        obtain ⟨-, hle⟩ := h.covered caller.2 ⟨caller, hold, rfl⟩ hall
        have hmost := h.woken_le hactive caller.2
        rw [hclaim] at hmost
        exact hle.trans (Nat.add_le_add_right hmost _)
    · rw [List.mem_singleton.mp hnew, hnone]
      exact Nat.zero_le _

/-- A passage that ends a call, unless it is aborted, leaves nobody parked in vain. -/
theorem Attended.leave (h : monitor.Attended live)
    (hlive : live.contents.Consistent live.config) {visit : Visit} {active : List Visit}
    (hactive : monitor.active.Perm (visit :: active)) {mayWait : Bool} {outcome : Outcome}
    {owed : List Signal} {log : List Log.Event} {live' : Live}
    (hturn : live.Turn mayWait visit.request (.leave outcome owed log) live')
    (hfault : (Finished.mk visit.request outcome).isFaulted = false) :
    Attended
      { monitor with
        queue := .created live'
        active
        owed := monitor.owed ++ owed
        returned := monitor.returned ++ [(visit.token, outcome)]
        log := monitor.log ++ log } live' := by
  obtain ⟨-, hconfig⟩ := hturn.config_eq
  refine ⟨?_, fun other hother => ?_, ?_⟩
  · rw [hconfig]
    exact h.parked
  · rw [hconfig]
    exact h.active other (hactive.mem_iff.mpr (List.mem_cons_of_mem _ hother))
  · intro condition hparked hall
    rw [List.mem_append, not_or] at hall
    obtain ⟨hopen, hle⟩ := h.covered condition hparked hall.1
    obtain ⟨hopen', hnone | hmore⟩ := hturn.available_le hlive hfault hopen hall.2
    · refine ⟨hopen', ?_⟩
      rw [hnone]
      exact Nat.zero_le _
    · refine ⟨hopen', ?_⟩
      have hmost := h.woken_le hactive condition
      simp only [woken, List.count_append] at hle hmost ⊢
      omega

/-- A passage through the lock, unless it is aborted, leaves nobody parked in vain. -/
theorem Attended.enter (h : monitor.Attended live) (hqueue : monitor.queue = .created live)
    (hlive : live.contents.Consistent live.config) {visit : Visit} {active : List Visit}
    (hactive : monitor.active.Perm (visit :: active)) (now : Nat)
    (hfault : ∀ call ∈ finished (monitor.endings now visit), call.isFaulted = false) :
    ∃ live', ({ monitor with active }.enter now visit).queue = .created live' ∧
      live'.config = live.config ∧ ({ monitor with active }.enter now visit).Attended live' := by
  have hqueue' : ({ monitor with active } : Monitor).queue = .created live := hqueue
  obtain ⟨parkedOn, hturn, -, hafter⟩ | ⟨outcome, owed, log, live', hturn, hended, hafter⟩ :=
    enter_cases hqueue' hlive now visit
  · rw [hafter]
    exact ⟨live, hqueue, rfl, h.park hactive hturn⟩
  · have hended' : monitor.endings now visit = [(visit, outcome)] := hended
    have hcall : (Finished.mk visit.request outcome).isFaulted = false := by
      apply hfault
      rw [hended']
      exact List.mem_cons_self
    rw [hafter]
    exact ⟨live', rfl, hturn.config_eq.2, h.leave hlive hactive hturn hcall⟩

/-- Waking callers, whether wake-ups are used up or not, leaves nobody parked in vain, if for each
condition on which somebody stays parked at most as many wake-ups are used up as callers are woken
from it. -/
theorem Attended.wake (h : monitor.Attended live) (callers : List (Visit × Condition))
    {parked : List (Visit × Condition)} {owed : List Signal}
    (hparked : monitor.parked.Perm (callers ++ parked))
    (howed : ∀ caller ∈ parked, .all caller.2 ∉ owed → .all caller.2 ∉ monitor.owed ∧
      monitor.owed.count (.one caller.2) ≤
        callers.countP (·.2 = caller.2) + owed.count (.one caller.2)) :
    Attended { monitor with active := monitor.active ++ callers.map wake, parked, owed } live := by
  refine ⟨fun caller hcaller => ?_, fun visit hvisit condition hfrom => ?_, ?_⟩
  · exact h.parked caller (hparked.mem_iff.mpr (List.mem_append_right _ hcaller))
  · rcases List.mem_append.mp hvisit with hold | hnew
    · exact h.active visit hold condition hfrom
    · obtain ⟨caller, hcaller, rfl⟩ := List.mem_map.mp hnew
      obtain rfl : caller.2 = condition := Option.some.inj hfrom
      exact h.parked caller (hparked.mem_iff.mpr (List.mem_append_left _ hcaller))
  · rintro condition ⟨caller, hcaller, rfl⟩ hall
    obtain ⟨hall', hcount⟩ := howed caller hcaller hall
    have hwas : monitor.IsParked caller.2 :=
      ⟨caller, hparked.mem_iff.mpr (List.mem_append_right _ hcaller), rfl⟩
    obtain ⟨hopen, hle⟩ := h.covered caller.2 hwas hall'
    refine ⟨hopen, ?_⟩
    have hwoken : (callers.map Monitor.wake).countP (·.wokenFrom = some caller.2) =
        callers.countP (·.2 = caller.2) := by
      rw [List.countP_map]
      congr 1
      funext other
      simp [Monitor.wake]
    simp only [woken, List.countP_append, hwoken] at hle ⊢
    omega

/-- **A step leaves nobody parked in vain**, unless it is a pass that is aborted. -/
theorem Attended.step (h : monitor.Attended live) {ended : List (Visit × Outcome)}
    (hstep : Step monitor ended after) (hqueue : monitor.queue = .created live)
    (hlive : live.contents.Consistent live.config)
    (hfault : ∀ call ∈ finished ended, call.isFaulted = false) :
    ∃ live', after.queue = .created live' ∧ live'.config = live.config ∧
      after.Attended live' := by
  cases hstep with
  | @arrive visit hnew =>
      refine ⟨live, hqueue, rfl, h.parked, ?_, ?_⟩
      · intro other hother condition hfrom
        rcases List.mem_append.mp hother with hold | hlast
        · exact h.active other hold condition hfrom
        · rw [List.mem_singleton.mp hlast, hnew] at hfrom
          contradiction
      · intro condition hparked hall
        have hsame : (monitor.arrive visit).woken condition = monitor.woken condition := by
          simp [woken, arrive, hnew]
        rw [hsame]
        exact h.covered condition hparked hall
  | enter hactive now => exact h.enter hqueue hlive hactive now hfault
  | @wakeOne condition owed visit parked howed hparked =>
      refine ⟨live, hqueue, rfl, h.wake [(visit, condition)] hparked ?_⟩
      intro caller _ hall
      rw [howed.mem_iff, howed.count_eq]
      refine ⟨by simpa using hall, ?_⟩
      simp [List.count_cons]
      omega
  | @wakeNone condition owed howed hnone =>
      have hcount : ∀ caller ∈ monitor.parked, .all caller.2 ∉ owed →
          .all caller.2 ∉ monitor.owed ∧
            monitor.owed.count (.one caller.2) ≤ 0 + owed.count (.one caller.2) := by
        intro caller hcaller hall
        have hne := (hnone caller hcaller).symm
        rw [howed.mem_iff, howed.count_eq]
        exact ⟨by simpa using hall, by simp [hne]⟩
      have hsame := h.wake [] (.refl _) hcount
      exact ⟨live, hqueue, rfl, by simpa using hsame⟩
  | @wakeAll condition owed howed =>
      have hsplit := List.filter_append_perm (fun caller : Visit × Condition =>
        decide (caller.2 = condition)) monitor.parked
      refine ⟨live, hqueue, rfl, h.wake _ hsplit.symm ?_⟩
      intro caller hcaller hall
      have hne : caller.2 ≠ condition := by simpa using (List.mem_filter.mp hcaller).2
      rw [howed.mem_iff, howed.count_eq]
      refine ⟨by simpa [hne] using hall, ?_⟩
      simp
  | @unpark caller parked hparked =>
      refine ⟨live, hqueue, rfl, h.wake [caller] hparked ?_⟩
      intro other _ hall
      exact ⟨hall, Nat.le_add_left _ _⟩

/-- **A run leaves nobody parked in vain**, unless it contains a pass that is aborted. -/
theorem Run.attended {start : Monitor} (hrun : Run start history monitor)
    (hqueue : start.queue = .created live) (hlive : live.contents.Consistent live.config)
    (hstart : start.Attended live)
    (hfault : ∀ call ∈ finished history, call.isFaulted = false) :
    ∃ live', monitor.queue = .created live' ∧ monitor.Attended live' := by
  induction hrun with
  | refl => exact ⟨live, hqueue, hstart⟩
  | @step history ended monitor after hrun hstep ih =>
      rw [finished_append] at hfault
      obtain ⟨live', hqueue', hattended⟩ := ih fun call hcall =>
        hfault call (List.mem_append_left _ hcall)
      obtain ⟨same, hsame, -, hlive'⟩ := hrun.exists_live hqueue hlive
      obtain rfl : same = live' := Queue.created.inj (hsame.symm.trans hqueue')
      obtain ⟨live'', hafter, -, hattended'⟩ := hattended.step hstep hqueue' hlive'
        fun call hcall => hfault call (List.mem_append_right _ hcall)
      exact ⟨live'', hafter, hattended'⟩

/-- **No wake-up is lost.** Whatever the callers do, in whatever order: no call is aborted as long
as fewer than `2 ^ 63` messages have been accepted; and if none is, then while a caller is parked on
a condition and no wake-up of all is owed, the queue is open, and there are at most as many
messages, or free slots, as callers woken from the condition who have not checked it again and
wake-ups for one that are owed. Once nobody is about to take the lock and no wake-up is owed,
callers are parked only for what is not there. -/
theorem no_lost_wakeup {config : Config} {host host' : Host} {queue : Queue}
    (hcreate : (Queue.uncreated.create config).runOn host = (.ok queue, host'))
    (hrun : Run { queue } history monitor) :
    (acceptedCount (finished history) < 2 ^ 63 →
      ∀ call ∈ finished history, call.isFaulted = false) ∧
    ((∀ call ∈ finished history, call.isFaulted = false) →
      ∃ live, monitor.queue = .created live ∧
        (∀ condition, monitor.IsParked condition → .all condition ∉ monitor.owed →
          live.contents.closed = false ∧ live.available condition ≤
            monitor.woken condition + monitor.owed.count (.one condition)) ∧
        (monitor.active = [] → monitor.owed = [] → ∀ condition, monitor.IsParked condition →
          live.contents.closed = false ∧ live.available condition = 0)) := by
  refine ⟨fun haccepted => ?_, fun hfault => ?_⟩
  · obtain ⟨hfinished, -⟩ := hrun.represents_of_create hcreate haccepted
    intro call hcall
    rw [hfinished] at hcall
    exact Ledger.run_not_faulted hcall
  · obtain ⟨new, rfl, rfl, hnew⟩ := Queue.exists_live_of_create hcreate
    obtain ⟨live, hqueue, hattended⟩ :=
      hrun.attended rfl (Contents.Consistent.new hnew).1 (.new _) hfault
    refine ⟨live, hqueue, hattended.covered, ?_⟩
    intro hactive howed condition hparked
    obtain ⟨hopen, hle⟩ := hattended.covered condition hparked (by simp [howed])
    rw [woken, hactive, howed] at hle
    exact ⟨hopen, Nat.le_zero.mp hle⟩

/-- While the receiver at the sample is parked, the message of the sender is matched by the wake-up
that is owed. -/
theorem no_lost_wakeup_sampleSent :
    ∃ live, sampleSent.queue = .created live ∧ sampleSent.IsParked .notEmpty ∧
      live.available .notEmpty ≤
        sampleSent.woken .notEmpty + sampleSent.owed.count (.one .notEmpty) := by
  obtain ⟨hreturned, hattended⟩ := no_lost_wakeup Queue.create_sample sample_run
  obtain ⟨live, hqueue, hcovered, -⟩ := hattended (hreturned (by decide +kernel))
  have hparked : sampleSent.IsParked .notEmpty := by
    rw [IsParked]
    decide +kernel
  exact ⟨live, hqueue, hparked, (hcovered .notEmpty hparked (by decide +kernel)).2⟩

end Monitor

end StableQueue
