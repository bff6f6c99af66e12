import StableQueue.Proofs.Monitor.Wakeups
import StableQueue.Proofs.Queue.Draining
import StableQueue.Proofs.Queue.Telemetry

/-!
# Closing a Queue

Closing meets callers of all kinds: some are parked, some are about to take the lock, some come
later. A sender checks first whether the queue is closed, a receiver whether a message is queued,
and the wake-ups for everyone are owed from the moment in which the queue is closed. So whatever the
order of the steps, nobody waits any longer, and the messages that were queued are drained in order.

`Monitor.Announced` is the invariant: as long as somebody is parked at a closed queue, the wake-up
of all is still owed to the condition. It holds from the start, where the queue is open.

## Main results

* `Monitor.Announced.step`, `Monitor.Run.announced`: one step and any number of them.
* `Monitor.ShutDown`: what the callers of a closed queue find.
* `Monitor.close_protocol`: everything that happens from the pass of the closing caller on.
-/

namespace StableQueue.Monitor

variable {monitor after : Monitor} {live : Live} {history later : List (Visit × Outcome)}

/-! ### Those who are parked when a queue is closed -/

/-- That a queue is closed is known to all who have to know. -/
structure Announced (monitor : Monitor) (live : Live) : Prop where
  /-- It can be read without the lock. -/
  telemetry : live.telemetry.closed = live.contents.closed
  /-- Those who are parked are about to be woken. -/
  owed : live.contents.closed = true → ∀ condition, monitor.IsParked condition →
    .all condition ∈ monitor.owed

/-- Nothing has to be announced while a queue is open. -/
theorem Announced.new {queue : Queue} (htelemetry : live.telemetry.closed = false)
    (hopen : live.contents.closed = false) : Announced { queue } live := by
  refine ⟨htelemetry.trans hopen.symm, fun hclosed => ?_⟩
  simp [hopen] at hclosed

/-- Nothing is missed if nobody parks, and no wake-up of all gets lost for those who stay parked. -/
theorem Announced.keep (h : monitor.Announced live)
    (hparked : ∀ caller ∈ after.parked, caller ∈ monitor.parked)
    (howed : ∀ caller ∈ after.parked, .all caller.2 ∈ monitor.owed →
      .all caller.2 ∈ after.owed) : after.Announced live := by
  refine ⟨h.telemetry, ?_⟩
  rintro hclosed condition ⟨caller, hcaller, rfl⟩
  exact howed caller hcaller (h.owed hclosed caller.2 ⟨caller, hparked caller hcaller, rfl⟩)

/-- A passage through the lock either finds the queue open and parks, or is announced if it has
closed the queue. -/
theorem Announced.enter (h : monitor.Announced live) (hqueue : monitor.queue = .created live)
    (hlive : live.contents.Consistent live.config) (now : Nat) (visit : Visit) :
    ∃ live', (monitor.enter now visit).queue = .created live' ∧
      (monitor.enter now visit).Announced live' := by
  obtain ⟨parkedOn, hturn, -, hafter⟩ | ⟨outcome, owed, log, live', hturn, -, hafter⟩ :=
    enter_cases hqueue hlive now visit
  · obtain ⟨-, hopen, -⟩ := hturn.available_of_park
    rw [hafter]
    refine ⟨live, hqueue, h.telemetry, fun hclosed => ?_⟩
    simp [hopen] at hclosed
  · rw [hafter]
    refine ⟨live', rfl, hturn.telemetry_closed h.telemetry, ?_⟩
    intro hclosed condition hparked
    rw [List.mem_append]
    cases hbefore : live.contents.closed with
    | true => exact .inl (h.owed hbefore condition hparked)
    | false => exact .inr ((hturn.announces hbefore hclosed).2 condition)

/-- **A step keeps a closed queue announced.** -/
theorem Announced.step (h : monitor.Announced live) {ended : List (Visit × Outcome)}
    (hstep : Step monitor ended after) (hqueue : monitor.queue = .created live)
    (hlive : live.contents.Consistent live.config) :
    ∃ live', after.queue = .created live' ∧ after.Announced live' := by
  cases hstep with
  | arrive _ => exact ⟨live, hqueue, h.keep (fun _ hcaller => hcaller) fun _ _ hall => hall⟩
  | @enter visit active _ now =>
      have hsame : ({ monitor with active } : Monitor).Announced live := ⟨h.telemetry, h.owed⟩
      exact hsame.enter hqueue hlive now visit
  | wakeOne howed hparked =>
      refine ⟨live, hqueue, h.keep ?_ ?_⟩
      · exact fun caller hcaller => hparked.mem_iff.mpr (List.mem_cons_of_mem _ hcaller)
      · intro caller _ hall
        simpa using howed.mem_iff.mp hall
  | wakeNone howed _ =>
      refine ⟨live, hqueue, h.keep (fun _ hcaller => hcaller) ?_⟩
      intro caller _ hall
      simpa using howed.mem_iff.mp hall
  | @wakeAll condition owed howed =>
      refine ⟨live, hqueue, h.keep ?_ ?_⟩
      · exact fun caller hcaller => (List.mem_filter.mp hcaller).1
      · intro caller hcaller hall
        have hne : caller.2 ≠ condition := by simpa using (List.mem_filter.mp hcaller).2
        simpa [hne] using howed.mem_iff.mp hall
  | unpark hparked =>
      refine ⟨live, hqueue, h.keep ?_ fun _ _ hall => hall⟩
      exact fun caller hcaller => hparked.mem_iff.mpr (List.mem_cons_of_mem _ hcaller)

/-- A run keeps a closed queue announced. -/
theorem Run.announced {start : Monitor} (hrun : Run start history monitor)
    (hqueue : start.queue = .created live) (hlive : live.contents.Consistent live.config)
    (hstart : start.Announced live) :
    ∃ live', monitor.queue = .created live' ∧ monitor.Announced live' := by
  induction hrun with
  | refl => exact ⟨live, hqueue, hstart⟩
  | step hrun hstep ih =>
      obtain ⟨live', hqueue', hannounced⟩ := ih
      obtain ⟨same, hsame, -, hlive'⟩ := hrun.exists_live hqueue hlive
      obtain rfl : live' = same := Queue.created.inj (hqueue'.symm.trans hsame)
      exact hannounced.step hstep hqueue' hlive'

/-! ### What the callers of a closed queue find -/

/-- Closing a queue ends with the first pass, and succeeds. -/
theorem endings_of_close (hqueue : monitor.queue = .created live)
    (hlive : live.contents.Consistent live.config) (now : Nat) {visit : Visit}
    (hclose : visit.request = .close) :
    monitor.endings now visit = [(visit, { result := .ok .done })] := by
  obtain ⟨condition, hturn, -⟩ | ⟨outcome, owed, log, live', hturn, hended, -⟩ :=
    enter_cases hqueue hlive now visit
  · rw [hclose] at hturn
    obtain ⟨⟨owed, log, hpass⟩, -⟩ := hturn.of_close
    contradiction
  · rw [hclose] at hturn
    obtain ⟨⟨_, _, hpass⟩, -⟩ := hturn.of_close
    rw [hended, (Pass.leave.inj hpass).1]

/-- How it stands with the callers once the queue is closed, whatever they do next. -/
structure ShutDown (monitor : Monitor) (live : Live) : Prop where
  /-- That the queue is closed can be read without the lock. -/
  isClosed : monitor.queue.isClosed = true
  /-- Nobody parks. -/
  parked : ∀ now visit, (monitor.enter now visit).parked = monitor.parked
  /-- Whose payload fits is told that the queue is closed. -/
  send : ∀ now visit payload priority, visit.request = .send payload priority →
    payload.size ≤ live.config.messageSize →
      monitor.endings now visit = [(visit, .refused visit.request .closed)]
  /-- So is who wants to receive when no message is left. -/
  receive : ∀ now visit, visit.request.awaits = some .notEmpty → live.contents.messages = [] →
    monitor.endings now visit = [(visit, .refused visit.request .closed)]
  /-- Closing the queue once more succeeds, and nothing comes of it but the answer. -/
  close : ∀ now visit, visit.request = .close →
    monitor.endings now visit = [(visit, { result := .ok .done })] ∧
      monitor.enter now visit =
        { monitor with
          returned := monitor.returned ++ [(visit.token, { result := .ok .done })] }
  /-- Once all have been woken from a condition, nobody is parked there. -/
  woken : ∀ condition, .all condition ∉ monitor.owed → ¬ monitor.IsParked condition

/-- **A closed queue is shut down.** -/
theorem Announced.shutDown (h : monitor.Announced live) (hqueue : monitor.queue = .created live)
    (hlive : live.contents.Consistent live.config) (hclosed : live.contents.closed = true) :
    monitor.ShutDown live := by
  -- On a closed queue a passage through the lock cannot end in parking.
  have hleave (now : Nat) (visit : Visit) : ∃ outcome owed log live',
      live.Turn (visit.deadline.allows now) visit.request (.leave outcome owed log) live' ∧
      monitor.endings now visit = [(visit, outcome)] ∧
      monitor.enter now visit =
        { monitor with
          queue := .created live'
          owed := monitor.owed ++ owed
          returned := monitor.returned ++ [(visit.token, outcome)]
          log := monitor.log ++ log } := by
    obtain ⟨condition, hturn, -⟩ | hleave := enter_cases hqueue hlive now visit
    · obtain ⟨-, hopen, -⟩ := hturn.available_of_park
      simp [hclosed] at hopen
    · exact hleave
  refine ⟨?_, fun now visit => ?_, ?_, ?_, ?_, fun condition hall hparked => ?_⟩
  · rw [hqueue]
    exact h.telemetry.trans hclosed
  · obtain ⟨outcome, owed, log, live', -, -, hafter⟩ := hleave now visit
    rw [hafter]
  · intro now visit payload priority hrequest hsize
    obtain ⟨outcome, owed, log, live', hturn, hended, -⟩ := hleave now visit
    rw [hrequest] at hturn ⊢
    rw [hended, hturn.sendClosed_of_closed hclosed hsize]
  · intro now visit hrequest hnone
    obtain ⟨outcome, owed, log, live', hturn, hended, -⟩ := hleave now visit
    rw [hended, hturn.drained_of_closed hclosed hrequest (Contents.messages_eq_nil_iff.mp hnone)]
  · intro now visit hrequest
    obtain ⟨outcome, owed, log, live', hturn, -, hafter⟩ := hleave now visit
    rw [hrequest] at hturn
    obtain ⟨hopen, -⟩ | ⟨-, rfl, hpass⟩ := hturn.close_cases
    · simp [hclosed] at hopen
    · obtain ⟨rfl, rfl, rfl⟩ := Pass.leave.inj hpass
      refine ⟨endings_of_close hqueue hlive now hrequest, ?_⟩
      rw [hafter, hqueue, List.append_nil, List.append_nil]
  · exact hall (h.owed hclosed condition hparked)

/-! ### Runs -/

/-- A run without an aborted pass leaves the heap in order. -/
theorem Run.isOrdered {start : Monitor} (hrun : Run start history monitor)
    (hqueue : start.queue = .created live) (hlive : live.contents.Consistent live.config)
    (hordered : live.contents.heap.IsOrdered)
    (hfault : ∀ call ∈ finished history, call.isFaulted = false) :
    ∃ live', monitor.queue = .created live' ∧ live'.contents.heap.IsOrdered := by
  have hreached := hrun.exists_live_of_turns
    (motive := fun history live => (∀ call ∈ finished history, call.isFaulted = false) →
      live.contents.heap.IsOrdered) hqueue hlive (fun _ => hordered) ?turns
  case turns =>
    intro history live live' visit mayWait outcome owed log _ hturn ih hfault
    rw [finished_append] at hfault
    exact hturn.isOrdered (ih fun call hcall => hfault call (List.mem_append_left _ hcall))
      (hfault _ (List.mem_append_right _ List.mem_cons_self))
  obtain ⟨live', hqueue', -, -, hordered'⟩ := hreached
  exact ⟨live', hqueue', hordered' hfault⟩

/-- **A run at a closed queue.** It stays closed, and every call ends for good. If the heap is in
order and its entries are coherent, no pass is aborted, and what is handed out stands in front of
what is kept. -/
theorem Run.drains {start : Monitor} (hrun : Run start later monitor)
    (hqueue : start.queue = .created live) (hlive : live.contents.Consistent live.config)
    (hclosed : live.contents.closed = true) :
    ∃ live', monitor.queue = .created live' ∧ live'.config = live.config ∧
      live'.contents.Consistent live'.config ∧ live'.contents.closed = true ∧
      (∀ call ∈ finished later, call.Conclusive) ∧
      (live.contents.heap.IsOrdered → Entry.Coherent live.contents.heap.live →
        live.contents.inOrder = received (finished later) ++ live'.contents.inOrder) := by
  have hreached := hrun.exists_live_of_turns
    (motive := fun later live' => live'.contents.closed = true ∧
      (∀ call ∈ finished later, call.Conclusive) ∧
      (live.contents.heap.IsOrdered → Entry.Coherent live.contents.heap.live →
        live'.contents.heap.IsOrdered ∧ Entry.Coherent live'.contents.heap.live ∧
        live.contents.inOrder = received (finished later) ++ live'.contents.inOrder))
    hqueue hlive
    ⟨hclosed, by simp [finished], fun hordered hcoherent => ⟨hordered, hcoherent, rfl⟩⟩ ?turns
  case turns =>
    rintro later live₁ live₂ visit mayWait outcome owed log hlive₁ hturn
      ⟨hclosed₁, hconclusive, hdrains⟩
    obtain ⟨hclosed₂, outcome', owed', log', hpass, hcall⟩ := hturn.conclusive hclosed₁
    obtain ⟨rfl, rfl, rfl⟩ := Pass.leave.inj hpass
    rw [finished_append]
    refine ⟨hclosed₂, ?_, fun hordered hcoherent => ?_⟩
    · intro call hmem
      rcases List.mem_append.mp hmem with hold | hnew
      · exact hconclusive call hold
      · rw [List.mem_singleton.mp hnew]
        exact hcall
    · obtain ⟨hordered₁, hcoherent₁, hinOrder⟩ := hdrains hordered hcoherent
      obtain ⟨hfault, hcoherent₂⟩ := hturn.coherent hclosed₁ hordered₁ hcoherent₁
      refine ⟨hturn.isOrdered hordered₁ hfault, hcoherent₂, ?_⟩
      rw [hinOrder, hturn.inOrder_eq hlive₁ hclosed₁ hfault, received_append, List.append_assoc]
      rfl
  obtain ⟨live', hqueue', hconfig, hlive', hclosed', hconclusive, hdrains⟩ := hreached
  exact ⟨live', hqueue', hconfig, hlive', hclosed', hconclusive,
    fun hordered hcoherent => (hdrains hordered hcoherent).2.2⟩

/-- The pass of a caller who closes the queue is a turn, succeeds, and leaves the queue closed. -/
theorem Step.of_close {closer : Visit} {outcome : Outcome}
    (hstep : Step monitor [(closer, outcome)] after) (hclose : closer.request = .close)
    (hqueue : monitor.queue = .created live) (hlive : live.contents.Consistent live.config) :
    outcome = { result := .ok .done } ∧ ∃ mayWait owed log live',
      live.Turn mayWait .close (.leave outcome owed log) live' ∧
      after.queue = .created live' ∧ live'.contents.closed = true := by
  obtain ⟨hnone, -⟩ | ⟨visit, mayWait, outcome', owed, log, live', hturn, hended, hafter, -⟩ :=
    hstep.eq_or_turn hqueue hlive
  · simp at hnone
  · obtain ⟨rfl, rfl⟩ : closer = visit ∧ outcome = outcome' := by simpa using hended
    rw [hclose] at hturn
    obtain ⟨⟨_, _, hpass⟩, hclosed⟩ := hturn.of_close
    exact ⟨(Pass.leave.inj hpass).1, mayWait, owed, log, live', hturn, hafter, hclosed⟩

/-- **The protocol of closing.** Whatever the callers have done before, whoever is parked or about
to take the lock, and in whatever order they go on: from the pass of a caller who closes the queue
on, that pass included,

* closing succeeds, no message is accepted, and nobody is told that the queue is full or empty;
* the queue is shut down whenever nobody holds the lock: nobody parks any more, and once the
  wake-ups for all have been delivered nobody is parked;
* unless a call has been aborted before, or the numbers of the queued messages of one priority have
  spread over more than half of the circle, the messages handed out stand in front of those that
  are kept, in the order in which the heap lists what was queued when the queue was closed.

Neither of the two can be as long as fewer than `2 ^ 63` messages have been accepted, and then the
order is the one in which messages lead each other. -/
theorem close_protocol {config : Config} {host host' : Host} {queue : Queue}
    {before closed : Monitor} {closer : Visit} {outcome : Outcome}
    (hcreate : (Queue.uncreated.create config).runOn host = (.ok queue, host'))
    (hrun : Run { queue } history before) (hclose : closer.request = .close)
    (hstep : Step before [(closer, outcome)] closed) (hlater : Run closed later after) :
    outcome = { result := .ok .done } ∧
    (∀ call ∈ finished later, call.Conclusive) ∧
    ∃ live live', closed.queue = .created live ∧ after.queue = .created live' ∧
      live'.config = config ∧ after.ShutDown live' ∧
      (acceptedCount (finished history) < 2 ^ 63 →
        (∀ call ∈ finished history, call.isFaulted = false) ∧
        Entry.Coherent live.contents.heap.live ∧
        live.contents.inOrder.Pairwise fun earlier later => ¬ later.Leads earlier) ∧
      ((∀ call ∈ finished history, call.isFaulted = false) →
        Entry.Coherent live.contents.heap.live →
        (live.contents.heap.drain.Pairwise fun earlier later => later.outranks earlier = false) ∧
        live.contents.inOrder.Perm live.contents.messages ∧
        live.contents.inOrder = received (finished later) ++ live'.contents.inOrder ∧
        live'.contents.inOrder.Perm live'.contents.messages) := by
  have hwhole := (hrun.step hstep).trans hlater
  obtain ⟨-, id, contents, hnew, rfl⟩ := Queue.of_create hcreate
  obtain ⟨hnew', -, -, hopen⟩ := Contents.Consistent.new hnew
  obtain ⟨live₀, hbefore, hconfig₀, hlive₀⟩ := hrun.exists_live rfl hnew'
  obtain ⟨rfl, mayWait, owed, log, live, hturn, hqueue, hclosed⟩ :=
    hstep.of_close hclose hbefore hlive₀
  have hlive := hturn.consistent hlive₀
  obtain ⟨live', hafter, hconfig, hlive', hclosed', hconclusive, hdrains⟩ :=
    hlater.drains hqueue hlive hclosed
  have hshut : after.ShutDown live' := by
    obtain ⟨same, hsame, hannounced⟩ := hwhole.announced rfl hnew' (.new rfl hopen)
    obtain rfl : live' = same := Queue.created.inj (hafter.symm.trans hsame)
    exact hannounced.shutDown hafter hlive' hclosed'
  refine ⟨rfl, hconclusive, live, live', hqueue, hafter,
    hconfig.trans (hturn.config_eq.2.trans hconfig₀), hshut, ?_, ?_⟩
  · intro haccepted
    obtain ⟨hfinished, hrepresents⟩ := hrun.represents_of_queue hcreate haccepted hbefore
    have harrivals := Ledger.arrivals_run config {} (requests history)
    rw [← hfinished] at harrivals
    have hsound := (hrepresents.turn (by simpa [harrivals] using haccepted) hturn).2.sound
    exact ⟨hrun.not_faulted_of_create hcreate haccepted, hsound.coherent,
      hsound.pairwise_inOrder⟩
  · intro hfault hcoherent
    have hordered : live.contents.heap.IsOrdered := by
      obtain ⟨same, hsame, hordered⟩ :=
        hrun.isOrdered rfl hnew' (Contents.Sound.new hnew).isOrdered hfault
      obtain rfl : live₀ = same := Queue.created.inj (hbefore.symm.trans hsame)
      exact hturn.isOrdered hordered rfl
    exact ⟨Heap.pairwise_drain hordered hcoherent, live.contents.inOrder_perm,
      hdrains hordered hcoherent, live'.contents.inOrder_perm⟩

/-- A caller who closes the queue. -/
def sampleCloser : Visit := { token := 2, request := .close, deadline := .immediate }

/-- The queue has been closed while the receiver is parked and the message of the sender is
queued. -/
def sampleClosed : Monitor :=
  { sampleSent.arrive sampleCloser with active := [] }.enter 0 sampleCloser

/-- A receiver who comes late. -/
def sampleLate : Visit := { token := 3, request := .receive, deadline := .never }

/-- The late receiver has taken the message. -/
def sampleDrained : Monitor :=
  { sampleClosed.arrive sampleLate with active := [] }.enter 0 sampleLate

/-- The message at the sample can still be received after the queue has been closed. -/
theorem close_protocol_sampleDrained :
    ∃ live live', sampleClosed.queue = .created live ∧ sampleDrained.queue = .created live' ∧
      sampleDrained.ShutDown live' ∧
      live.contents.inOrder = ⟨3, 0, ⟨#[7]⟩⟩ :: live'.contents.inOrder := by
  have hcomes := sample_run.step (@Step.arrive _ sampleCloser rfl)
  have hcloses := @Step.enter (sampleSent.arrive sampleCloser) sampleCloser []
    (by simp [arrive, sampleSent]) 0
  have hreceives := (Run.single (@Step.arrive sampleClosed sampleLate rfl)).step
    (@Step.enter _ sampleLate [] (by simp [arrive, sampleClosed]) 0)
  have hnew : Contents.new Live.sample.config = .ok Live.sample.contents := rfl
  obtain ⟨reached, hqueue, -, hlive⟩ := hcomes.exists_live rfl (Contents.Consistent.new hnew).1
  rw [endings_of_close hqueue hlive 0 rfl] at hcloses
  obtain ⟨-, -, live, live', hclosed, hdrained, -, hshut, hbounded, hinOrder⟩ :=
    close_protocol Queue.create_sample hcomes rfl hcloses hreceives
  obtain ⟨hfault, hcoherent, -⟩ := hbounded (by decide +kernel)
  have hreceived : received (finished ([] ++
      (sampleClosed.arrive sampleLate).endings 0 sampleLate)) = [⟨3, 0, ⟨#[7]⟩⟩] := by
    decide +kernel
  obtain ⟨-, -, hsplit, -⟩ := hinOrder hfault hcoherent
  rw [hreceived] at hsplit
  exact ⟨live, live', hclosed, hdrained, hshut, hsplit⟩

end StableQueue.Monitor
