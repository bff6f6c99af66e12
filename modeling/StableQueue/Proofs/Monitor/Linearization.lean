import StableQueue.Proofs.Ledger.Conservation
import StableQueue.Proofs.Monitor.Run

/-!
# Callers at a Queue See Its Ledger

Whatever the order in which callers pass through the lock, park and wake, the calls end as if they
had been made one after the other at the ledger, in the order of the passes that ended them. So the
storage stays in order, no pass is ever aborted, and no message is lost or invented.

All this holds as long as fewer than `2 ^ 63` messages have been accepted.

## Main results

* `Monitor.Run.represents`: the ledger of a run, from which the rest is read off.
* `Monitor.storage_intact`: the invariant of the storage, and that no fault can be reached.
* `Monitor.run_linearizes`: the outcomes are those of the ledger.
-/

namespace StableQueue

/-! ### Why a call may end as it does -/

/-- What a caller can conclude from the way in which its call has ended about the queue as it was
when the caller took the lock for the last time. -/
structure Live.Justifies (live : Live) (request : Request) (outcome : Outcome) : Prop where
  /-- A sender told that the queue is full has found it open and without a free slot. -/
  full : outcome.result = .error (.refused .full) →
    live.contents.closed = false ∧ live.contents.pool.freeCount = 0
  /-- A receiver told that the queue is empty has found it open and without a message. -/
  empty : outcome.result = .error (.refused .empty) →
    live.contents.closed = false ∧ live.contents.messages = []
  /-- A caller told that the queue is closed has found it closed, and a receiver without a
  message. -/
  closed : outcome.result = .error (.refused .closed) →
    live.contents.closed = true ∧
      (request.awaits = some .notEmpty → live.contents.messages = [])
  /-- A message handed out was queued, and led all that were. -/
  delivered : ∀ message, (Finished.mk request outcome).delivered? = some message →
    message ∈ live.contents.messages ∧
      ∀ other ∈ live.contents.messages, message.Leads other

namespace Live

variable {live live' : Live} {mayWait : Bool} {request : Request}

/-- **How a turn ends is justified** by the contents it has found. -/
theorem Turn.justifies {outcome : Outcome} {owed : List Signal} {log : List Log.Event}
    (h : live.Turn mayWait request (.leave outcome owed log) live')
    (hlive : live.contents.Sound live.config) : live.Justifies request outcome := by
  cases h with
  | sendClosed _ hclosed =>
      refine ⟨by simp, by simp, fun _ => ⟨hclosed, by simp [Request.awaits]⟩, ?_⟩
      simp [Finished.delivered?]
  | sendFull _ hopen hfull _ =>
      refine ⟨fun _ => ⟨hopen, hfull⟩, by simp, by simp, ?_⟩
      simp [Finished.delivered?]
  | @received _ root hrequest hroot _ _ =>
      have hmem := Heap.peekMax_mem_live hroot
      have hnumber : (live.contents.message root).number < 2 ^ 64 := root.sequence.toNat_lt
      have hresult : ∀ cause, (request.delivery (live.contents.message root)).result ≠
          .error (.refused cause) := by
        intro cause
        cases request <;> simp [Request.delivery]
      refine ⟨fun h => absurd h (hresult _), fun h => absurd h (hresult _),
        fun h => absurd h (hresult _), ?_⟩
      intro message hmessage
      rw [Finished.delivered?_delivery hrequest hnumber] at hmessage
      obtain rfl := Option.some.inj hmessage
      refine ⟨List.mem_map_of_mem hmem, ?_⟩
      intro other hother
      obtain ⟨entry, hentry, rfl⟩ := List.mem_map.mp hother
      exact hlive.root_leads hroot hentry
  | drained _ hempty hclosed =>
      have hnone := Contents.messages_eq_nil_iff.mpr hempty
      refine ⟨by simp, by simp, fun _ => ⟨hclosed, fun _ => hnone⟩, ?_⟩
      simp [Finished.delivered?]
  | receiveEmpty _ hempty hopen _ =>
      have hnone := Contents.messages_eq_nil_iff.mpr hempty
      refine ⟨by simp, fun _ => ⟨hopen, hnone⟩, by simp, ?_⟩
      simp [Finished.delivered?]
  | _ => exact ⟨by simp [Outcome.refused], by simp [Outcome.refused],
      by simp [Outcome.refused], by simp [Finished.delivered?, Outcome.refused]⟩

end Live

namespace Monitor

variable {monitor : Monitor} {history : List (Visit × Outcome)} {live : Live} {ledger : Ledger}

/-- **The ledger of a run.** As long as fewer than `2 ^ 63` messages have been accepted, the calls
that have ended are answered by the ledger, and the queue represents what they have made of it. -/
theorem Run.represents {start : Monitor} (hrun : Run start history monitor)
    (hqueue : start.queue = .created live) (hlive : live.Represents ledger)
    (haccepted : ledger.arrivals + acceptedCount (finished history) < 2 ^ 63) :
    finished history = (ledger.run live.config (requests history)).1 ∧
      ∃ live', monitor.queue = .created live' ∧ live'.config = live.config ∧
        live'.Represents (ledger.run live.config (requests history)).2 := by
  induction hrun with
  | refl => exact ⟨rfl, live, hqueue, rfl, hlive⟩
  | @step history ended monitor after hrun hstep ih =>
      rw [finished_append, acceptedCount_append] at haccepted
      obtain ⟨hfinished, live', hqueue', hconfig, hlive'⟩ := ih (by omega)
      obtain ⟨rfl, hafter, -⟩ | ⟨visit, mayWait, outcome, owed, log, live'', hturn, rfl, hafter,
        -⟩ := hstep.eq_or_turn hqueue' hlive'.sound.toConsistent
      · rw [List.append_nil]
        exact ⟨hfinished, live', hafter, hconfig, hlive'⟩
      · have harrivals := Ledger.arrivals_run live.config ledger (requests history)
        rw [← hfinished] at harrivals
        obtain ⟨houtcome, hlive''⟩ := hlive'.turn (by omega) hturn
        rw [hconfig] at houtcome hlive''
        have hrequests : requests (history ++ [(visit, outcome)]) =
            requests history ++ [visit.request] := requests_append _ _
        rw [hrequests, Ledger.run_append]
        refine ⟨?_, live'', hafter, hturn.config_eq.2.trans hconfig, hlive''⟩
        rw [finished_append, houtcome]
        exact congrArg (· ++ _) hfinished

/-- The ledger of a run that starts with a new queue. -/
theorem Run.represents_of_create {config : Config} {host host' : Host} {queue : Queue}
    (hcreate : (Queue.uncreated.create config).runOn host = (.ok queue, host'))
    (hrun : Run { queue } history monitor)
    (haccepted : acceptedCount (finished history) < 2 ^ 63) :
    finished history = (Ledger.run config {} (requests history)).1 ∧
      ∃ live, monitor.queue = .created live ∧ live.config = config ∧
        live.Represents (Ledger.run config {} (requests history)).2 := by
  obtain ⟨live, rfl, rfl, hnew⟩ := Queue.exists_live_of_create hcreate
  exact hrun.represents rfl (.new hnew) (by simpa using haccepted)

/-- What is in a queue after such a run is what the ledger says. -/
theorem Run.represents_of_queue {config : Config} {host host' : Host} {queue : Queue}
    (hcreate : (Queue.uncreated.create config).runOn host = (.ok queue, host'))
    (hrun : Run { queue } history monitor)
    (haccepted : acceptedCount (finished history) < 2 ^ 63)
    (hqueue : monitor.queue = .created live) :
    finished history = (Ledger.run config {} (requests history)).1 ∧
      live.Represents (Ledger.run config {} (requests history)).2 := by
  obtain ⟨hfinished, same, hsame, -, hrepresents⟩ := hrun.represents_of_create hcreate haccepted
  obtain rfl : live = same := Queue.created.inj (hqueue.symm.trans hsame)
  exact ⟨hfinished, hrepresents⟩

/-- No call of such a run is aborted. -/
theorem Run.not_faulted_of_create {config : Config} {host host' : Host} {queue : Queue}
    (hcreate : (Queue.uncreated.create config).runOn host = (.ok queue, host'))
    (hrun : Run { queue } history monitor)
    (haccepted : acceptedCount (finished history) < 2 ^ 63) :
    ∀ call ∈ finished history, call.isFaulted = false := by
  obtain ⟨hfinished, -⟩ := hrun.represents_of_create hcreate haccepted
  rw [hfinished]
  exact fun call hcall => Ledger.run_not_faulted hcall

/-- **The storage stays intact.** Whatever the callers do, in whatever order: as long as fewer than
`2 ^ 63` messages have been accepted, the contents are intact whenever nobody holds the lock, no
call has been aborted, and no pass that may come next would be. -/
theorem storage_intact {config : Config} {host host' : Host} {queue : Queue}
    (hcreate : (Queue.uncreated.create config).runOn host = (.ok queue, host'))
    (hrun : Run { queue } history monitor)
    (haccepted : acceptedCount (finished history) < 2 ^ 63) :
    (∀ call ∈ finished history, call.isFaulted = false) ∧
      ∃ live, monitor.queue = .created live ∧ live.config = config ∧
        live.contents.Intact config ∧
        ∀ request mayWait outcome owed log live',
          live.attempt request mayWait = (.leave outcome owed log, live') →
            (Finished.mk request outcome).isFaulted = false := by
  obtain ⟨hfinished, live, hqueue, rfl, hlive⟩ := hrun.represents_of_create hcreate haccepted
  refine ⟨?_, live, hqueue, rfl, hlive.sound.intact, ?_⟩
  · intro call hcall
    rw [hfinished] at hcall
    exact Ledger.run_not_faulted hcall
  · intro request mayWait outcome owed log live' hattempt
    have hturn := Live.attempt_turn hlive.sound.toConsistent request mayWait
    rw [hattempt] at hturn
    have harrivals := Ledger.arrivals_run live.config {} (requests history)
    rw [← hfinished] at harrivals
    have hnext : live.contents.nextSequence.toNat < 2 ^ 63 := by
      rw [hlive.nextSequence, harrivals]
      simpa using haccepted
    exact hturn.not_faulted hlive.sound hnext

/-- The storage of the sample is intact while a receiver is parked and its message is queued. -/
theorem storage_intact_sampleSent :
    ∃ live, sampleSent.queue = .created live ∧ live.contents.Intact Live.sample.config := by
  obtain ⟨-, live, hqueue, -, hintact, -⟩ :=
    storage_intact Queue.create_sample sample_run (by decide +kernel)
  exact ⟨live, hqueue, hintact⟩

/-- **Callers see the ledger.** Whatever the callers do, in whatever order: as long as fewer than
`2 ^ 63` messages have been accepted, the calls have ended as if the ledger had answered them, in
the order of their last passes. What is queued is what has been sent and not been received. And
whatever comes next: a call that ends with it ends for a reason. -/
theorem run_linearizes {config : Config} {host host' : Host} {queue : Queue}
    (hcreate : (Queue.uncreated.create config).runOn host = (.ok queue, host'))
    (hrun : Run { queue } history monitor)
    (haccepted : acceptedCount (finished history) < 2 ^ 63) :
    finished history = (Ledger.run config {} (requests history)).1 ∧
      monitor.returned = history.map (fun ending => (ending.1.token, ending.2)) ∧
      ∃ live, monitor.queue = .created live ∧
        live.Represents (Ledger.run config {} (requests history)).2 ∧
        (sent 0 (finished history)).Perm
          (received (finished history) ++ live.contents.messages) ∧
        ∀ ended after, Step monitor ended after →
          ∀ ending ∈ ended, live.Justifies ending.1.request ending.2 := by
  obtain ⟨hfinished, live, hqueue, hconfig, hlive⟩ :=
    hrun.represents_of_create hcreate haccepted
  refine ⟨hfinished, ?_, live, hqueue, hlive, ?_, ?_⟩
  · obtain ⟨new, rfl, rfl, hnew⟩ := Queue.exists_live_of_create hcreate
    have hreturned := hrun.returned_eq rfl (Contents.Consistent.new hnew).1
    simpa using hreturned
  · have harrivals := Ledger.arrivals_run config {} (requests history)
    rw [← hfinished] at harrivals
    have hconserved := Ledger.run_conserves .new config (requests history) (by
      rw [harrivals, Nat.zero_add]
      omega)
    simp only [← hfinished] at hconserved
    exact hconserved.trans (hlive.messages.symm.append_left _)
  · intro ended after hstep ending hending
    obtain ⟨rfl, -⟩ | ⟨visit, mayWait, outcome, owed, log, live', hturn, rfl, -⟩ :=
      hstep.eq_or_turn hqueue hlive.sound.toConsistent
    · contradiction
    · rw [List.mem_singleton.mp hending]
      exact hturn.justifies hlive.sound

/-- The sender at the sample sees the ledger, and its message is queued. -/
theorem run_linearizes_sampleSent :
    finished sampleHistory =
        (Ledger.run Live.sample.config {} (requests sampleHistory)).1 ∧
      ∃ live, sampleSent.queue = .created live ∧
        (sent 0 (finished sampleHistory)).Perm
          (received (finished sampleHistory) ++ live.contents.messages) := by
  obtain ⟨hfinished, -, live, hqueue, -, hconserved, -⟩ :=
    run_linearizes Queue.create_sample sample_run (by decide +kernel)
  exact ⟨hfinished, live, hqueue, hconserved⟩

end Monitor

end StableQueue
