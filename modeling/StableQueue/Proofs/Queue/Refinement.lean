import StableQueue.Proofs.Queue.Sound
import StableQueue.Queue.Basic

/-!
# A Queue Answers Like Its Ledger

`Live.Represents` ties a queue to a ledger: the contents are sound, the same messages are queued,
and the queue is closed if the ledger is and has given out as many numbers. A pass that ends a call
ends it the way the ledger answers, and the queue represents the ledger afterwards. A pass that
parks changes nothing.

## Main results

* `Live.Represents.turn`: one pass against one answer of the ledger.
* `Queue.perform_eq_none_iff`: which calls return.
* `Queue.performAll_refines_ledger`: calls made one after the other, from a new queue on.
-/

namespace StableQueue

namespace Live

/-- A ledger says what a queue is to its callers. -/
structure Represents (live : Live) (ledger : Ledger) : Prop where
  /-- The storage is in order. -/
  sound : live.contents.Sound live.config
  /-- The same messages are queued. -/
  messages : live.contents.messages.Perm ledger.messages
  /-- Either both are closed or both are open. -/
  closed : live.contents.closed = ledger.closed
  /-- The next message gets the number of those accepted so far. -/
  nextSequence : live.contents.nextSequence.toNat = ledger.arrivals

variable {live live' : Live} {ledger : Ledger} {mayWait : Bool} {request : Request}
  {root : Entry}

/-- There are as many messages in the ledger as in the heap. -/
theorem Represents.length_messages (h : live.Represents ledger) :
    ledger.messages.length = live.contents.heap.len := by
  rw [← h.messages.length_eq, Contents.length_messages]

/-- The ledger is full if there is no free slot. -/
theorem Represents.length_eq_depth_iff (h : live.Represents ledger) :
    ledger.messages.length = live.config.depth ↔ live.contents.pool.freeCount = 0 := by
  have hsum := h.sound.toConsistent.len_add_freeCount
  rw [h.length_messages]
  omega

/-- Nothing is first in the ledger if the heap is empty. -/
theorem Represents.first?_eq_none (h : live.Represents ledger)
    (hempty : live.contents.heap.len = 0) : ledger.first? = none := by
  rw [Ledger.first?_eq_none_iff, ← List.length_eq_zero_iff, h.length_messages, hempty]

/-- The message at the root is first in the ledger. -/
theorem Represents.first?_eq_some (h : live.Represents ledger)
    (hroot : live.contents.heap.peekMax = some root) :
    ledger.first? = some (live.contents.message root) := by
  apply Ledger.first?_eq_some_of_leads
  · rw [← (h.messages.map Message.number).nodup_iff]
    exact h.sound.nodup_numbers
  · rw [← h.messages.mem_iff]
    exact List.mem_map_of_mem (Heap.peekMax_mem_live hroot)
  · intro other hother
    rw [← h.messages.mem_iff] at hother
    obtain ⟨entry, hentry, rfl⟩ := List.mem_map.mp hother
    exact h.sound.root_leads hroot hentry

/-- What is left of a queue and what is left of its ledger after the first message has gone. -/
theorem Represents.remove (h : live.Represents ledger)
    (hroot : live.contents.heap.peekMax = some root) :
    (live.update (live.contents.afterDequeue root)).Represents
      (ledger.remove (live.contents.message root)) := by
  refine ⟨h.sound.afterDequeue hroot, ?_, h.closed, h.nextSequence⟩
  have hperm := h.sound.toConsistent.messages_afterDequeue hroot
  have herase := (hperm.symm.trans h.messages).erase (live.contents.message root)
  rwa [List.erase_cons_head] at herase

/-- A queue and its ledger after one more message has been accepted. -/
theorem Represents.accept (h : live.Represents ledger) (hnext : ledger.arrivals < 2 ^ 63)
    {slot : Nat} {rest : List Nat} {payload : ByteArray}
    (hfree : live.contents.pool.freeSlots = slot :: rest)
    (hsize : payload.size ≤ live.config.messageSize) (priority : Int) :
    (live.update (live.contents.afterEnqueue slot payload priority)).Represents
      (ledger.accept payload priority) := by
  have hnumber : live.contents.nextSequence.toNat < 2 ^ 63 := h.nextSequence ▸ hnext
  refine ⟨h.sound.afterEnqueue hnumber hfree hsize priority, ?_, h.closed, ?_⟩
  · have hperm := h.sound.toConsistent.messages_afterEnqueue hfree hsize priority
    rw [h.nextSequence] at hperm
    refine hperm.trans ((h.messages.cons _).trans ?_)
    exact (List.perm_append_singleton _ _).symm
  · have htoNat := Contents.toNat_nextSequence_afterEnqueue hnumber slot payload priority
    rw [h.nextSequence] at htoNat
    exact htoNat

/-- **A pass that ends a call ends it like the ledger**, and the queue represents the ledger
afterwards. -/
theorem Represents.turn {outcome : Outcome} {owed : List Signal} {log : List Log.Event}
    (h : live.Represents ledger) (hnext : ledger.arrivals < 2 ^ 63)
    (hturn : live.Turn mayWait request (.leave outcome owed log) live') :
    outcome = (ledger.answer live.config request).1 ∧
      live'.Represents (ledger.answer live.config request).2 := by
  have hnumber : live.contents.nextSequence.toNat < 2 ^ 63 := h.nextSequence ▸ hnext
  cases hturn with
  | oversized hsize =>
      rw [Ledger.answer_of_oversized _ hsize]
      exact ⟨rfl, h⟩
  | sendClosed hsize hclosed =>
      rw [Ledger.answer_of_closed _ hsize (h.closed ▸ hclosed)]
      exact ⟨rfl, h⟩
  | sendFull hsize hopen hfull _ =>
      have hdepth := h.length_eq_depth_iff.mpr hfull
      rw [Ledger.answer_of_full _ hsize (h.closed ▸ hopen) hdepth]
      exact ⟨rfl, h⟩
  | sent hsize hopen hfree _ =>
      have hspace : ledger.messages.length ≠ live.config.depth := by
        rw [Ne, h.length_eq_depth_iff, ← h.sound.pool.length_freeSlots, hfree]
        simp
      rw [Ledger.answer_of_space _ hsize (h.closed ▸ hopen) hspace]
      exact ⟨rfl, h.accept hnext hfree hsize _⟩
  | sendAborted hsize _ hfree hordered =>
      exact absurd (h.sound.afterEnqueue hnumber hfree hsize _).isOrdered hordered
  | received hrequest hroot hroom _ =>
      rw [Ledger.answer_of_hasRoom hrequest (h.first?_eq_some hroot) hroom]
      exact ⟨rfl, h.remove hroot⟩
  | receiveAborted _ hroot _ hordered =>
      exact absurd (h.sound.afterDequeue hroot).isOrdered hordered
  | tooSmall hroot hroom =>
      rw [Ledger.answer_of_lt (h.first?_eq_some hroot) hroom]
      exact ⟨rfl, h⟩
  | drained hrequest hempty hclosed =>
      rw [Ledger.answer_of_first?_eq_none hrequest (h.first?_eq_none hempty), Ledger.emptyCause,
        ← h.closed, hclosed]
      exact ⟨rfl, h⟩
  | receiveEmpty hrequest hempty hopen _ =>
      rw [Ledger.answer_of_first?_eq_none hrequest (h.first?_eq_none hempty), Ledger.emptyCause,
        ← h.closed, hopen]
      exact ⟨rfl, h⟩
  | closes _ => exact ⟨rfl, h.sound.close, h.messages, rfl, h.nextSequence⟩
  | closedBefore hclosed =>
      exact ⟨rfl, h.sound, h.messages, hclosed, h.nextSequence⟩

end Live

/-! ### New queues -/

/-- **A new queue represents the empty ledger.** -/
theorem Live.Represents.new {live : Live} (h : Contents.new live.config = .ok live.contents) :
    live.Represents {} := by
  obtain ⟨-, hlen, hnext, hopen⟩ := Contents.Consistent.new h
  refine ⟨Contents.Sound.new h, ?_, hopen, by simp [hnext]⟩
  rw [Contents.messages_eq_nil_iff.mpr hlen]

/-- **What is created.** The configuration is valid, the contents and the telemetry are new. -/
theorem Queue.of_create {config : Config} {host host' : Host} {queue : Queue}
    (h : (uncreated.create config).runOn host = (.ok queue, host')) :
    config.validate = .ok () ∧ ∃ id contents, Contents.new config = .ok contents ∧
      queue = created { id, config, contents, telemetry := {} } := by
  simp only [create, Action.runOn_bind] at h
  cases hvalid : config.validate with
  | error cause =>
      simp only [hvalid, Action.ofRefusal, Action.runOn_refuse, Prod.mk.injEq] at h
      exact absurd h.1 (by simp)
  | ok _ =>
      cases hnew : Contents.new config with
      | error fault =>
          simp only [hvalid, hnew, Action.ofRefusal, Action.ofFault, Action.runOn_pure,
            Action.runOn_abort, Prod.mk.injEq] at h
          exact absurd h.1 (by simp)
      | ok contents =>
          simp only [hvalid, hnew, Action.ofRefusal, Action.ofFault, Action.runOn_pure] at h
          obtain ⟨hqueue, -⟩ := Prod.mk.inj h
          exact ⟨rfl, _, contents, rfl, (Except.ok.inj hqueue).symm⟩

/-- A queue that has just been created has new contents. -/
theorem Queue.exists_live_of_create {config : Config} {host host' : Host} {queue : Queue}
    (h : (uncreated.create config).runOn host = (.ok queue, host')) :
    ∃ live, queue = created live ∧ live.config = config ∧
      Contents.new live.config = .ok live.contents := by
  obtain ⟨-, id, contents, hnew, rfl⟩ := of_create h
  exact ⟨_, rfl, rfl, hnew⟩

/-- A queue for two messages of two bytes, as it is created in an empty process. -/
def Live.sample : Live where
  id := 1
  config := { name := "sample", depth := 2, messageSize := 2 }
  contents := {
    heap := ⟨#[.blank, .blank], 0, by decide⟩
    pool := {
      arena := ⟨#[0, 0, 0, 0]⟩
      lengths := #[0, 0]
      inUse := #[false, false]
      free := (Array.range 2).reverse
      freeLen := 2
      slotSize := 2 }
    nextSequence := 0
    closed := false }
  telemetry := {}

/-- The sample is what creating it answers. -/
theorem Queue.create_sample :
    (uncreated.create Live.sample.config).runOn {} =
      (.ok (created .sample), ((uncreated.create Live.sample.config).runOn {}).2) := rfl

/-! ### Calls of a caller who is alone -/

/-- A call as it is made: when, what is asked, and how long the caller is willing to wait. -/
structure Call where
  /-- The time of the call. -/
  time : Nat
  /-- What is asked of the queue. -/
  request : Request
  /-- How long the caller is willing to wait. -/
  patience : Patience

namespace Queue

/-- Calls made one after the other by a caller who is alone: how they end, and the queue after
them. There is no result if one of the calls never returns. -/
def performAll (queue : Queue) : List Call → Option (List Finished × Queue)
  | [] => some ([], queue)
  | call :: calls => do
    let (outcome, _, queue) ← queue.perform call.time call.request call.patience
    let (history, queue) ← queue.performAll calls
    return ({ request := call.request, outcome } :: history, queue)

variable {live : Live} {ledger : Ledger}

/-- Who does not wait leaves. -/
theorem exists_leave_of_impatient (h : live.contents.Consistent live.config)
    (request : Request) :
    ∃ outcome owed log live', live.attempt request false = (.leave outcome owed log, live') := by
  have hturn := Live.attempt_turn h request false
  cases hattempt : live.attempt request false with
  | mk pass live' =>
      cases pass with
      | leave outcome owed log => exact ⟨outcome, owed, log, live', rfl⟩
      | park condition =>
          rw [hattempt] at hturn
          exact absurd hturn.eq_of_park.2 (by simp)

/-- A call whose first pass leaves is over. -/
theorem perform_of_leave {now : Nat} {request : Request} {patience : Patience}
    {outcome : Outcome} {owed : List Signal} {log : List Log.Event} {live' : Live}
    (hleave : live.attempt request ((patience.deadline now).allows now) =
      (.leave outcome owed log, live')) :
    (created live).perform now request patience = some (outcome, log, created live') := by
  simp only [perform, attempt, hleave]

/-- A call whose first pass parks makes a second one that leaves, when its deadline comes. Without
a deadline it never returns. -/
theorem perform_of_park (h : live.contents.Consistent live.config) {now : Nat}
    {request : Request} {patience : Patience} {condition : Condition}
    (hpark : (live.attempt request ((patience.deadline now).allows now)).1 = .park condition) :
    (patience.deadline now = .never ∧ (created live).perform now request patience = none) ∨
      ∃ time outcome owed log live', patience.deadline now = .instant time ∧
        live.attempt request false = (.leave outcome owed log, live') ∧
        (created live).perform now request patience = some (outcome, log, created live') := by
  have hturn := Live.attempt_turn h request ((patience.deadline now).allows now)
  cases hattempt : live.attempt request ((patience.deadline now).allows now) with
  | mk pass parked =>
      rw [hattempt] at hpark hturn
      obtain rfl : pass = .park condition := hpark
      obtain ⟨rfl, hwait⟩ := hturn.eq_of_park
      simp only [perform, attempt, hattempt]
      cases hdeadline : patience.deadline now with
      | immediate => simp [hdeadline, Deadline.allows] at hwait
      | never => exact .inl ⟨rfl, rfl⟩
      | instant time =>
          obtain ⟨outcome, owed, log, live', hleave⟩ := exists_leave_of_impatient h request
          refine .inr ⟨time, outcome, owed, log, live', rfl, hleave, ?_⟩
          simp only [hleave]

/-- A call that returns ends with a pass that leaves, and no pass before has changed anything. -/
theorem exists_turn_of_perform (h : live.contents.Consistent live.config) {now : Nat}
    {request : Request} {patience : Patience} {outcome : Outcome} {log : List Log.Event}
    {queue : Queue}
    (hperform : (created live).perform now request patience = some (outcome, log, queue)) :
    ∃ mayWait owed live', queue = created live' ∧
      live.Turn mayWait request (.leave outcome owed log) live' := by
  have hturn (mayWait : Bool) := Live.attempt_turn h request mayWait
  cases hattempt : live.attempt request ((patience.deadline now).allows now) with
  | mk pass live' =>
      cases pass with
      | leave outcome' owed log' =>
          rw [perform_of_leave hattempt] at hperform
          cases hperform
          have hfirst := hturn ((patience.deadline now).allows now)
          rw [hattempt] at hfirst
          exact ⟨_, owed, live', rfl, hfirst⟩
      | park condition =>
          obtain ⟨-, hnone⟩ | ⟨_, outcome', owed, log', last, -, hleave, hsome⟩ :=
            perform_of_park h (congrArg Prod.fst hattempt)
          · rw [hnone] at hperform
            contradiction
          · rw [hsome] at hperform
            cases hperform
            have hsecond := hturn false
            rw [hleave] at hsecond
            exact ⟨_, owed, last, rfl, hsecond⟩

/-- **Which calls return.** A caller who is alone never returns exactly if it has no deadline and
finds nothing of what it waits for. -/
theorem perform_eq_none_iff (h : live.contents.Consistent live.config) {now : Nat}
    {request : Request} {patience : Patience} :
    (created live).perform now request patience = none ↔
      patience.deadline now = .never ∧
        ∃ condition, (live.attempt request true).1 = .park condition := by
  cases hattempt : live.attempt request ((patience.deadline now).allows now) with
  | mk pass live' =>
      cases pass with
      | leave outcome owed log =>
          rw [perform_of_leave hattempt]
          refine ⟨by simp, ?_⟩
          rintro ⟨hnever, condition, hpark⟩
          rw [hnever, Deadline.allows] at hattempt
          rw [hattempt] at hpark
          contradiction
      | park condition =>
          have hpark := congrArg Prod.fst hattempt
          obtain ⟨hnever, hnone⟩ | ⟨time, _, _, _, _, hinstant, -, hsome⟩ :=
            perform_of_park h hpark
          · rw [hnever, Deadline.allows] at hpark
            exact ⟨fun _ => ⟨hnever, condition, hpark⟩, fun _ => hnone⟩
          · rw [hsome, hinstant]
            simp

/-- Calls made one after the other at a queue that represents a ledger. -/
theorem represents_performAll (h : live.Represents ledger) {calls : List Call}
    {history : List Finished} {final : Queue}
    (hcalls : (created live).performAll calls = some (history, final))
    (haccepted : ledger.arrivals + acceptedCount history < 2 ^ 63) :
    history = (ledger.run live.config (calls.map Call.request)).1 ∧
      ∃ live', final = created live' ∧
        live'.Represents (ledger.run live.config (calls.map Call.request)).2 := by
  induction calls generalizing live ledger history with
  | nil =>
      simp only [performAll, Option.some.injEq, Prod.mk.injEq] at hcalls
      obtain ⟨rfl, rfl⟩ := hcalls
      exact ⟨rfl, live, rfl, h⟩
  | cons call calls ih =>
      simp only [performAll, Option.bind_eq_bind, Option.bind_eq_some_iff, Prod.exists,
        Option.pure_def, Option.some.injEq, Prod.mk.injEq] at hcalls
      obtain ⟨outcome, log, queue, hperform, later, final', hlater, rfl, rfl⟩ := hcalls
      obtain ⟨mayWait, owed, live', rfl, hturn⟩ :=
        exists_turn_of_perform h.sound.toConsistent hperform
      rw [acceptedCount_cons] at haccepted
      obtain ⟨rfl, hrepresents⟩ := h.turn (by omega) hturn
      obtain ⟨-, hconfig⟩ := hturn.config_eq
      have harrivals := Ledger.arrivals_answer live.config ledger call.request
      obtain ⟨rfl, hfinal⟩ := ih hrepresents hlater (by omega)
      rw [hconfig] at hfinal ⊢
      exact ⟨rfl, hfinal⟩

/-- **Alone, a queue is its ledger.** Whatever calls are made one after the other at a new queue,
with whatever arguments and however long they wait: if they all return and fewer than `2 ^ 63`
messages are accepted, then they end like the answers of the ledger, and the queue holds the
messages of the ledger, under the same numbers, and is closed if the ledger is. -/
theorem performAll_refines_ledger {config : Config} {host host' : Host} {queue final : Queue}
    {calls : List Call} {history : List Finished}
    (hcreate : (uncreated.create config).runOn host = (.ok queue, host'))
    (hcalls : queue.performAll calls = some (history, final))
    (haccepted : acceptedCount history < 2 ^ 63) :
    history = (Ledger.run config {} (calls.map Call.request)).1 ∧
      ∃ live, final = created live ∧
        live.Represents (Ledger.run config {} (calls.map Call.request)).2 := by
  obtain ⟨live, rfl, rfl, hnew⟩ := exists_live_of_create hcreate
  exact represents_performAll (.new hnew) hcalls (by simpa using haccepted)

/-- Calls that fill the sample, empty it and close it. -/
def sampleCalls : List Call :=
  [⟨0, .send ⟨#[1]⟩ 0, .impatient⟩, ⟨1, .send ⟨#[2, 3]⟩ 5, .unlimited⟩,
    ⟨2, .send ⟨#[4]⟩ 9, .limited 10⟩, ⟨20, .receiveInto ⟨#[]⟩, .impatient⟩,
    ⟨21, .receive, .unlimited⟩, ⟨22, .close, .impatient⟩,
    ⟨23, .receiveInto ⟨#[7, 8]⟩, .impatient⟩, ⟨24, .receive, .unlimited⟩]

/-- The calls at the sample all return, and two of them are accepted. -/
theorem performAll_sampleCalls :
    ∃ history final, (created .sample).performAll sampleCalls = some (history, final) ∧
      acceptedCount history = 2 ∧
      history = (Ledger.run Live.sample.config {} (sampleCalls.map Call.request)).1 := by
  have hcount : ((created .sample).performAll sampleCalls).map (fun r => acceptedCount r.1) =
      some 2 := by decide +kernel
  obtain ⟨⟨history, final⟩, hcalls, haccepted⟩ := Option.map_eq_some_iff.mp hcount
  refine ⟨history, final, hcalls, haccepted, ?_⟩
  exact (performAll_refines_ledger create_sample hcalls (by simp only [haccepted]; decide)).1

end Queue

end StableQueue
