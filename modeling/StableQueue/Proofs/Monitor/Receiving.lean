import StableQueue.Proofs.Monitor.Linearization
import StableQueue.Proofs.Queue.Objections

/-!
# Receiving With a Buffer and Without

There are two ways to receive a message. One hands out the payload in a buffer of its own; the other
looks at the first message, compares its length with the buffer of the caller, and then takes a
message out and copies its payload. They agree: at one and the same queue both get the same message
and leave the same queue behind, or both are refused for the same reason. The only difference is a
message that the buffer cannot hold, and that one stays where it is.

This is said of every queue that can be reached, by any calls in any order. There the message that
is looked at is the one that is taken out, its recorded length is the length of its payload, and
the copy of a payload that fits never fails. So no message is taken out and lost.

## Main results

* `Queue.Reached.cases`, `Queue.Reached.wellFormed`, `Queue.Reached.not_faulted`: what is known of a
  queue that can be reached.
* `Live.Turn.of_empty`, `Live.Turn.of_root`, `Live.Turn.of_root_of_lt`: how a pass of a receiver
  goes, given what is queued.
* `Queue.receiveInto_agrees`: the two ways of receiving at every queue that can be reached.
-/

namespace StableQueue

/-! ### Queues that can be reached -/

/-- A queue as it can be found whenever nobody holds its lock, and the calls that have ended
there. -/
inductive Queue.Reached : List Finished → Queue → Prop
  /-- The queue has not been created. -/
  | uncreated : Reached [] .uncreated
  /-- The queue has been created, and callers have come to it. -/
  | created {config : Config} {host host' : Host} {queue : Queue} {monitor : Monitor}
      {history : List (Visit × Outcome)}
      (hcreate : (Queue.uncreated.create config).runOn host = (.ok queue, host'))
      (hrun : Monitor.Run { queue } history monitor) :
      Reached (Monitor.finished history) monitor.queue

/-- **What is known of a queue that can be reached.** A created one is consistent, and its heap
stays in order as long as fewer than `2 ^ 63` messages have been accepted. -/
theorem Queue.Reached.cases {history : List Finished} {queue : Queue}
    (h : queue.Reached history) :
    queue = .uncreated ∨ ∃ live, queue = .created live ∧
      live.contents.Consistent live.config ∧
      (acceptedCount history < 2 ^ 63 → live.contents.Sound live.config) := by
  cases h with
  | uncreated => exact .inl rfl
  | @created config _ _ queue monitor history hcreate hrun =>
      obtain ⟨new, rfl, rfl, hnew⟩ := Queue.exists_live_of_create hcreate
      obtain ⟨live, hqueue, -, hlive⟩ := hrun.exists_live rfl (Contents.Consistent.new hnew).1
      refine .inr ⟨live, hqueue, hlive, fun haccepted => ?_⟩
      exact (hrun.represents_of_queue hcreate haccepted hqueue).2.sound

/-- A queue that can be reached has consistent contents. -/
theorem Queue.Reached.wellFormed {history : List Finished} {queue : Queue}
    (h : queue.Reached history) : queue.WellFormed := by
  rintro live rfl
  obtain hnone | ⟨same, hsame, hlive, -⟩ := h.cases
  · contradiction
  · obtain rfl := Queue.created.inj hsame
    exact hlive

/-- **No pass is aborted** at a queue that can be reached with fewer than `2 ^ 63` messages. -/
theorem Queue.Reached.not_faulted {history : List Finished} {queue after : Queue}
    (h : queue.Reached history) (hfew : acceptedCount history < 2 ^ 63) {request : Request}
    {mayWait : Bool} {outcome : Outcome} {owed : List Signal} {log : List Log.Event}
    (hleave : queue.attempt request mayWait = (.leave outcome owed log, after)) (fault : Fault) :
    outcome.result ≠ .error (.faulted fault) := by
  cases h with
  | uncreated =>
      cases hleave
      simp
  | @created config _ _ _ monitor history hcreate hrun =>
      obtain ⟨hfinished, live, hqueue, hconfig, hlive⟩ := hrun.represents_of_create hcreate hfew
      have harrivals := Ledger.arrivals_run config {} (Monitor.requests history)
      rw [← hfinished] at harrivals
      have hturn := Live.attempt_turn hlive.sound.toConsistent request mayWait
      have hpass : (live.attempt request mayWait).1 = .leave outcome owed log := by
        rw [hqueue] at hleave
        exact congrArg Prod.fst hleave
      rw [hpass] at hturn
      obtain ⟨rfl, -⟩ := hlive.turn (by rw [harrivals]; simpa using hfew) hturn
      intro hfaulted
      have hnot := Ledger.answer_not_faulted live.config
        (Ledger.run config {} (Monitor.requests history)).2 request
      simp [Finished.isFaulted, hfaulted] at hnot

/-! ### Passes of a receiver -/

namespace Live

variable {live live' : Live} {mayWait : Bool} {request : Request} {pass : Pass} {root : Entry}
  {buffer : ByteArray}

/-- The way in which a pass of a receiver goes who finds nothing. -/
theorem Turn.of_empty (h : live.Turn mayWait request pass live')
    (hrequest : request.awaits = some .notEmpty) (hempty : live.contents.heap.len = 0) :
    live' = live ∧ pass =
      if live.contents.closed then .refuse request .closed []
      else if mayWait then .park .notEmpty else .refuse request .empty [] := by
  have hroot {root : Entry} (hsome : live.contents.heap.peekMax = some root) : False := by
    have := (Heap.peekMax_eq_some_iff.mp hsome).1
    omega
  cases h with
  | received _ hsome _ _ => exact (hroot hsome).elim
  | receiveAborted _ hsome _ _ => exact (hroot hsome).elim
  | tooSmall hsome _ => exact (hroot hsome).elim
  | drained _ _ hclosed => simp [hclosed]
  | receiveWaits _ _ hopen hwait => simp [hopen, hwait]
  | receiveEmpty _ _ hopen hwait => simp [hopen, hwait]
  | _ => simp [Request.awaits] at hrequest

/-- The way in which a pass of a receiver goes who has room for the first message. -/
theorem Turn.of_root (h : live.Turn mayWait request pass live')
    (hrequest : request.awaits = some .notEmpty) (hroot : live.contents.heap.peekMax = some root)
    (hroom : request.hasRoom (live.contents.message root) = true) :
    (pass, live') =
      if (live.contents.afterDequeue root).heap.IsOrdered then
        (.leave (request.delivery (live.contents.message root)) [.one .notFull]
          [.received live.config.name (live.contents.afterDequeue root).occupancy],
          live.update (live.contents.afterDequeue root))
      else (.leave ⟨.error (.faulted .heapOrder), request.buffer⟩ [] [],
        { live with contents := live.contents.afterDequeue root }) := by
  have hlen : live.contents.heap.len ≠ 0 :=
    Nat.pos_iff_ne_zero.mp (Heap.peekMax_eq_some_iff.mp hroot).1
  cases h with
  | received _ hsome _ hordered =>
      obtain rfl := Option.some.inj (hroot.symm.trans hsome)
      rw [if_pos hordered]
  | receiveAborted _ hsome _ hordered =>
      obtain rfl := Option.some.inj (hroot.symm.trans hsome)
      rw [if_neg hordered]
  | tooSmall hsome hlt =>
      obtain rfl := Option.some.inj (hroot.symm.trans hsome)
      rw [Request.hasRoom, decide_eq_true_eq] at hroom
      omega
  | drained _ hempty _ => exact absurd hempty hlen
  | receiveWaits _ hempty _ _ => exact absurd hempty hlen
  | receiveEmpty _ hempty _ _ => exact absurd hempty hlen
  | _ => simp [Request.awaits] at hrequest

/-- The way in which a pass of a receiver goes who has no room for the first message. -/
theorem Turn.of_root_of_lt (h : live.Turn mayWait (.receiveInto buffer) pass live')
    (hroot : live.contents.heap.peekMax = some root)
    (hroom : buffer.size < (live.contents.message root).payload.size) :
    live' = live ∧ pass = .leave (.refused (.receiveInto buffer)
      (.bufferTooSmall (live.contents.message root).payload.size buffer.size))
        [.one .notEmpty] [] := by
  have hlen : live.contents.heap.len ≠ 0 :=
    Nat.pos_iff_ne_zero.mp (Heap.peekMax_eq_some_iff.mp hroot).1
  have hsmall : (Request.receiveInto buffer).hasRoom (live.contents.message root) ≠ true := by
    simpa [Request.hasRoom] using hroom
  cases h with
  | received _ hsome hfits _ =>
      obtain rfl := Option.some.inj (hroot.symm.trans hsome)
      exact absurd hfits hsmall
  | receiveAborted _ hsome hfits _ =>
      obtain rfl := Option.some.inj (hroot.symm.trans hsome)
      exact absurd hfits hsmall
  | tooSmall hsome _ =>
      obtain rfl := Option.some.inj (hroot.symm.trans hsome)
      exact ⟨rfl, rfl⟩
  | drained _ hempty _ => exact absurd hempty hlen
  | receiveWaits _ hempty _ _ => exact absurd hempty hlen
  | receiveEmpty _ hempty _ _ => exact absurd hempty hlen

end Live

/-! ### The two ways of receiving -/

namespace Queue

/-- How two calls that find the same queue compare: the first receives without a buffer, the second
into the given one. Of each call the outcome, the records and the queue after it are named. -/
inductive Alike (queue : Queue) (buffer : ByteArray) (accepted : Nat) :
    Outcome × List Log.Event × Queue → Outcome × List Log.Event × Queue → Prop
  /-- Both are refused for the same reason, and nothing has changed. -/
  | refused {cause : Refusal} (hcause : ∀ len capacity, cause ≠ .bufferTooSmall len capacity) :
      Alike queue buffer accepted
        (⟨.error (.refused cause), .empty⟩, [], queue)
        (⟨.error (.refused cause), buffer⟩, [], queue)
  /-- Both receive the same message. The payload is at the front of the buffer, and the rest of the
  buffer is as it was. -/
  | received {header : Header} {payload : ByteArray} {log : List Log.Event} {after : Queue}
      (hlength : header.length = payload.size) (hroom : payload.size ≤ buffer.size) :
      Alike queue buffer accepted
        (⟨.ok (.message header payload), .empty⟩, log, after)
        (⟨.ok (.filled header), payload ++ buffer.extract payload.size buffer.size⟩, log, after)
  /-- The first receives a message that the second has no room for. The second changes nothing. -/
  | tooSmall {header : Header} {payload : ByteArray} {log : List Log.Event} {after : Queue}
      (hlength : header.length = payload.size) (hroom : buffer.size < payload.size) :
      Alike queue buffer accepted
        (⟨.ok (.message header payload), .empty⟩, log, after)
        (⟨.error (.refused (.bufferTooSmall payload.size buffer.size)), buffer⟩, [], queue)
  /-- Too many messages have been accepted, and both find the heap out of order once the message has
  been taken out. -/
  | aborted {copied : ByteArray} {after : Queue} (hmany : 2 ^ 63 ≤ accepted) :
      Alike queue buffer accepted
        (⟨.error (.faulted .heapOrder), .empty⟩, [], after)
        (⟨.error (.faulted .heapOrder), copied⟩, [], after)
  /-- Too many messages have been accepted, and the first finds the heap out of order. The second
  has no room for the message, and changes nothing. -/
  | abortedOrTooSmall {len : Nat} {after : Queue} (hmany : 2 ^ 63 ≤ accepted)
      (hroom : buffer.size < len) :
      Alike queue buffer accepted
        (⟨.error (.faulted .heapOrder), .empty⟩, [], after)
        (⟨.error (.refused (.bufferTooSmall len buffer.size)), buffer⟩, [], queue)

variable {live : Live} {accepted : Nat}

/-- The two ways of receiving agree at a queue with consistent contents. -/
theorem alike_of_consistent (h : live.contents.Consistent live.config)
    (hsound : accepted < 2 ^ 63 → live.contents.Sound live.config) (now : Nat)
    (buffer : ByteArray) :
    ∃ first second, (created live).perform now .receive .impatient = some first ∧
      (created live).perform now (.receiveInto buffer) .impatient = some second ∧
      (created live).Alike buffer accepted first second := by
  have hplain := Live.attempt_turn h .receive false
  have hinto := Live.attempt_turn h (.receiveInto buffer) false
  rcases Nat.eq_zero_or_pos live.contents.heap.len with hempty | hpos
  · obtain ⟨hsame, hpass⟩ := hplain.of_empty rfl hempty
    obtain ⟨hsame', hpass'⟩ := hinto.of_empty rfl hempty
    cases hclosed : live.contents.closed with
    | true =>
        simp only [hclosed, ↓reduceIte] at hpass hpass'
        exact ⟨_, _, perform_of_leave (Prod.ext hpass hsame),
          perform_of_leave (Prod.ext hpass' hsame'), .refused (by simp)⟩
    | false =>
        simp only [hclosed, Bool.false_eq_true, ↓reduceIte] at hpass hpass'
        exact ⟨_, _, perform_of_leave (Prod.ext hpass hsame),
          perform_of_leave (Prod.ext hpass' hsame'), .refused (by simp)⟩
  · obtain ⟨root, hroot⟩ := Heap.exists_peekMax hpos
    have hfirst := hplain.of_root rfl hroot rfl
    have hlength : (live.contents.message root).header.length =
        (live.contents.message root).payload.size := rfl
    by_cases hroom : buffer.size < (live.contents.message root).payload.size
    · obtain ⟨hsame', hpass'⟩ := hinto.of_root_of_lt hroot hroom
      split at hfirst
      · exact ⟨_, _, perform_of_leave hfirst, perform_of_leave (Prod.ext hpass' hsame'),
          .tooSmall hlength hroom⟩
      · rename_i hordered
        refine ⟨_, _, perform_of_leave hfirst, perform_of_leave (Prod.ext hpass' hsame'),
          .abortedOrTooSmall ?_ hroom⟩
        exact Nat.not_lt.mp fun hfew => hordered ((hsound hfew).afterDequeue hroot).isOrdered
    · have hfits : (Request.receiveInto buffer).hasRoom (live.contents.message root) = true := by
        simpa [Request.hasRoom] using hroom
      have hsecond := hinto.of_root rfl hroot hfits
      split at hfirst
      · rename_i hordered
        rw [if_pos hordered] at hsecond
        exact ⟨_, _, perform_of_leave hfirst, perform_of_leave hsecond,
          .received hlength (Nat.not_lt.mp hroom)⟩
      · rename_i hordered
        rw [if_neg hordered] at hsecond
        refine ⟨_, _, perform_of_leave hfirst, perform_of_leave hsecond, .aborted ?_⟩
        exact Nat.not_lt.mp fun hfew => hordered ((hsound hfew).afterDequeue hroot).isOrdered

/-- **The two ways of receiving agree** at every queue that can be reached, for every buffer. In
particular the payload that the root of the heap refers to can be read, and copying it into a buffer
that can hold it does not fail. -/
theorem receiveInto_agrees {history : List Finished} {queue : Queue}
    (hqueue : queue.Reached history) (now : Nat) (buffer : ByteArray) :
    (∃ first second, queue.perform now .receive .impatient = some first ∧
      queue.perform now (.receiveInto buffer) .impatient = some second ∧
      queue.Alike buffer (acceptedCount history) first second) ∧
    ∀ live root, queue = created live → live.contents.heap.peekMax = some root →
      ∃ payload, live.contents.pool.payload root.slot = .ok payload ∧
        (payload.size ≤ buffer.size → ∃ copied,
          live.contents.pool.readInto root.slot buffer = .ok (.ok payload.size, copied)) := by
  obtain rfl | ⟨live, rfl, hlive, hsound⟩ := hqueue.cases
  · refine ⟨⟨_, _, rfl, rfl, .refused (by simp)⟩, ?_⟩
    intro live root hlive
    contradiction
  · refine ⟨alike_of_consistent hlive hsound now buffer, ?_⟩
    intro same root hsame hroot
    obtain rfl := created.inj hsame
    have hslot := hlive.pool.lt_of_isInUse (hlive.isInUse (Heap.peekMax_mem_live hroot))
    exact ⟨_, hlive.pool.payload_eq hslot, fun hroom => ⟨_, hlive.pool.readInto_eq hslot hroom⟩⟩

/-- The two ways of receiving agree at the sample while its message is queued. The buffer has room
for it, and a byte more. -/
theorem receiveInto_agrees_sampleSent :
    Monitor.sampleSent.queue.Reached (Monitor.finished Monitor.sampleHistory) ∧
      ∃ first second, Monitor.sampleSent.queue.perform 0 .receive .impatient = some first ∧
        Monitor.sampleSent.queue.perform 0 (.receiveInto ⟨#[8, 9]⟩) .impatient = some second ∧
        Monitor.sampleSent.queue.Alike ⟨#[8, 9]⟩ 1 first second := by
  have hreached := Reached.created create_sample Monitor.sample_run
  have hone : acceptedCount (Monitor.finished Monitor.sampleHistory) = 1 := by decide +kernel
  have hagree := (receiveInto_agrees hreached 0 ⟨#[8, 9]⟩).1
  rw [hone] at hagree
  exact ⟨hreached, hagree⟩

end Queue

end StableQueue
