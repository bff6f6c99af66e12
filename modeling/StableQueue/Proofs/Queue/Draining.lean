import StableQueue.Proofs.Heap.Drain
import StableQueue.Proofs.Ledger.Conservation
import StableQueue.Proofs.Queue.Sound

/-!
# Turns at a Closed Queue

`Contents.inOrder` lists the queued messages in the order in which the heap gives them out. A closed
queue takes no message in, so what it hands out is a prefix of that list, and nobody is told to try
again later: every call ends, and ends for good.

## Main results

* `Contents.Sound.pairwise_inOrder`: the order in which messages are handed out.
* `Live.Turn.conclusive`: how a pass through the lock of a closed queue ends.
* `Live.Turn.inOrder_eq`: what is handed out by such a pass, and what is left.
-/

namespace StableQueue

/-! ### The queued messages in order -/

namespace Contents

/-- The queued messages in the order in which the heap gives them out. -/
def inOrder (contents : Contents) : List Message := contents.heap.drain.map contents.message

variable {contents : Contents} {config : Config} {root : Entry}

/-- Every queued message is listed. -/
theorem inOrder_perm (contents : Contents) : contents.inOrder.Perm contents.messages :=
  (Heap.drain_perm contents.heap).map contents.message

/-- The message at the root is listed first, and then what is left when it has been taken out. -/
theorem Consistent.inOrder_of_peekMax (h : contents.Consistent config)
    (hroot : contents.heap.peekMax = some root) :
    contents.inOrder = contents.message root :: (contents.afterDequeue root).inOrder := by
  have hothers : ∀ entry ∈ contents.heap.extractMax.2.drain,
      contents.message entry = (contents.afterDequeue root).message entry := by
    intro entry hentry
    exact (h.message_afterDequeue hroot ((Heap.drain_perm _).mem_iff.mp hentry)).symm
  rw [inOrder, Heap.drain_of_peekMax hroot, List.map_cons, List.map_congr_left hothers]
  rfl

/-- **Messages are listed in the order in which they lead each other.** -/
theorem Sound.pairwise_inOrder (h : contents.Sound config) :
    contents.inOrder.Pairwise fun earlier later => ¬ later.Leads earlier := by
  have hleads : contents.inOrder.Pairwise Message.Leads := by
    rw [inOrder, List.pairwise_map]
    refine (Heap.pairwise_drain h.isOrdered h.coherent).imp_of_mem ?_
    intro earlier later hearlier hlater hnot
    exact h.leads_of_outranks_eq_false ((Heap.drain_perm _).mem_iff.mp hearlier)
      ((Heap.drain_perm _).mem_iff.mp hlater) hnot
  have hnumbers : contents.inOrder.Pairwise fun earlier later =>
      earlier.number ≠ later.number := by
    rw [← List.pairwise_map (f := Message.number), ← List.nodup_iff_pairwise_ne]
    exact ((contents.inOrder_perm.map Message.number).nodup_iff).mpr h.nodup_numbers
  refine (hleads.and hnumbers).imp fun hboth hleads => ?_
  exact hboth.2 (hboth.1.number_eq hleads)

end Contents

/-! ### Turns -/

/-- The call has not added a message, and its caller is not told to try again later. -/
structure Finished.Conclusive (call : Finished) : Prop where
  /-- No message has been accepted. -/
  not_accepted : call.isAccepted = false
  /-- The queue was neither full nor empty. -/
  not_transient : ∀ cause, call.outcome.result = .error (.refused cause) →
    cause.isTransient = false

namespace Live

variable {live live' : Live} {mayWait : Bool} {request : Request} {pass : Pass}
  {outcome : Outcome} {owed : List Signal} {log : List Log.Event}

/-- **At a closed queue every pass ends a call**, and the queue stays closed. -/
theorem Turn.conclusive (h : live.Turn mayWait request pass live')
    (hclosed : live.contents.closed = true) :
    live'.contents.closed = true ∧ ∃ outcome owed log,
      pass = .leave outcome owed log ∧ (Finished.mk request outcome).Conclusive := by
  have hrefused (request : Request) (cause : Refusal) (hcause : cause.isTransient = false) :
      (Finished.mk request (.refused request cause)).Conclusive := by
    refine ⟨by cases request <;> rfl, fun other hother => ?_⟩
    cases hother
    exact hcause
  cases h with
  | oversized _ => exact ⟨hclosed, _, _, _, rfl, hrefused _ _ rfl⟩
  | sendClosed _ _ => exact ⟨hclosed, _, _, _, rfl, hrefused _ _ rfl⟩
  | received hrequest _ _ _ =>
      refine ⟨hclosed, _, _, _, rfl, ?_⟩
      obtain rfl | ⟨buffer, rfl⟩ := Request.awaits_eq_notEmpty_iff.mp hrequest
      · exact ⟨rfl, by simp [Request.delivery]⟩
      · exact ⟨rfl, by simp [Request.delivery]⟩
  | receiveAborted hrequest _ _ _ =>
      refine ⟨hclosed, _, _, _, rfl, ?_⟩
      obtain rfl | ⟨buffer, rfl⟩ := Request.awaits_eq_notEmpty_iff.mp hrequest
      · exact ⟨rfl, by simp⟩
      · exact ⟨rfl, by simp⟩
  | tooSmall _ _ => exact ⟨hclosed, _, _, _, rfl, hrefused _ _ rfl⟩
  | drained _ _ _ => exact ⟨hclosed, _, _, _, rfl, hrefused _ _ rfl⟩
  | closedBefore _ => exact ⟨hclosed, _, _, _, rfl, rfl, by simp⟩
  | sendWaits _ hopen _ _ => simp [hclosed] at hopen
  | sendFull _ hopen _ _ => simp [hclosed] at hopen
  | sent _ hopen _ _ => simp [hclosed] at hopen
  | sendAborted _ hopen _ _ => simp [hclosed] at hopen
  | receiveWaits _ _ hopen _ => simp [hclosed] at hopen
  | receiveEmpty _ _ hopen _ => simp [hclosed] at hopen
  | closes hopen => simp [hclosed] at hopen

/-- Who has a payload that fits is told that the queue is closed. -/
theorem Turn.sendClosed_of_closed {payload : ByteArray} {priority : Int}
    (h : live.Turn mayWait (.send payload priority) (.leave outcome owed log) live')
    (hclosed : live.contents.closed = true) (hsize : payload.size ≤ live.config.messageSize) :
    outcome = .refused (.send payload priority) .closed := by
  cases h with
  | oversized hlt => omega
  | sendClosed _ _ => rfl
  | sendFull _ hopen _ _ => simp [hclosed] at hopen
  | sent _ hopen _ _ => simp [hclosed] at hopen
  | sendAborted _ hopen _ _ => simp [hclosed] at hopen
  | received hrequest _ _ _ => simp [Request.awaits] at hrequest
  | receiveAborted hrequest _ _ _ => simp [Request.awaits] at hrequest
  | drained hrequest _ _ => simp [Request.awaits] at hrequest
  | receiveEmpty hrequest _ _ _ => simp [Request.awaits] at hrequest

/-- A receiver who finds nothing is told that the queue is closed. -/
theorem Turn.drained_of_closed
    (h : live.Turn mayWait request (.leave outcome owed log) live')
    (hclosed : live.contents.closed = true) (hrequest : request.awaits = some .notEmpty)
    (hempty : live.contents.heap.len = 0) : outcome = .refused request .closed := by
  have hroot {root : Entry} (hsome : live.contents.heap.peekMax = some root) : False := by
    have := (Heap.peekMax_eq_some_iff.mp hsome).1
    omega
  cases h with
  | received _ hsome _ _ => exact (hroot hsome).elim
  | receiveAborted _ hsome _ _ => exact (hroot hsome).elim
  | tooSmall hsome _ => exact (hroot hsome).elim
  | drained _ _ _ => rfl
  | receiveEmpty _ _ hopen _ => simp [hclosed] at hopen
  | _ => simp [Request.awaits] at hrequest

/-- **Who closes a queue succeeds.** Only the first time has an effect, and is recorded. -/
theorem Turn.close_cases (h : live.Turn mayWait .close pass live') :
    (live.contents.closed = false ∧ live' = live.afterClose ∧
      pass = .leave { result := .ok .done } [.all .notEmpty, .all .notFull]
        [.closed live.config.name]) ∨
    (live.contents.closed = true ∧ live' = live ∧
      pass = .leave { result := .ok .done } [] []) := by
  cases h with
  | received hrequest _ _ _ => simp [Request.awaits] at hrequest
  | receiveAborted hrequest _ _ _ => simp [Request.awaits] at hrequest
  | drained hrequest _ _ => simp [Request.awaits] at hrequest
  | receiveWaits hrequest _ _ _ => simp [Request.awaits] at hrequest
  | receiveEmpty hrequest _ _ _ => simp [Request.awaits] at hrequest
  | closes hopen => exact .inl ⟨hopen, rfl, rfl⟩
  | closedBefore hclosed => exact .inr ⟨hclosed, rfl, rfl⟩

/-- Who closes a queue is told so, and leaves it closed. -/
theorem Turn.of_close (h : live.Turn mayWait .close pass live') :
    (∃ owed log, pass = .leave { result := .ok .done } owed log) ∧
      live'.contents.closed = true := by
  obtain ⟨-, rfl, hpass⟩ | ⟨hclosed, rfl, hpass⟩ := h.close_cases
  · exact ⟨⟨_, _, hpass⟩, rfl⟩
  · exact ⟨⟨_, _, hpass⟩, hclosed⟩

/-- **Who makes a queue closed** asked for that, and owes a wake-up to everyone. -/
theorem Turn.announces (h : live.Turn mayWait request (.leave outcome owed log) live')
    (hopen : live.contents.closed = false) (hclosed : live'.contents.closed = true) :
    request = .close ∧ ∀ condition, .all condition ∈ owed := by
  cases h with
  | closes _ => exact ⟨rfl, fun condition => by cases condition <;> simp⟩
  | sent _ _ _ _ => simp [update, publish, Contents.afterEnqueue, hopen] at hclosed
  | sendAborted _ _ _ _ => simp [Contents.afterEnqueue, hopen] at hclosed
  | received _ _ _ _ => simp [update, publish, Contents.afterDequeue, hopen] at hclosed
  | receiveAborted _ _ _ _ => simp [Contents.afterDequeue, hopen] at hclosed
  | _ => simp [hopen] at hclosed

/-- A closed queue does not fill up again. -/
theorem Turn.len_le_of_closed (h : live.Turn mayWait request pass live')
    (hclosed : live.contents.closed = true) :
    live'.contents.heap.len ≤ live.contents.heap.len := by
  cases h with
  | sent _ hopen _ _ => simp [hclosed] at hopen
  | sendAborted _ hopen _ _ => simp [hclosed] at hopen
  | received _ _ _ _ => exact (Contents.len_afterDequeue).trans_le (Nat.sub_le _ _)
  | receiveAborted _ _ _ _ => exact (Contents.len_afterDequeue).trans_le (Nat.sub_le _ _)
  | _ => exact Nat.le_refl _

/-- A pass that is not aborted leaves the heap in order. -/
theorem Turn.isOrdered (h : live.Turn mayWait request (.leave outcome owed log) live')
    (hordered : live.contents.heap.IsOrdered)
    (hfault : (Finished.mk request outcome).isFaulted = false) :
    live'.contents.heap.IsOrdered := by
  cases h with
  | sent _ _ _ hafter => exact hafter
  | sendAborted _ _ _ _ => simp [Finished.isFaulted] at hfault
  | received _ _ _ hafter => exact hafter
  | receiveAborted _ _ _ _ => simp [Finished.isFaulted] at hfault
  | _ => exact hordered

/-- At a closed queue with coherent entries in order no pass is aborted, and the entries that are
left are coherent. -/
theorem Turn.coherent (h : live.Turn mayWait request (.leave outcome owed log) live')
    (hclosed : live.contents.closed = true) (hordered : live.contents.heap.IsOrdered)
    (hcoherent : Entry.Coherent live.contents.heap.live) :
    (Finished.mk request outcome).isFaulted = false ∧
      Entry.Coherent live'.contents.heap.live := by
  cases h with
  | sent _ hopen _ _ => simp [hclosed] at hopen
  | sendAborted _ hopen _ _ => simp [hclosed] at hopen
  | received _ _ _ _ =>
      exact ⟨by cases request <;> rfl, Heap.coherent_extractMax hcoherent⟩
  | receiveAborted _ _ _ hafter =>
      exact absurd (Heap.isOrdered_extractMax hordered hcoherent) hafter
  | _ => exact ⟨rfl, hcoherent⟩

/-- **What a closed queue hands out stands in front of what it keeps.** -/
theorem Turn.inOrder_eq (h : live.Turn mayWait request (.leave outcome owed log) live')
    (hlive : live.contents.Consistent live.config) (hclosed : live.contents.closed = true)
    (hfault : (Finished.mk request outcome).isFaulted = false) :
    live.contents.inOrder =
      StableQueue.received [⟨request, outcome⟩] ++ live'.contents.inOrder := by
  cases h with
  | sendFull _ hopen _ _ => simp [hclosed] at hopen
  | sent _ hopen _ _ => simp [hclosed] at hopen
  | sendAborted _ hopen _ _ => simp [hclosed] at hopen
  | @received _ root hrequest hroot _ _ =>
      have hnumber : (live.contents.message root).number < 2 ^ 64 := root.sequence.toNat_lt
      rw [received_singleton, Finished.delivered?_delivery hrequest hnumber,
        hlive.inOrder_of_peekMax hroot]
      rfl
  | receiveAborted _ _ _ _ => simp [Finished.isFaulted] at hfault
  | _ => rfl

end Live

end StableQueue
