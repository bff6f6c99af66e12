import StableQueue.Proofs.Heap.Live
import StableQueue.Proofs.Ledger.Basic
import StableQueue.Proofs.SlotPool.WellFormed
import StableQueue.Queue.Contents

/-!
# Heap and Slot Pool Together

Every queued message has an entry in the heap and a slot in the pool. `Contents.Consistent` says
that the two agree: the slots of the live entries are pairwise different, and they are the slots in
use. It says nothing of the order of the entries, and it survives whatever is queued.

Adding a message and taking one out leave definite contents behind, named `afterEnqueue` and
`afterDequeue`. Both operations check the heap order at their end; that check is the only one that
can fail on consistent contents.

## Main results

* `runOn_enqueue`, `runOn_dequeueWith`: what the two operations do on consistent contents.
* `Consistent.afterEnqueue`, `Consistent.afterDequeue`: the contents stay consistent.
* `messages_afterEnqueue`, `messages_afterDequeue`: one message more, one message less, and no
  other message is touched.
-/

namespace StableQueue

namespace Contents

/-- The message that an entry stands for. -/
def message (contents : Contents) (entry : Entry) : Message where
  priority := entry.priority
  number := entry.sequence.toNat
  payload := contents.pool.bytes entry.slot

/-- The queued messages, in the order in which their entries lie in the heap. -/
def messages (contents : Contents) : List Message := contents.heap.live.map contents.message

/-- The slots of the queued messages. -/
def slots (contents : Contents) : List Nat := contents.heap.live.map Entry.slot

/-- Heap and slot pool agree on what is queued, and have the size that was asked for. -/
structure Consistent (contents : Contents) (config : Config) : Prop where
  /-- The tables of the pool agree with each other. -/
  pool : contents.pool.WellFormed
  /-- There is a slot for every message. -/
  slotCount : contents.pool.slotCount = config.depth
  /-- Every slot has room for the largest message. -/
  slotSize : contents.pool.slotSize = config.messageSize
  /-- There is an entry for every message. -/
  capacity : contents.heap.capacity = config.depth
  /-- No two messages share a slot. -/
  nodup_slots : contents.slots.Nodup
  /-- The slots of the messages are the slots in use. -/
  mem_slots : ∀ slot, slot ∈ contents.slots ↔ contents.pool.isInUse slot = true

variable {contents : Contents} {config : Config} {entry : Entry} {slot : Nat} {rest : List Nat}
  {payload : ByteArray} {priority : Int}

/-- There are as many messages as positions of the heap in use. -/
@[simp] theorem length_messages : contents.messages.length = contents.heap.len := by
  simp [messages]

/-- Nothing is queued exactly if the heap is empty. -/
theorem messages_eq_nil_iff : contents.messages = [] ↔ contents.heap.len = 0 := by
  rw [← List.length_eq_zero_iff, length_messages]

/-- The slot of a live entry is in use. -/
theorem Consistent.isInUse (h : contents.Consistent config) (hentry : entry ∈ contents.heap.live) :
    contents.pool.isInUse entry.slot = true :=
  (h.mem_slots entry.slot).mp (List.mem_map_of_mem hentry)

/-- **Messages and free slots add up to the depth.** -/
theorem Consistent.len_add_freeCount (h : contents.Consistent config) :
    contents.heap.len + contents.pool.freeCount = config.depth := by
  have hperm : (contents.slots ++ contents.pool.freeSlots).Perm
      (List.range contents.pool.slotCount) := by
    rw [List.perm_ext_iff_of_nodup _ List.nodup_range]
    · intro slot
      rw [List.mem_append, h.mem_slots, h.pool.mem_freeSlots, List.mem_range]
      constructor
      · rintro (hused | ⟨hlt, -⟩)
        · exact h.pool.lt_of_isInUse hused
        · exact hlt
      · intro hlt
        cases hused : contents.pool.isInUse slot with
        | true => exact .inl rfl
        | false => exact .inr ⟨hlt, rfl⟩
    · rw [List.nodup_append]
      refine ⟨h.nodup_slots, h.pool.nodup_freeSlots, ?_⟩
      rintro slot hslot other hother rfl
      have hused := (h.mem_slots slot).mp hslot
      rw [((h.pool.mem_freeSlots slot).mp hother).2] at hused
      contradiction
  have hlength := hperm.length_eq
  rw [List.length_append, h.pool.length_freeSlots, List.length_range, h.slotCount] at hlength
  simpa [slots] using hlength

/-- There are no more messages than there is room for. -/
theorem Consistent.occupancy_le (h : contents.Consistent config) :
    contents.occupancy ≤ config.depth := by
  rw [occupancy, ← h.len_add_freeCount]
  exact Nat.le_add_right _ _

/-- While there is space, the heap has room for another entry. -/
theorem Consistent.len_lt (h : contents.Consistent config)
    (hfree : contents.pool.freeSlots = slot :: rest) :
    contents.heap.len < contents.heap.capacity := by
  have hsum := h.len_add_freeCount
  rw [← h.pool.length_freeSlots, hfree, List.length_cons] at hsum
  rw [h.capacity]
  omega

/-- While there is space, the stack has a slot on top. -/
theorem Consistent.exists_freeSlots (h : contents.Consistent config)
    (hspace : contents.hasSpace = true) :
    ∃ slot rest, contents.pool.freeSlots = slot :: rest := by
  simp only [hasSpace, decide_eq_true_eq, ← h.pool.length_freeSlots] at hspace
  exact List.exists_cons_of_length_pos hspace

/-- What the check at the end of both operations comes to: the number of messages always adds up,
so only the heap order is in question. -/
theorem Consistent.runOn_checkSync {α : Type} (h : contents.Consistent config) (answer : α) :
    (do checkSync; return answer : Action Contents α).runOn contents =
      (if contents.heap.IsOrdered then .ok answer else .error (.faulted .heapOrder),
        contents) := by
  have hsum := h.len_add_freeCount
  rw [← h.slotCount] at hsum
  simp only [checkSync, Action.runOn_bind, Action.runOn_get]
  by_cases hordered : contents.heap.IsOrdered <;> simp [hsum, hordered]

/-- Closing a queue touches neither its heap nor its slot pool. -/
theorem Consistent.close (h : contents.Consistent config) :
    Consistent { contents with closed := true } config :=
  ⟨h.pool, h.slotCount, h.slotSize, h.capacity, h.nodup_slots, h.mem_slots⟩

/-! ### New contents -/

/-- **New contents are consistent.** Nothing is queued, and the first message gets number
zero. -/
theorem Consistent.new (h : Contents.new config = .ok contents) :
    contents.Consistent config ∧ contents.heap.len = 0 ∧ contents.nextSequence = 0 ∧
      contents.closed = false := by
  simp only [Contents.new, bind, Except.bind] at h
  split at h
  · contradiction
  · rename_i heap hheap
    split at h
    · contradiction
    · rename_i pool hpool
      obtain ⟨hwf, hcount, hsize⟩ := SlotPool.WellFormed.new hpool
      obtain ⟨-, rfl⟩ := Heap.new_eq_ok_iff.mp hheap
      cases h
      have hfree := SlotPool.freeSlots_new hpool
      refine ⟨⟨hwf, hcount, hsize, by simp [Heap.capacity], by simp [slots, Heap.live], ?_⟩,
        rfl, rfl, rfl⟩
      intro slot
      have hmem := hwf.mem_freeSlots slot
      rw [hfree, List.mem_range, hcount] at hmem
      by_cases hlt : slot < config.depth
      · simp [slots, Heap.live, (hmem.mp hlt).2]
      · have : pool.isInUse slot ≠ true := by
          intro hused
          have := hwf.lt_of_isInUse hused
          omega
        simp [slots, Heap.live, this]

/-! ### Adding a message -/

/-- An operation on the slot pool leaves the rest as it is. -/
theorem runOn_onPool {α : Type} (action : Action SlotPool α) (contents : Contents) :
    (onPool action).runOn contents =
      ((action.runOn contents.pool).1,
        { contents with pool := (action.runOn contents.pool).2 }) := rfl

/-- Undoing is only for refusals: an operation that succeeds is left as it is. -/
theorem runOn_onRefusal_of_ok {σ α : Type} {action : Action σ α} {undo : Action σ Unit}
    {state after : σ} {a : α} (h : action.runOn state = (.ok a, after)) :
    (action.onRefusal undo).runOn state = (.ok a, after) := by
  rw [Action.runOn] at h
  simp only [Action.onRefusal, Action.runOn, h]

/-- A refused operation is undone before the refusal is passed on. -/
theorem runOn_onRefusal_of_refused {σ α : Type} {action : Action σ α} {undo : Action σ Unit}
    {state after restored : σ} {cause : Refusal}
    (h : action.runOn state = (.error (.refused cause), after))
    (hundo : undo.runOn after = (.ok (), restored)) :
    (action.onRefusal undo).runOn state = (.error (.refused cause), restored) := by
  have hrefuse : (do undo; Action.refuse cause : Action σ α).runOn after =
      (.error (.refused cause), restored) := by
    rw [Action.runOn_bind, hundo]
    rfl
  rw [Action.runOn] at h
  simpa only [Action.onRefusal, Action.runOn, h] using hrefuse

/-- The entry of a message that arrives now. -/
def arriving (contents : Contents) (slot : Nat) (priority : Int) : Entry where
  priority := priority
  sequence := contents.nextSequence
  slot := slot

/-- The contents after a payload has been stored in a slot and queued. -/
def afterEnqueue (contents : Contents) (slot : Nat) (payload : ByteArray) (priority : Int) :
    Contents where
  heap := (contents.heap.insert (contents.arriving slot priority)).2
  pool := (contents.pool.afterAcquire slot).afterWrite slot payload
  nextSequence := contents.nextSequence + 1
  closed := contents.closed

/-- Adding a message takes a free slot. -/
@[simp] theorem freeCount_afterEnqueue :
    (contents.afterEnqueue slot payload priority).pool.freeCount = contents.pool.freeCount - 1 :=
  rfl

/-- Adding a message takes a position of the heap. -/
theorem Consistent.len_afterEnqueue (h : contents.Consistent config)
    (hfree : contents.pool.freeSlots = slot :: rest) (payload : ByteArray) (priority : Int) :
    (contents.afterEnqueue slot payload priority).heap.len = contents.heap.len + 1 :=
  Heap.len_insert (h.len_lt hfree)

/-- **Adding a message stays consistent.** -/
theorem Consistent.afterEnqueue (h : contents.Consistent config)
    (hfree : contents.pool.freeSlots = slot :: rest)
    (hsize : payload.size ≤ config.messageSize) (priority : Int) :
    (contents.afterEnqueue slot payload priority).Consistent config := by
  have hfresh := h.pool.isFree_top hfree
  have hacquired := h.pool.afterAcquire hfree
  have hused : (contents.pool.afterAcquire slot).isInUse slot = true := by
    simp [h.pool.isInUse_afterAcquire hfree]
  have hroom : payload.size ≤ (contents.pool.afterAcquire slot).slotSize := by
    simpa [h.slotSize] using hsize
  have hslots : (contents.afterEnqueue slot payload priority).slots.Perm
      (slot :: contents.slots) :=
    (Heap.live_insert_perm _ (h.len_lt hfree)).map Entry.slot
  constructor
  · exact hacquired.afterWrite hused hroom
  · simpa [Contents.afterEnqueue] using h.slotCount
  · simpa [Contents.afterEnqueue] using h.slotSize
  · simpa [Contents.afterEnqueue] using h.capacity
  · rw [hslots.nodup_iff, List.nodup_cons]
    refine ⟨fun hmem => ?_, h.nodup_slots⟩
    rw [h.mem_slots, hfresh.2] at hmem
    contradiction
  · intro other
    rw [hslots.mem_iff, List.mem_cons, h.mem_slots]
    simp [Contents.afterEnqueue, h.pool.isInUse_afterAcquire hfree]

/-- **What adding a message does.** The payload fits and there is a free slot, so nothing but the
heap order can be found wrong afterwards. -/
theorem Consistent.runOn_enqueue (h : contents.Consistent config)
    (hfree : contents.pool.freeSlots = slot :: rest)
    (hsize : payload.size ≤ config.messageSize) (priority : Int) :
    let after := contents.afterEnqueue slot payload priority
    (enqueue payload priority).runOn contents =
      (if after.heap.IsOrdered then .ok contents.nextSequence
        else .error (.faulted .heapOrder), after) := by
  have hafter := h.afterEnqueue hfree hsize priority
  have hused : (contents.pool.afterAcquire slot).isInUse slot = true := by
    simp [h.pool.isInUse_afterAcquire hfree]
  have hroom : payload.size ≤ (contents.pool.afterAcquire slot).slotSize := by
    simpa [h.slotSize] using hsize
  have hacquire := SlotPool.runOn_acquire h.pool hfree
  have hwrite := SlotPool.runOn_write (h.pool.afterAcquire hfree) hused hroom
  have hstored : ((onPool (SlotPool.write slot payload)).onRefusal
      (onPool (SlotPool.release slot))).runOn
        { contents with pool := contents.pool.afterAcquire slot } =
      (.ok (), { contents with
        pool := (contents.pool.afterAcquire slot).afterWrite slot payload }) := by
    apply runOn_onRefusal_of_ok
    rw [runOn_onPool, hwrite]
  have hinsert := Heap.insert_accepts (contents.arriving slot priority) (h.len_lt hfree)
  have hcheck := hafter.runOn_checkSync contents.nextSequence
  rw [Action.runOn_bind] at hcheck
  simp only [arriving] at hinsert
  simp only [enqueue, Action.runOn_bind, runOn_onPool, hacquire, hstored, Action.runOn_get,
    Action.runOn_set, hinsert, ↓reduceIte]
  exact hcheck

/-- **A payload that does not fit is refused without a trace.** The slot acquired for it goes back
to where it was taken from. -/
theorem Consistent.runOn_enqueue_of_lt (h : contents.Consistent config)
    (hfree : contents.pool.freeSlots = slot :: rest)
    (hsize : config.messageSize < payload.size) (priority : Int) :
    (enqueue payload priority).runOn contents =
      (.error (.refused (.oversized payload.size config.messageSize)), contents) := by
  have hused : (contents.pool.afterAcquire slot).isInUse slot = true := by
    simp [h.pool.isInUse_afterAcquire hfree]
  have hroom : (contents.pool.afterAcquire slot).slotSize < payload.size := by
    simpa [h.slotSize] using hsize
  have hacquired := h.pool.afterAcquire hfree
  have hacquire := SlotPool.runOn_acquire h.pool hfree
  have hwrite := SlotPool.runOn_write_of_lt slot hroom
  have hrelease := SlotPool.runOn_release hacquired hused
  have hundone : ((onPool (SlotPool.write slot payload)).onRefusal
      (onPool (SlotPool.release slot))).runOn
        { contents with pool := contents.pool.afterAcquire slot } =
      (.error (.refused (.oversized payload.size config.messageSize)), contents) := by
    apply runOn_onRefusal_of_refused
    · rw [runOn_onPool, hwrite, SlotPool.slotSize_afterAcquire, h.slotSize]
    · rw [runOn_onPool, hrelease, h.pool.afterRelease_afterAcquire hfree]
  simp only [enqueue, Action.runOn_bind, runOn_onPool, hacquire, hundone]

/-- **One message more.** It has the next number, and the others are as they were. -/
theorem Consistent.messages_afterEnqueue (h : contents.Consistent config)
    (hfree : contents.pool.freeSlots = slot :: rest)
    (hsize : payload.size ≤ config.messageSize) (priority : Int) :
    (contents.afterEnqueue slot payload priority).messages.Perm
      (⟨priority, contents.nextSequence.toNat, payload⟩ :: contents.messages) := by
  have hfresh := h.pool.isFree_top hfree
  have hacquired := h.pool.afterAcquire hfree
  have hroom : payload.size ≤ (contents.pool.afterAcquire slot).slotSize := by
    simpa [h.slotSize] using hsize
  have hself : (contents.afterEnqueue slot payload priority).message
      (contents.arriving slot priority) =
        ⟨priority, contents.nextSequence.toNat, payload⟩ := by
    have hbytes := SlotPool.bytes_afterWrite_self hacquired hfresh.1 hroom
    simp only [message, arriving, Contents.afterEnqueue, hbytes]
  have hothers : ∀ entry ∈ contents.heap.live,
      (contents.afterEnqueue slot payload priority).message entry = contents.message entry := by
    intro entry hentry
    have hne : entry.slot ≠ slot := by
      rintro rfl
      have := h.isInUse hentry
      simp [hfresh.2] at this
    have hbytes := SlotPool.bytes_afterWrite_of_ne hacquired hfresh.1 hroom hne
    simp only [message, Contents.afterEnqueue, hbytes, SlotPool.bytes_afterAcquire]
  have hperm := (Heap.live_insert_perm (contents.arriving slot priority) (h.len_lt hfree)).map
    (contents.afterEnqueue slot payload priority).message
  rwa [List.map_cons, hself, List.map_congr_left hothers] at hperm

/-! ### Taking a message out -/

/-- The contents after the message at the root of the heap, which has the given entry, has been
taken out. -/
def afterDequeue (contents : Contents) (entry : Entry) : Contents where
  heap := contents.heap.extractMax.2
  pool := contents.pool.afterRelease entry.slot
  nextSequence := contents.nextSequence
  closed := contents.closed

/-- Taking a message out gives a slot back. -/
@[simp] theorem freeCount_afterDequeue :
    (contents.afterDequeue entry).pool.freeCount = contents.pool.freeCount + 1 := rfl

/-- Taking a message out gives a position of the heap back. -/
@[simp] theorem len_afterDequeue :
    (contents.afterDequeue entry).heap.len = contents.heap.len - 1 :=
  Heap.len_extractMax contents.heap

/-- **Taking a message out stays consistent.** -/
theorem Consistent.afterDequeue (h : contents.Consistent config)
    (hroot : contents.heap.peekMax = some entry) :
    (contents.afterDequeue entry).Consistent config := by
  have hused := h.isInUse (Heap.peekMax_mem_live hroot)
  have hslots : contents.slots.Perm (entry.slot :: (contents.afterDequeue entry).slots) :=
    (Heap.live_extractMax_perm hroot).map Entry.slot
  have hnodup := h.nodup_slots
  rw [hslots.nodup_iff, List.nodup_cons] at hnodup
  constructor
  · exact h.pool.afterRelease hused
  · simpa [Contents.afterDequeue] using h.slotCount
  · simpa [Contents.afterDequeue] using h.slotSize
  · simpa [Contents.afterDequeue] using h.capacity
  · exact hnodup.2
  · intro slot
    have hmem : slot ∈ contents.slots ↔ slot = entry.slot ∨
        slot ∈ (contents.afterDequeue entry).slots := by
      rw [hslots.mem_iff, List.mem_cons]
    rw [h.mem_slots] at hmem
    simp only [Contents.afterDequeue, SlotPool.isInUse_afterRelease, Bool.and_eq_true,
      Bool.not_eq_true', decide_eq_false_iff_not, hmem]
    constructor
    · intro hslot
      refine ⟨?_, .inr hslot⟩
      rintro rfl
      exact hnodup.1 hslot
    · rintro ⟨hne, heq | hslot⟩
      · exact absurd heq hne
      · exact hslot

/-- The messages that stay when one is taken out are as they were. -/
theorem Consistent.message_afterDequeue (h : contents.Consistent config)
    (hroot : contents.heap.peekMax = some entry) {other : Entry}
    (hother : other ∈ contents.heap.extractMax.2.live) :
    (contents.afterDequeue entry).message other = contents.message other := by
  have hnodup := h.nodup_slots
  rw [slots, ((Heap.live_extractMax_perm hroot).map Entry.slot).nodup_iff, List.map_cons,
    List.nodup_cons] at hnodup
  have hne : other.slot ≠ entry.slot := by
    intro heq
    exact hnodup.1 (heq ▸ List.mem_map_of_mem hother)
  have hbytes := contents.pool.bytes_afterRelease_of_ne hne
  simp only [message, Contents.afterDequeue, hbytes]

/-- **One message less.** The others are as they were. -/
theorem Consistent.messages_afterDequeue (h : contents.Consistent config)
    (hroot : contents.heap.peekMax = some entry) :
    contents.messages.Perm
      (contents.message entry :: (contents.afterDequeue entry).messages) := by
  have hperm := (Heap.live_extractMax_perm hroot).map contents.message
  rwa [List.map_cons,
    ← List.map_congr_left fun other hother => h.message_afterDequeue hroot hother] at hperm

/-- What is known of a message besides its bytes can be read off its entry. -/
theorem header_message (contents : Contents) (entry : Entry) :
    (contents.message entry).header =
      ⟨entry.priority, entry.sequence, (contents.pool.bytes entry.slot).size⟩ := by
  simp [message, Message.header]

/-- **What taking a message out does.** The entry at the root says which payload is copied, and
nothing but the heap order can be found wrong afterwards. -/
theorem Consistent.runOn_dequeueWith {α : Type} {copy : α} (h : contents.Consistent config)
    (copyOut : SlotPool → Nat → Except Fault α) (hroot : contents.heap.peekMax = some entry)
    (hcopy : copyOut contents.pool entry.slot = .ok copy) :
    (dequeueWith copyOut).runOn contents =
      (if (contents.afterDequeue entry).heap.IsOrdered
        then .ok ((contents.message entry).header, copy)
        else .error (.faulted .heapOrder), contents.afterDequeue entry) := by
  have hused := h.isInUse (Heap.peekMax_mem_live hroot)
  have hpayload := h.pool.payload_eq (h.pool.lt_of_isInUse hused)
  have hrelease := SlotPool.runOn_release h.pool hused
  have hcheck := (h.afterDequeue hroot).runOn_checkSync ((contents.message entry).header, copy)
  rw [Action.runOn_bind, header_message] at hcheck
  rw [header_message]
  simp only [dequeueWith, Action.runOn_bind, Action.runOn_get, Action.runOn_set,
    Heap.extractMax_fst, hroot, hused, hpayload, hcopy, runOn_onPool, hrelease,
    Action.ofFault, Action.runOn_pure, ↓reduceIte]
  exact hcheck

end Contents

end StableQueue
