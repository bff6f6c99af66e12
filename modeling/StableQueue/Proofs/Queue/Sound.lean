import StableQueue.Proofs.Queue.Turn

/-!
# The Invariant of a Queue

`Contents.Sound` is what is true of the contents of a queue whenever nobody holds its lock, as long
as the numbers of the messages lie on one half of the circle, that is, as long as at most `2 ^ 63`
messages have been accepted. On top of the agreement of heap and slot pool it says that the heap is
in order and that the numbers of the messages are different and have all been given out.

On sound contents the heap stays in order, so no pass is aborted.

## Main results

* `Contents.Sound.root_leads`: the message at the root leaves first.
* `Contents.Sound.afterEnqueue`, `Contents.Sound.afterDequeue`: the contents stay sound.
* `Live.Turn.sound`, `Live.Turn.not_faulted`: no turn does harm.
-/

namespace StableQueue

namespace Contents

/-- What is true of the contents of a queue whenever nobody holds its lock. -/
structure Sound (contents : Contents) (config : Config) : Prop
    extends Consistent contents config where
  /-- No entry outranks its parent. -/
  isOrdered : contents.heap.IsOrdered
  /-- No two messages have one number. -/
  nodup_sequences : (contents.heap.live.map Entry.sequence).Nodup
  /-- Every message has a number that has been given out. -/
  sequence_lt : ∀ entry ∈ contents.heap.live,
    entry.sequence.toNat < contents.nextSequence.toNat
  /-- The numbers given out lie on one half of the circle. -/
  nextSequence_le : contents.nextSequence.toNat ≤ 2 ^ 63

variable {contents : Contents} {config : Config} {entry root : Entry} {slot : Nat}
  {rest : List Nat} {payload : ByteArray}

/-- New contents are sound. -/
theorem Sound.new (h : Contents.new config = .ok contents) : contents.Sound config := by
  obtain ⟨hconsistent, hlen, hnext, -⟩ := Consistent.new h
  have hlive : contents.heap.live = [] := by
    rw [← List.length_eq_zero_iff, Heap.length_live, hlen]
  refine ⟨hconsistent, ?_, by simp [hlive], by simp [hlive], by simp [hnext]⟩
  intro child hchild
  omega

/-- What can be seen of an intact storage: heap and slot pool hold the same messages, each in a slot
of its own, in heap order and under a number of its own. -/
structure Intact (contents : Contents) (config : Config) : Prop where
  /-- No two messages share a slot. -/
  nodup_slots : contents.slots.Nodup
  /-- The slots of the messages are the slots in use. -/
  mem_slots : ∀ slot, slot ∈ contents.slots ↔ contents.pool.isInUse slot = true
  /-- No slot is free twice. -/
  nodup_freeSlots : contents.pool.freeSlots.Nodup
  /-- All other slots are free. -/
  mem_freeSlots : ∀ slot, slot ∈ contents.pool.freeSlots ↔
    slot < config.depth ∧ slot ∉ contents.slots
  /-- Messages and free slots add up to the depth. -/
  len_add_freeCount : contents.heap.len + contents.pool.freeCount = config.depth
  /-- No entry outranks its parent. -/
  isOrdered : contents.heap.IsOrdered
  /-- No message is larger than allowed. -/
  lengthAt_le : ∀ entry ∈ contents.heap.live,
    contents.pool.lengthAt entry.slot ≤ config.messageSize
  /-- No two messages have one number. -/
  nodup_sequences : (contents.heap.live.map Entry.sequence).Nodup
  /-- Every message has a number that has been given out. -/
  sequence_lt : ∀ entry ∈ contents.heap.live,
    entry.sequence.toNat < contents.nextSequence.toNat

/-- **A sound storage is intact.** -/
theorem Sound.intact (h : contents.Sound config) : contents.Intact config where
  nodup_slots := h.nodup_slots
  mem_slots := h.mem_slots
  nodup_freeSlots := h.pool.nodup_freeSlots
  mem_freeSlots slot := by
    rw [h.pool.mem_freeSlots, h.slotCount, h.mem_slots, Bool.not_eq_true]
  len_add_freeCount := h.toConsistent.len_add_freeCount
  isOrdered := h.isOrdered
  lengthAt_le entry _ := h.slotSize ▸ h.pool.lengthAt_le entry.slot
  nodup_sequences := h.nodup_sequences
  sequence_lt := h.sequence_lt

/-- The numbers of the messages are less than `2 ^ 63` after zero. -/
theorem Sound.sequence_lt_half (h : contents.Sound config)
    (hentry : entry ∈ contents.heap.live) : entry.sequence.toNat < 2 ^ 63 :=
  Nat.lt_of_lt_of_le (h.sequence_lt entry hentry) h.nextSequence_le

/-- The entries of the heap are coherent. -/
theorem Sound.coherent (h : contents.Sound config) : Entry.Coherent contents.heap.live := by
  refine ⟨fun _ => 0, fun entry hentry => ?_⟩
  rw [Serial.distance_zero]
  exact h.sequence_lt_half hentry

/-- A message leads another one if the entry of the other one does not outrank its own. -/
theorem Sound.leads_of_outranks_eq_false (h : contents.Sound config) {other : Entry}
    (hentry : entry ∈ contents.heap.live) (hother : other ∈ contents.heap.live)
    (hnot : other.outranks entry = false) :
    (contents.message entry).Leads (contents.message other) := by
  have hbefore := Serial.before_iff_of_lt (h.sequence_lt_half hother)
    (h.sequence_lt_half hentry)
  simp only [Message.Leads, message]
  rw [Entry.outranks] at hnot
  split at hnot
  · rename_i heq
    rw [← Bool.not_eq_true, hbefore] at hnot
    omega
  · rename_i hne
    rw [decide_eq_false_iff_not] at hnot
    omega

/-- **The message at the root leaves first.** It leads every queued message. -/
theorem Sound.root_leads (h : contents.Sound config)
    (hroot : contents.heap.peekMax = some root) (hentry : entry ∈ contents.heap.live) :
    (contents.message root).Leads (contents.message entry) :=
  h.leads_of_outranks_eq_false (Heap.peekMax_mem_live hroot) hentry
    (Heap.outranks_peekMax h.isOrdered h.coherent hroot hentry)

/-- The numbers of the messages are different. -/
theorem Sound.nodup_numbers (h : contents.Sound config) :
    (contents.messages.map Message.number).Nodup := by
  have hmap : contents.messages.map Message.number =
      (contents.heap.live.map Entry.sequence).map UInt64.toNat := by
    simp only [messages, List.map_map]
    rfl
  rw [hmap]
  exact h.nodup_sequences.map fun _ _ => UInt64.toNat_inj.mp

/-- As long as numbers are left on the half of the circle, the next one is one more. -/
theorem toNat_nextSequence_afterEnqueue (hnext : contents.nextSequence.toNat < 2 ^ 63)
    (slot : Nat) (payload : ByteArray) (priority : Int) :
    (contents.afterEnqueue slot payload priority).nextSequence.toNat =
      contents.nextSequence.toNat + 1 := by
  simp only [Contents.afterEnqueue, UInt64.toNat_add]
  have : (1 : UInt64).toNat = 1 := rfl
  omega

/-- **Adding a message stays sound**, as long as numbers are left on the half of the circle. -/
theorem Sound.afterEnqueue (h : contents.Sound config)
    (hnext : contents.nextSequence.toNat < 2 ^ 63)
    (hfree : contents.pool.freeSlots = slot :: rest)
    (hsize : payload.size ≤ config.messageSize) (priority : Int) :
    (contents.afterEnqueue slot payload priority).Sound config := by
  have hroom := h.toConsistent.len_lt hfree
  have hperm := Heap.live_insert_perm (contents.arriving slot priority) hroom
  have htoNat := toNat_nextSequence_afterEnqueue hnext slot payload priority
  have hcoherent : Entry.Coherent (contents.arriving slot priority :: contents.heap.live) := by
    refine ⟨fun _ => 0, fun entry hentry => ?_⟩
    rw [Serial.distance_zero]
    rcases List.mem_cons.mp hentry with rfl | hentry
    · exact hnext
    · exact h.sequence_lt_half hentry
  refine ⟨h.toConsistent.afterEnqueue hfree hsize priority,
    Heap.isOrdered_insert h.isOrdered hroom hcoherent, ?_, ?_, ?_⟩
  · have hsequences := hperm.map Entry.sequence
    rw [List.map_cons] at hsequences
    simp only [Contents.afterEnqueue]
    rw [hsequences.nodup_iff, List.nodup_cons]
    refine ⟨?_, h.nodup_sequences⟩
    rw [List.mem_map]
    rintro ⟨entry, hentry, heq⟩
    have hlt := h.sequence_lt entry hentry
    rw [heq] at hlt
    exact Nat.lt_irrefl _ hlt
  · intro entry hentry
    rw [htoNat]
    rcases List.mem_cons.mp (hperm.mem_iff.mp hentry) with rfl | hentry
    · exact Nat.lt_succ_self _
    · exact Nat.lt_succ_of_lt (h.sequence_lt entry hentry)
  · rw [htoNat]
    exact hnext

/-- **Taking a message out stays sound.** -/
theorem Sound.afterDequeue (h : contents.Sound config)
    (hroot : contents.heap.peekMax = some root) :
    (contents.afterDequeue root).Sound config := by
  have hperm := Heap.live_extractMax_perm hroot
  have hnodup := h.nodup_sequences
  rw [(hperm.map Entry.sequence).nodup_iff, List.map_cons, List.nodup_cons] at hnodup
  refine ⟨h.toConsistent.afterDequeue hroot, Heap.isOrdered_extractMax h.isOrdered h.coherent,
    hnodup.2, fun entry hentry => ?_, h.nextSequence_le⟩
  exact h.sequence_lt entry (hperm.mem_iff.mpr (List.mem_cons_of_mem _ hentry))

/-- Closing a queue stays sound. -/
theorem Sound.close (h : contents.Sound config) :
    Sound { contents with closed := true } config :=
  ⟨h.toConsistent.close, h.isOrdered, h.nodup_sequences, h.sequence_lt, h.nextSequence_le⟩

end Contents

namespace Live

variable {live live' : Live} {mayWait : Bool} {request : Request} {pass : Pass}

/-- **A turn stays sound**, as long as numbers are left on the half of the circle. -/
theorem Turn.sound (h : live.Turn mayWait request pass live')
    (hlive : live.contents.Sound live.config)
    (hnext : live.contents.nextSequence.toNat < 2 ^ 63) :
    live'.contents.Sound live'.config := by
  cases h with
  | sent hsize _ hfree _ => exact hlive.afterEnqueue hnext hfree hsize _
  | sendAborted hsize _ hfree _ => exact hlive.afterEnqueue hnext hfree hsize _
  | received _ hroot _ _ => exact hlive.afterDequeue hroot
  | receiveAborted _ hroot _ _ => exact hlive.afterDequeue hroot
  | closes _ => exact hlive.close
  | _ => exact hlive

/-- **No turn is aborted.** On sound contents every check of the storage passes. -/
theorem Turn.not_faulted {outcome : Outcome} {owed : List Signal} {log : List Log.Event}
    (h : live.Turn mayWait request (.leave outcome owed log) live')
    (hlive : live.contents.Sound live.config)
    (hnext : live.contents.nextSequence.toNat < 2 ^ 63) :
    (Finished.mk request outcome).isFaulted = false := by
  cases h with
  | sendAborted hsize _ hfree hordered =>
      exact absurd (hlive.afterEnqueue hnext hfree hsize _).isOrdered hordered
  | receiveAborted _ hroot _ hordered =>
      exact absurd (hlive.afterDequeue hroot).isOrdered hordered
  | received _ _ _ _ => cases request <;> rfl
  | _ => rfl

end Live

end StableQueue
