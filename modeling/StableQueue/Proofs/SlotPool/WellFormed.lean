import StableQueue.Proofs.SlotPool.Bytes

/-!
# Well-Formed Slot Pools

The stack of free slots, its height and the table of slots in use are kept up to date separately.
`SlotPool.WellFormed` says how they agree: the stack lists every slot that is not in use exactly
once. It also says that no slot holds more bytes than it has room for, so that the ranges of
different slots in the arena lie apart.

On a well-formed pool no check of an index fails. Each operation there leaves one definite pool
behind, named `afterAcquire`, `afterRelease` and `afterWrite`, and `bytes` says which payload each
slot then holds.

## Main results

* `runOn_acquire`, `runOn_release`, `runOn_write`, `payload_eq`: what the operations do on a
  well-formed pool.
* `WellFormed.afterAcquire`, `WellFormed.afterRelease`, `WellFormed.afterWrite`: the pool stays
  well-formed.
* `bytes_afterWrite_self`, `bytes_afterWrite_of_ne`: a slot holds what was written last, and other
  slots keep their payloads.
-/

namespace StableQueue.SlotPool

/-- The number of valid bytes of a slot; zero beyond the last slot. -/
def lengthAt (pool : SlotPool) (slot : Nat) : Nat := pool.lengths[slot]?.getD 0

/-- The valid bytes of a slot. -/
def bytes (pool : SlotPool) (slot : Nat) : ByteArray :=
  pool.arena.extract (slot * pool.slotSize) (slot * pool.slotSize + pool.lengthAt slot)

/-- The tables of a pool agree with each other, and every slot lies within the arena. -/
structure WellFormed (pool : SlotPool) : Prop where
  /-- The arena has room for every slot. -/
  size_arena : pool.arena.size = pool.slotCount * pool.slotSize
  /-- The arena lies in the address space. -/
  arena_lt : pool.arena.size < Memory.addressSpace
  /-- There is a flag for every slot. -/
  size_inUse : pool.inUse.size = pool.slotCount
  /-- The stack has room for every slot. -/
  size_free : pool.free.size = pool.slotCount
  /-- The stack is not higher than its array. -/
  freeLen_le : pool.freeLen ≤ pool.slotCount
  /-- No slot is listed twice on the stack. -/
  nodup_freeSlots : pool.freeSlots.Nodup
  /-- The stack lists the slots that are not in use. -/
  mem_freeSlots : ∀ slot, slot ∈ pool.freeSlots ↔
    slot < pool.slotCount ∧ pool.isInUse slot = false
  /-- No slot holds more than it has room for. -/
  lengthAt_le : ∀ slot, pool.lengthAt slot ≤ pool.slotSize
  /-- A slot that is not in use holds nothing. -/
  lengthAt_free : ∀ slot, pool.isInUse slot = false → pool.lengthAt slot = 0

variable {pool : SlotPool} {slot : Nat} {rest : List Nat} {payload : ByteArray}

/-- A slot in use is one of the slots. -/
theorem WellFormed.lt_of_isInUse (h : pool.WellFormed) (hslot : pool.isInUse slot = true) :
    slot < pool.slotCount := by
  rw [← h.size_inUse]
  refine Decidable.byContradiction fun hge => ?_
  simp [isInUse, hge] at hslot

/-- Whether a slot is in use, read off the table. -/
theorem WellFormed.getElem?_inUse (h : pool.WellFormed) (hslot : slot < pool.slotCount) :
    pool.inUse[slot]? = some (pool.isInUse slot) := by
  have hsize : slot < pool.inUse.size := by rwa [h.size_inUse]
  simp [isInUse, hsize]

/-- The number of valid bytes of a slot, read off the table. -/
theorem getElem?_lengths (hslot : slot < pool.slotCount) :
    pool.lengths[slot]? = some (pool.lengthAt slot) := by
  have hsize : slot < pool.lengths.size := hslot
  simp [lengthAt, hsize]

/-- The slot on top of the stack exists and is not in use. -/
theorem WellFormed.isFree_top (h : pool.WellFormed) (hfree : pool.freeSlots = slot :: rest) :
    slot < pool.slotCount ∧ pool.isInUse slot = false := by
  rw [← h.mem_freeSlots, hfree]
  exact List.mem_cons_self

/-- There are as many free slots as the height of the stack. -/
theorem WellFormed.length_freeSlots (h : pool.WellFormed) :
    pool.freeSlots.length = pool.freeCount := by
  have hle := h.freeLen_le
  have hsize := h.size_free
  simp [freeSlots, freeCount]
  omega

/-- While a slot is in use, the stack is not full. -/
theorem WellFormed.freeLen_lt (h : pool.WellFormed) (hslot : pool.isInUse slot = true) :
    pool.freeLen < pool.slotCount := by
  have hnot : slot ∉ pool.freeSlots := by
    rw [h.mem_freeSlots, hslot]
    simp
  have hsub : slot :: pool.freeSlots ⊆ List.range pool.slotCount := by
    intro other hother
    rw [List.mem_range]
    rcases List.mem_cons.mp hother with rfl | hfree
    · exact h.lt_of_isInUse hslot
    · exact ((h.mem_freeSlots other).mp hfree).1
  have hlen := (List.nodup_cons.mpr ⟨hnot, h.nodup_freeSlots⟩).length_le_of_subset hsub
  rw [List.length_cons, h.length_freeSlots, List.length_range] at hlen
  exact hlen

/-- Every slot lies in the arena. -/
theorem WellFormed.start_add_le (h : pool.WellFormed) (hslot : slot < pool.slotCount) :
    slot * pool.slotSize + pool.slotSize ≤ pool.arena.size := by
  calc slot * pool.slotSize + pool.slotSize = (slot + 1) * pool.slotSize := by
        rw [Nat.add_mul, Nat.one_mul]
    _ ≤ pool.slotCount * pool.slotSize := Nat.mul_le_mul_right _ hslot
    _ = pool.arena.size := h.size_arena.symm

/-- The first byte of a slot is found where the slots before it end. -/
theorem WellFormed.start_eq (h : pool.WellFormed) (hslot : slot < pool.slotCount) :
    pool.start slot = .ok (slot * pool.slotSize) := by
  have := h.start_add_le hslot
  have := h.arena_lt
  rw [start]
  rw [if_pos (by omega)]

/-- **Payloads can be looked at.** Every slot of a well-formed pool has a payload. -/
theorem WellFormed.payload_eq (h : pool.WellFormed) (hslot : slot < pool.slotCount) :
    pool.payload slot = .ok (pool.bytes slot) := by
  have hend := h.start_add_le hslot
  have hle := h.lengthAt_le slot
  have hlength := getElem?_lengths hslot
  rw [SlotPool.payload]
  rw [h.start_eq hslot]
  simp only [bind, Except.bind, hlength]
  rw [if_pos (by omega)]
  rfl

/-- A buffer that can hold the payload of a slot has it at its front afterwards, and behind it what
stood there before. -/
theorem WellFormed.readInto_eq (h : pool.WellFormed) (hslot : slot < pool.slotCount)
    {buffer : ByteArray} (hsize : (pool.bytes slot).size ≤ buffer.size) :
    pool.readInto slot buffer = .ok (.ok (pool.bytes slot).size,
      pool.bytes slot ++ buffer.extract (pool.bytes slot).size buffer.size) := by
  rw [SlotPool.readInto]
  rw [h.payload_eq hslot]
  simp only [bind, Except.bind]
  rw [if_neg (by omega), ← overwrite_zero]
  rfl

/-! ### A new pool -/

/-- **A new pool is well-formed.** -/
theorem WellFormed.new {count size : Nat} (h : SlotPool.new count size = .ok pool) :
    pool.WellFormed ∧ pool.slotCount = count ∧ pool.slotSize = size := by
  have hfree := freeSlots_new h
  rw [SlotPool.new] at h
  split at h
  · rename_i halloc
    simp only [Memory.allocatable, Bool.and_eq_true, decide_eq_true_eq] at halloc
    cases h
    have hlength : ∀ slot : Nat, (Array.replicate count 0)[slot]?.getD 0 = 0 := by
      intro slot
      by_cases hslot : slot < count <;> simp [hslot]
    refine ⟨?_, by simp [slotCount], rfl⟩
    constructor
    · simp [slotCount, ByteArray.size]
    · have : Memory.maxAllocation < Memory.addressSpace := by decide
      simp [ByteArray.size]
      omega
    · simp [slotCount]
    · simp [slotCount]
    · simp [slotCount]
    · rw [hfree]
      exact List.nodup_range
    · intro slot
      rw [hfree, List.mem_range]
      simp only [slotCount, isInUse, Array.size_replicate]
      refine ⟨fun hslot => ⟨hslot, by simp [hslot]⟩, fun hslot => hslot.1⟩
    · intro slot
      simp [lengthAt, hlength]
    · intro slot _
      simp [lengthAt, hlength]
  · contradiction

/-- No slot of a new pool is in use. -/
theorem isInUse_new {count size : Nat} (h : SlotPool.new count size = .ok pool) (slot : Nat) :
    pool.isInUse slot = false := by
  obtain ⟨hpool, hcount, -⟩ := WellFormed.new h
  rw [← Bool.not_eq_true]
  intro hslot
  have hmem : slot ∈ pool.freeSlots := by
    rw [freeSlots_new h, List.mem_range, ← hcount]
    exact hpool.lt_of_isInUse hslot
  rw [((hpool.mem_freeSlots slot).mp hmem).2] at hslot
  contradiction

/-! ### Acquiring -/

/-- The pool after `slot`, on top of the stack, has been handed out. -/
def afterAcquire (pool : SlotPool) (slot : Nat) : SlotPool :=
  { pool with freeLen := pool.freeLen - 1, inUse := pool.inUse.setIfInBounds slot true }

/-- The slot handed out next is on top of the stack. -/
theorem WellFormed.top_eq (h : pool.WellFormed) (hfree : pool.freeSlots = slot :: rest) :
    0 < pool.freeLen ∧ pool.free[pool.freeLen - 1]? = some slot ∧
      (pool.free.toList.take (pool.freeLen - 1)).reverse = rest := by
  have hlength := h.length_freeSlots
  rw [hfree, List.length_cons, freeCount] at hlength
  obtain ⟨top, htop⟩ : ∃ top, pool.freeLen = top + 1 := ⟨pool.freeLen - 1, by omega⟩
  have hsize : top < pool.free.size := by
    have := h.freeLen_le
    have := h.size_free
    omega
  rw [freeSlots, htop, List.take_add_one, List.reverse_append] at hfree
  simp [hsize] at hfree
  rw [htop]
  simp [hsize, hfree]

/-- If every slot is in use, there is none to acquire. -/
theorem runOn_acquire_of_nil (h : pool.WellFormed) (hfree : pool.freeSlots = []) :
    acquire.runOn pool = (.ok none, pool) := by
  have hlength := h.length_freeSlots
  rw [hfree, List.length_nil, freeCount] at hlength
  simp [acquire, ← hlength]

/-- **Acquiring hands out the slot on top of the stack.** -/
theorem runOn_acquire (h : pool.WellFormed) (hfree : pool.freeSlots = slot :: rest) :
    acquire.runOn pool = (.ok (some slot), pool.afterAcquire slot) := by
  obtain ⟨hpos, htop, -⟩ := h.top_eq hfree
  obtain ⟨hlt, hnot⟩ := h.isFree_top hfree
  have hflag := h.getElem?_inUse hlt
  rw [hnot] at hflag
  simp [acquire, Nat.pos_iff_ne_zero.mp hpos, htop, hflag, afterAcquire]
  rfl

/-- Acquiring does not change the number of slots. -/
@[simp] theorem slotCount_afterAcquire : (pool.afterAcquire slot).slotCount = pool.slotCount :=
  rfl

/-- Acquiring does not change the size of the slots. -/
@[simp] theorem slotSize_afterAcquire : (pool.afterAcquire slot).slotSize = pool.slotSize := rfl

/-- Acquiring leaves one free slot less. -/
@[simp] theorem freeCount_afterAcquire :
    (pool.afterAcquire slot).freeCount = pool.freeCount - 1 := rfl

/-- Acquiring leaves the payloads of all slots as they are. -/
@[simp] theorem bytes_afterAcquire (other : Nat) :
    (pool.afterAcquire slot).bytes other = pool.bytes other := rfl

/-- The slot handed out is in use from then on. -/
theorem WellFormed.isInUse_afterAcquire (h : pool.WellFormed)
    (hfree : pool.freeSlots = slot :: rest) (other : Nat) :
    (pool.afterAcquire slot).isInUse other = (decide (other = slot) || pool.isInUse other) := by
  have hslot : slot < pool.inUse.size := h.size_inUse.symm ▸ (h.isFree_top hfree).1
  by_cases heq : other = slot
  · subst heq
    simp [isInUse, SlotPool.afterAcquire, hslot]
  · simp [isInUse, SlotPool.afterAcquire, heq, Ne.symm heq]

/-- The other free slots stay on the stack. -/
theorem WellFormed.freeSlots_afterAcquire (h : pool.WellFormed)
    (hfree : pool.freeSlots = slot :: rest) : (pool.afterAcquire slot).freeSlots = rest :=
  (h.top_eq hfree).2.2

/-- **Acquiring keeps a pool well-formed.** -/
theorem WellFormed.afterAcquire (h : pool.WellFormed) (hfree : pool.freeSlots = slot :: rest) :
    (pool.afterAcquire slot).WellFormed := by
  have hnodup := h.nodup_freeSlots
  rw [hfree, List.nodup_cons] at hnodup
  have hinUse := h.isInUse_afterAcquire hfree
  constructor
  · exact h.size_arena
  · exact h.arena_lt
  · simpa [SlotPool.afterAcquire, slotCount] using h.size_inUse
  · exact h.size_free
  · have := h.freeLen_le
    simp only [SlotPool.afterAcquire, slotCount] at this ⊢
    omega
  · rw [h.freeSlots_afterAcquire hfree]
    exact hnodup.2
  · intro other
    have hmem := h.mem_freeSlots other
    rw [hfree, List.mem_cons] at hmem
    rw [h.freeSlots_afterAcquire hfree, hinUse, slotCount_afterAcquire]
    by_cases heq : other = slot
    · subst heq
      simpa using hnodup.1
    · simpa [heq] using hmem
  · exact h.lengthAt_le
  · intro other hother
    rw [hinUse, Bool.or_eq_false_iff] at hother
    exact h.lengthAt_free other hother.2

/-! ### Releasing -/

/-- The pool after `slot` has been given back. -/
def afterRelease (pool : SlotPool) (slot : Nat) : SlotPool :=
  { pool with
    inUse := pool.inUse.setIfInBounds slot false
    lengths := pool.lengths.setIfInBounds slot 0
    free := pool.free.setIfInBounds pool.freeLen slot
    freeLen := pool.freeLen + 1 }

/-- **Releasing a slot in use puts it on top of the stack.** -/
theorem runOn_release (h : pool.WellFormed) (hslot : pool.isInUse slot = true) :
    (release slot).runOn pool = (.ok (), pool.afterRelease slot) := by
  have hlt := h.freeLen_lt hslot
  rw [← h.size_free] at hlt
  have hlength : slot < pool.lengths.size := h.lt_of_isInUse hslot
  simp [release, hslot, hlength, hlt, afterRelease]

/-- Releasing does not change the number of slots. -/
@[simp] theorem slotCount_afterRelease : (pool.afterRelease slot).slotCount = pool.slotCount := by
  simp [afterRelease, slotCount]

/-- Releasing does not change the size of the slots. -/
@[simp] theorem slotSize_afterRelease : (pool.afterRelease slot).slotSize = pool.slotSize := rfl

/-- Releasing leaves one free slot more. -/
@[simp] theorem freeCount_afterRelease :
    (pool.afterRelease slot).freeCount = pool.freeCount + 1 := rfl

/-- The slot given back is no longer in use. -/
theorem isInUse_afterRelease (other : Nat) :
    (pool.afterRelease slot).isInUse other = (!decide (other = slot) && pool.isInUse other) := by
  by_cases heq : other = slot
  · subst heq
    by_cases hlt : other < pool.inUse.size <;> simp [isInUse, afterRelease, hlt]
  · simp [isInUse, afterRelease, heq, Ne.symm heq]

/-- The slot given back holds nothing; the others keep their lengths. -/
theorem lengthAt_afterRelease (pool : SlotPool) (slot other : Nat) :
    (pool.afterRelease slot).lengthAt other = if other = slot then 0 else pool.lengthAt other := by
  by_cases heq : other = slot
  · subst heq
    by_cases hlt : other < pool.lengths.size <;> simp [lengthAt, afterRelease, hlt]
  · simp [lengthAt, afterRelease, heq, Ne.symm heq]

/-- Other slots keep their payloads when one is given back. -/
theorem bytes_afterRelease_of_ne (pool : SlotPool) {other : Nat} (hne : other ≠ slot) :
    (pool.afterRelease slot).bytes other = pool.bytes other := by
  have hlength := lengthAt_afterRelease pool slot other
  rw [if_neg hne] at hlength
  rw [bytes, hlength]
  rfl

/-- The slot given back is the next to be handed out. -/
theorem freeSlots_afterRelease (slot : Nat) (hlt : pool.freeLen < pool.free.size) :
    (pool.afterRelease slot).freeSlots = slot :: pool.freeSlots := by
  simp only [freeSlots, SlotPool.afterRelease, Array.toList_setIfInBounds]
  rw [List.take_add_one, List.take_set_of_le (Nat.le_refl _)]
  simp [hlt]

/-- Writing to a table what stands there changes nothing. -/
theorem setIfInBounds_of_getElem? {α : Type} {table : Array α} {i : Nat} {value : α}
    (h : table[i]? = some value) : table.setIfInBounds i value = table := by
  obtain ⟨hi, rfl⟩ := Array.getElem?_eq_some_iff.mp h
  rw [← Array.toList_inj, Array.toList_setIfInBounds, ← Array.getElem_toList,
    List.set_getElem_self]

/-- **Acquiring is undone by releasing.** A slot handed out and given back before anything is
written to it leaves no trace. -/
theorem WellFormed.afterRelease_afterAcquire (h : pool.WellFormed)
    (hfree : pool.freeSlots = slot :: rest) :
    (pool.afterAcquire slot).afterRelease slot = pool := by
  obtain ⟨hlt, hnot⟩ := h.isFree_top hfree
  obtain ⟨hpos, htop, -⟩ := h.top_eq hfree
  have hlength : pool.lengths[slot]? = some 0 := by
    rw [getElem?_lengths hlt, h.lengthAt_free slot hnot]
  have hflag : pool.inUse[slot]? = some false := by
    rw [h.getElem?_inUse hlt, hnot]
  have hheight : pool.freeLen - 1 + 1 = pool.freeLen := Nat.sub_add_cancel hpos
  simp only [SlotPool.afterRelease, SlotPool.afterAcquire, Array.setIfInBounds_setIfInBounds,
    setIfInBounds_of_getElem? hlength, setIfInBounds_of_getElem? hflag,
    setIfInBounds_of_getElem? htop, hheight]

/-- **Releasing keeps a pool well-formed.** -/
theorem WellFormed.afterRelease (h : pool.WellFormed) (hslot : pool.isInUse slot = true) :
    (pool.afterRelease slot).WellFormed := by
  have hlt := h.freeLen_lt hslot
  have hfree := freeSlots_afterRelease slot (h.size_free.symm ▸ hlt)
  have hnot : slot ∉ pool.freeSlots := by
    rw [h.mem_freeSlots, hslot]
    simp
  constructor
  · rw [slotCount_afterRelease]
    exact h.size_arena
  · exact h.arena_lt
  · simpa [SlotPool.afterRelease, slotCount] using h.size_inUse
  · simpa [SlotPool.afterRelease, slotCount] using h.size_free
  · rw [slotCount_afterRelease]
    exact hlt
  · rw [hfree, List.nodup_cons]
    exact ⟨hnot, h.nodup_freeSlots⟩
  · intro other
    rw [hfree, List.mem_cons, h.mem_freeSlots, isInUse_afterRelease, slotCount_afterRelease]
    by_cases heq : other = slot
    · subst heq
      simpa using h.lt_of_isInUse hslot
    · simp [heq]
  · intro other
    rw [lengthAt_afterRelease]
    split
    · exact Nat.zero_le _
    · exact h.lengthAt_le other
  · intro other hother
    rw [lengthAt_afterRelease]
    split
    · rfl
    · rename_i hne
      rw [isInUse_afterRelease] at hother
      exact h.lengthAt_free other (by simpa [hne] using hother)

/-! ### Writing -/

/-- The pool after a payload has been copied into `slot`. -/
def afterWrite (pool : SlotPool) (slot : Nat) (payload : ByteArray) : SlotPool :=
  { pool with
    arena := overwrite pool.arena (slot * pool.slotSize) payload
    lengths := pool.lengths.setIfInBounds slot payload.size }

/-- A payload larger than a slot is refused, and the pool stays as it is. -/
theorem runOn_write_of_lt (slot : Nat) (hsize : pool.slotSize < payload.size) :
    (write slot payload).runOn pool =
      (.error (.refused (.oversized payload.size pool.slotSize)), pool) := by
  simp [write, hsize]

/-- The range into which a payload that fits is copied lies in the arena. -/
theorem WellFormed.start_add_size_le (h : pool.WellFormed) (hslot : slot < pool.slotCount)
    (hsize : payload.size ≤ pool.slotSize) :
    slot * pool.slotSize + payload.size ≤ pool.arena.size := by
  have := h.start_add_le hslot
  omega

/-- **Writing a payload that fits into a slot in use copies it there.** -/
theorem runOn_write (h : pool.WellFormed) (hslot : pool.isInUse slot = true)
    (hsize : payload.size ≤ pool.slotSize) :
    (write slot payload).runOn pool = (.ok (), pool.afterWrite slot payload) := by
  have hlt := h.lt_of_isInUse hslot
  have hflag := h.getElem?_inUse hlt
  have hend := h.start_add_size_le hlt hsize
  have hlength : slot < pool.lengths.size := hlt
  rw [hslot] at hflag
  simp [write, Nat.not_lt.mpr hsize, hflag, h.start_eq hlt, Action.ofFault, hend, hlength,
    afterWrite, overwrite]

/-- Writing does not change the number of slots. -/
@[simp] theorem slotCount_afterWrite :
    (pool.afterWrite slot payload).slotCount = pool.slotCount := by
  simp [afterWrite, slotCount]

/-- Writing does not change the size of the slots. -/
@[simp] theorem slotSize_afterWrite :
    (pool.afterWrite slot payload).slotSize = pool.slotSize := rfl

/-- Writing does not change the number of free slots. -/
@[simp] theorem freeCount_afterWrite :
    (pool.afterWrite slot payload).freeCount = pool.freeCount := rfl

/-- Writing leaves the stack of free slots as it is. -/
@[simp] theorem freeSlots_afterWrite :
    (pool.afterWrite slot payload).freeSlots = pool.freeSlots := rfl

/-- Writing changes nothing about which slots are in use. -/
@[simp] theorem isInUse_afterWrite (other : Nat) :
    (pool.afterWrite slot payload).isInUse other = pool.isInUse other := rfl

/-- The table says how long the new payload is; the other entries stay. -/
theorem lengthAt_afterWrite (hslot : slot < pool.slotCount) (other : Nat) :
    (pool.afterWrite slot payload).lengthAt other =
      if other = slot then payload.size else pool.lengthAt other := by
  have hlength : slot < pool.lengths.size := hslot
  by_cases heq : other = slot
  · subst heq
    simp [lengthAt, afterWrite, hlength]
  · simp [lengthAt, afterWrite, heq, Ne.symm heq]

/-- **A slot holds what was written last.** -/
theorem bytes_afterWrite_self (h : pool.WellFormed) (hslot : slot < pool.slotCount)
    (hsize : payload.size ≤ pool.slotSize) :
    (pool.afterWrite slot payload).bytes slot = payload := by
  rw [bytes, lengthAt_afterWrite hslot, if_pos rfl]
  exact extract_overwrite_self (h.start_add_size_le hslot hsize)

/-- **Slots lie apart.** Writing into one of them leaves the payloads of the others as they
are. -/
theorem bytes_afterWrite_of_ne (h : pool.WellFormed) (hslot : slot < pool.slotCount)
    (hsize : payload.size ≤ pool.slotSize) {other : Nat} (hne : other ≠ slot) :
    (pool.afterWrite slot payload).bytes other = pool.bytes other := by
  have hle := h.lengthAt_le other
  rw [bytes, lengthAt_afterWrite hslot, if_neg hne]
  refine extract_overwrite_apart (h.start_add_size_le hslot hsize) ?_
  rw [slotSize_afterWrite]
  rcases Nat.lt_or_gt_of_ne hne with hlt | hgt
  · left
    calc other * pool.slotSize + pool.lengthAt other
        ≤ other * pool.slotSize + pool.slotSize := Nat.add_le_add_left hle _
      _ = (other + 1) * pool.slotSize := by rw [Nat.add_mul, Nat.one_mul]
      _ ≤ slot * pool.slotSize := Nat.mul_le_mul_right _ hlt
  · right
    calc slot * pool.slotSize + payload.size
        ≤ slot * pool.slotSize + pool.slotSize := Nat.add_le_add_left hsize _
      _ = (slot + 1) * pool.slotSize := by rw [Nat.add_mul, Nat.one_mul]
      _ ≤ other * pool.slotSize := Nat.mul_le_mul_right _ hgt

/-- **Writing keeps a pool well-formed.** -/
theorem WellFormed.afterWrite (h : pool.WellFormed) (hslot : pool.isInUse slot = true)
    (hsize : payload.size ≤ pool.slotSize) : (pool.afterWrite slot payload).WellFormed := by
  have hlt := h.lt_of_isInUse hslot
  have hend := h.start_add_size_le hlt hsize
  constructor
  · rw [slotCount_afterWrite, slotSize_afterWrite, ← h.size_arena]
    exact size_overwrite hend
  · exact (size_overwrite hend).symm ▸ h.arena_lt
  · rw [slotCount_afterWrite]
    exact h.size_inUse
  · rw [slotCount_afterWrite]
    exact h.size_free
  · rw [slotCount_afterWrite]
    exact h.freeLen_le
  · exact h.nodup_freeSlots
  · intro other
    rw [slotCount_afterWrite]
    exact h.mem_freeSlots other
  · intro other
    rw [lengthAt_afterWrite hlt, slotSize_afterWrite]
    split
    · exact hsize
    · exact h.lengthAt_le other
  · intro other hother
    rw [lengthAt_afterWrite hlt]
    split
    · rename_i heq
      rw [isInUse_afterWrite, heq, hslot] at hother
      contradiction
    · exact h.lengthAt_free other hother

end StableQueue.SlotPool
