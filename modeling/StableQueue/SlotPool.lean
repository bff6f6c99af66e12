import StableQueue.Action
import StableQueue.Memory

/-!
# The Slot Pool

The payloads of a queue lie in one byte array, the arena, which is cut into slots of equal size:
slot `k` takes the bytes from `k * slotSize` up to `(k + 1) * slotSize`. A table says how many bytes
of each slot are valid, a second one which slots are in use, and a stack lists the slots that are
free. A slot is acquired by popping the stack and released by pushing it back, so the slot released
last is the next to be handed out.

The stack is an array of which only the first `freeLen` positions count. Nothing in the type
`SlotPool` ties the stack to the table of slots in use; every index is checked where it is used, and
a check that fails is a `Fault`.

The model is that of a build with debug assertions. Two of the checks, for a slot in use on the
stack and for a write into a free slot, are such assertions.

## Main definitions

* `SlotPool.acquire`, `SlotPool.release`: take a slot out of the pool and give it back
* `SlotPool.write`: copy a payload into a slot
* `SlotPool.payload`, `SlotPool.readInto`: look at the payload of a slot, copy it into a buffer
-/

namespace StableQueue

/-- Storage for a fixed number of payloads, with the bookkeeping of which slots are free. -/
structure SlotPool where
  /-- The bytes of all slots, one slot after the other. -/
  arena : ByteArray
  /-- The number of valid bytes in each slot. -/
  lengths : Array Nat
  /-- Whether each slot is in use. -/
  inUse : Array Bool
  /-- The stack of free slots, the next one to be handed out on top. -/
  free : Array Nat
  /-- The height of the stack. -/
  freeLen : Nat
  /-- The size of a slot in bytes. -/
  slotSize : Nat
  deriving DecidableEq

namespace SlotPool

/-- The number of bytes one entry of a table takes. -/
def wordBytes : Nat := 8

/-- A pool of `slotCount` free slots of `slotSize` bytes. Slot 0 is handed out first. -/
def new (slotCount slotSize : Nat) : Except Fault SlotPool :=
  if Memory.allocatable slotCount wordBytes && Memory.allocatable slotCount slotSize then
    .ok {
      arena := ⟨Array.replicate (slotCount * slotSize) 0⟩
      lengths := Array.replicate slotCount 0
      inUse := Array.replicate slotCount false
      free := (Array.range slotCount).reverse
      freeLen := slotCount
      slotSize := slotSize }
  else .error .capacityOverflow

/-- The number of slots, free or not. -/
def slotCount (pool : SlotPool) : Nat := pool.lengths.size

/-- The number of free slots. -/
def freeCount (pool : SlotPool) : Nat := pool.freeLen

/-- The slot exists and is in use. -/
def isInUse (pool : SlotPool) (slot : Nat) : Bool := pool.inUse[slot]?.getD false

/-- The free slots, the next one to be handed out first. -/
def freeSlots (pool : SlotPool) : List Nat := (pool.free.toList.take pool.freeLen).reverse

/-- The first byte of a slot, provided that the whole slot lies in the address space. -/
def start (pool : SlotPool) (slot : Nat) : Except Fault Nat :=
  if slot * pool.slotSize + pool.slotSize < Memory.addressSpace then .ok (slot * pool.slotSize)
  else .error .outOfBounds

/-- Take a free slot out of the pool; there is none if every slot is in use. That the slot on top of
the stack is not in use is a debug assertion (`Fault.liveSlotOnFreeStack`); without debug assertions
the slot would be handed out a second time. -/
def acquire : Action SlotPool (Option Nat) := do
  let pool ← get
  if pool.freeLen = 0 then
    return none
  let top := pool.freeLen - 1
  set { pool with freeLen := top }
  match pool.free[top]? with
  | none => Action.abort .outOfBounds
  | some slot =>
    match pool.inUse[slot]? with
    | none => Action.abort .outOfBounds
    | some true => Action.abort .liveSlotOnFreeStack
    | some false =>
      set { pool with freeLen := top, inUse := pool.inUse.setIfInBounds slot true }
      return some slot

/-- Give a slot back to the pool. Its payload is forgotten. -/
def release (slot : Nat) : Action SlotPool Unit := do
  let pool ← get
  unless pool.isInUse slot do
    Action.abort (.slotNotInUse slot)
  let pool := { pool with inUse := pool.inUse.setIfInBounds slot false }
  set pool
  unless slot < pool.lengths.size do
    Action.abort .outOfBounds
  let pool := { pool with lengths := pool.lengths.setIfInBounds slot 0 }
  set pool
  unless pool.freeLen < pool.free.size do
    Action.abort .outOfBounds
  set { pool with
    free := pool.free.setIfInBounds pool.freeLen slot
    freeLen := pool.freeLen + 1 }

/-- Copy a payload into a slot. A payload larger than a slot is refused before anything else is
looked at. That the slot is in use is a debug assertion (`Fault.writeToFreeSlot`); without debug
assertions the payload would be copied all the same. -/
def write (slot : Nat) (payload : ByteArray) : Action SlotPool Unit := do
  let pool ← get
  if pool.slotSize < payload.size then
    Action.refuse (.oversized payload.size pool.slotSize)
  match pool.inUse[slot]? with
  | none => Action.abort .outOfBounds
  | some false => Action.abort .writeToFreeSlot
  | some true => pure ()
  let start ← Action.ofFault (pool.start slot)
  unless start + payload.size ≤ pool.arena.size do
    Action.abort .outOfBounds
  let pool := { pool with arena := payload.copySlice 0 pool.arena start payload.size }
  set pool
  unless slot < pool.lengths.size do
    Action.abort .outOfBounds
  set { pool with lengths := pool.lengths.setIfInBounds slot payload.size }

/-- The valid bytes of a slot. -/
def payload (pool : SlotPool) (slot : Nat) : Except Fault ByteArray := do
  let start ← pool.start slot
  match pool.lengths[slot]? with
  | none => .error .outOfBounds
  | some len =>
    if start + len ≤ pool.arena.size then .ok (pool.arena.extract start (start + len))
    else .error .outOfBounds

/-- Copy the payload of a slot to the front of a buffer, and say how many bytes it has. A buffer
that cannot hold all of it is refused and left as it is; otherwise the bytes behind the payload are
left as they are. -/
def readInto (pool : SlotPool) (slot : Nat) (buffer : ByteArray) :
    Except Fault (Except Refusal Nat × ByteArray) := do
  let bytes ← pool.payload slot
  if buffer.size < bytes.size then
    return (.error (.bufferTooSmall bytes.size buffer.size), buffer)
  else
    return (.ok bytes.size, bytes.copySlice 0 buffer 0 bytes.size)

/-! ### A new pool -/

/-- A pool is refused exactly if one of its tables or its arena is too large to allocate. -/
theorem new_eq_error_iff {slotCount slotSize : Nat} {fault : Fault} :
    new slotCount slotSize = .error fault ↔ fault = .capacityOverflow ∧
      (Memory.maxAllocation < slotCount * wordBytes ∨
        Memory.maxAllocation < slotCount * slotSize) := by
  rw [new]
  split
  · rename_i h
    simp only [Memory.allocatable, Bool.and_eq_true, decide_eq_true_eq] at h
    simp only [reduceCtorEq, false_iff]
    omega
  · rename_i h
    simp only [Memory.allocatable, Bool.and_eq_true, decide_eq_true_eq] at h
    have hlarge : Memory.maxAllocation < slotCount * wordBytes ∨
        Memory.maxAllocation < slotCount * slotSize := by omega
    constructor
    · rintro ⟨rfl⟩
      exact ⟨rfl, hlarge⟩
    · rintro ⟨rfl, -⟩
      rfl

/-- All slots of a new pool are free, and they are handed out in ascending order. -/
theorem freeSlots_new {slotCount slotSize : Nat} {pool : SlotPool}
    (h : new slotCount slotSize = .ok pool) : pool.freeSlots = List.range slotCount := by
  rw [new] at h
  split at h
  · cases h
    simp [freeSlots, List.take_of_length_le]
  · contradiction

end SlotPool

end StableQueue
