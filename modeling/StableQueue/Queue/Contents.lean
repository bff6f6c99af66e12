import StableQueue.Action
import StableQueue.Config
import StableQueue.Heap.Basic
import StableQueue.SlotPool

/-!
# The Contents of a Queue

The contents of a queue are what its lock protects: the heap that orders the messages, the slot
pool that holds their payloads, the number the next message will get, and whether the queue has
been closed.

Every queued message has one heap entry and one slot in use, so the number of entries and the
number of free slots always add up to the depth. `enqueue` and `dequeueWith` check this after each
change, and a check that fails is a fault.
-/

namespace StableQueue

/-- What is known of a message besides its bytes. -/
structure Header where
  /-- The priority given by the sender. -/
  priority : Int
  /-- The number given on arrival. -/
  sequence : UInt64
  /-- The number of bytes of the payload. -/
  length : Nat
  deriving DecidableEq, Repr

/-- What the lock of a queue protects. -/
structure Contents where
  /-- The queued messages in the order they leave. -/
  heap : Heap
  /-- The payloads of the queued messages. -/
  pool : SlotPool
  /-- The number of the next message. -/
  nextSequence : UInt64
  /-- No more messages are accepted. -/
  closed : Bool

namespace Contents

/-- The contents of a new queue. -/
def new (config : Config) : Except Fault Contents := do
  let heap ← Heap.new config.depth
  let pool ← SlotPool.new config.depth config.messageSize
  return { heap, pool, nextSequence := 0, closed := false }

/-- The number of queued messages. -/
def occupancy (contents : Contents) : Nat := contents.heap.len

/-- There is a slot for another message. -/
def hasSpace (contents : Contents) : Bool := 0 < contents.pool.freeCount

/-- An operation on the slot pool. -/
def onPool {α : Type} : Action SlotPool α → Action Contents α :=
  Action.onPart Contents.pool fun pool contents => { contents with pool }

/-- Heap and slot pool agree on the number of messages, and the heap is in order. The order of the
heap is a debug assertion (`Fault.heapOrder`), which a build without them leaves out; the numbers
are compared in every build. -/
def checkSync : Action Contents Unit := do
  let contents ← get
  unless contents.heap.len + contents.pool.freeCount = contents.pool.slotCount do
    Action.abort .outOfSync
  unless contents.heap.IsOrdered do
    Action.abort .heapOrder

/-- Store a payload and queue it under the next number, which is the answer. The caller has made
sure that there is space. If the payload does not fit into a slot, the slot is given back. -/
def enqueue (payload : ByteArray) (priority : Int) : Action Contents UInt64 := do
  match ← onPool SlotPool.acquire with
  | none => Action.abort .noFreeSlot
  | some slot =>
    (onPool (SlotPool.write slot payload)).onRefusal (onPool (SlotPool.release slot))
    let contents ← get
    let sequence := contents.nextSequence
    let (inserted, heap) := contents.heap.insert { priority, sequence, slot }
    set { contents with heap, nextSequence := sequence + 1 }
    unless inserted do
      Action.abort .heapFull
    checkSync
    return sequence

/-- Take out the message that outranks all others. Its payload is handed to `copyOut` before the
slot is given back. -/
def dequeueWith {α : Type} (copyOut : SlotPool → Nat → Except Fault α) :
    Action Contents (Header × α) := do
  let contents ← get
  let (root, heap) := contents.heap.extractMax
  set { contents with heap }
  match root with
  | none => Action.abort .emptyHeap
  | some entry =>
    unless contents.pool.isInUse entry.slot do
      Action.abort (.freeSlotInHeap entry.slot)
    let payload ← Action.ofFault (contents.pool.payload entry.slot)
    let header := { priority := entry.priority, sequence := entry.sequence, length := payload.size }
    let copy ← Action.ofFault (copyOut contents.pool entry.slot)
    onPool (SlotPool.release entry.slot)
    checkSync
    return (header, copy)

end Contents

end StableQueue
