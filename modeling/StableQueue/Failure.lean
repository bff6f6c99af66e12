/-!
# Ways a Call Can Fail

A call on a queue ends in one of three ways: it answers, it is *refused*, or it *faults*.

* A `Refusal` is an outcome the caller is told about and can act upon: the queue is full, the
  payload does not fit, and so on. A refused call has changed nothing.
* A `Fault` is a broken precondition of the storage underneath: a slot that is not in use is
  released, an index leaves its array, an allocation exceeds what the machine can address.
  It aborts the call.

`Failure` is the sum of the two.
-/

namespace StableQueue

/-- Why a queue refuses a call. -/
inductive Refusal where
  /-- The payload has `len` bytes, more than the `max` a message may carry. -/
  | oversized (len max : Nat)
  /-- No slot is free and the caller does not wait any longer. -/
  | full
  /-- No message is queued and the caller does not wait any longer. -/
  | empty
  /-- The queue has not been created yet. -/
  | uninitialized
  /-- The queue has been created before. -/
  | alreadyCreated
  /-- No queue can be created with this configuration. -/
  | invalidConfig (reason : String)
  /-- The next message has `len` bytes, more than the `capacity` of the receiving buffer. -/
  | bufferTooSmall (len capacity : Nat)
  /-- The queue has been closed and, for a receiver, drained. -/
  | closed
  deriving DecidableEq, Repr

namespace Refusal

/-- The sentence shown to a user for each cause. -/
def message : Refusal → String
  | oversized len max => s!"payload of {len} bytes exceeds the maximum message size of {max}"
  | full => "queue is full"
  | empty => "queue is empty"
  | uninitialized => "queue has not been created"
  | alreadyCreated => "queue has already been created"
  | invalidConfig reason => s!"invalid queue configuration: {reason}"
  | bufferTooSmall len capacity =>
    s!"receive buffer of {capacity} bytes cannot hold a {len} byte message"
  | closed => "queue has been closed"

/-- A transient refusal is one that waiting or trying again may turn into success. -/
def isTransient : Refusal → Bool
  | full | empty => true
  | _ => false

end Refusal

/-- A broken precondition of the storage under a queue. -/
inductive Fault where
  /-- An index, a slice bound or a size computation left its range. -/
  | outOfBounds
  /-- An allocation was requested that is larger than any the machine can make. -/
  | capacityOverflow
  /-- A slot was released that is out of range or not in use. -/
  | slotNotInUse (slot : Nat)
  /-- A payload was written into a slot that nobody has acquired. -/
  | writeToFreeSlot
  /-- The stack of free slots held a slot that is in use. -/
  | liveSlotOnFreeStack
  /-- Space was reported although every slot is in use. -/
  | noFreeSlot
  /-- The heap was full while a slot was still free. -/
  | heapFull
  /-- A message was to be taken from an empty heap. -/
  | emptyHeap
  /-- The heap referred to a slot that is not in use. -/
  | freeSlotInHeap (slot : Nat)
  /-- The heap and the slot pool disagree on the number of messages. -/
  | outOfSync
  /-- An entry of the heap outranks its parent. -/
  | heapOrder
  deriving DecidableEq, Repr

/-- The two faults a user of the slot pool can cause name themselves; the others are silent. -/
def Fault.message? : Fault → Option String
  | .slotNotInUse slot => some s!"SlotStore::release(): slot {slot} is not in use"
  | .writeToFreeSlot => some "write into a free slot"
  | _ => none

/-- The two ways in which a call can fail. -/
inductive Failure where
  /-- The caller is told why, and may try again. -/
  | refused (cause : Refusal)
  /-- The call was aborted. -/
  | faulted (fault : Fault)
  deriving DecidableEq, Repr

end StableQueue
