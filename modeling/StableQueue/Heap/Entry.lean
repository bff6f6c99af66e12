import StableQueue.Serial

/-!
# Heap Entries

A heap entry is what the heap knows of a queued message: its priority, its arrival number and
the slot that holds its payload. `Entry.outranks` says which of two entries leaves first.
-/

namespace StableQueue

/-- A queued message as the heap sees it. -/
structure Entry where
  /-- The priority given by the sender; the higher one leaves first. -/
  priority : Int
  /-- The arrival number; among equal priorities the older one leaves first. -/
  sequence : UInt64
  /-- The slot that holds the payload. -/
  slot : Nat
  deriving DecidableEq, Repr

namespace Entry

/-- What an array position holds before any entry has been stored there. -/
def blank : Entry := ⟨0, 0, 0⟩

/-- The entry `x` must leave the heap before `y`: it has the higher priority or, at the same
priority, the earlier serial number. The slot plays no part. -/
def outranks (x y : Entry) : Bool :=
  if x.priority = y.priority then Serial.before x.sequence y.sequence
  else y.priority < x.priority

/-- No entry outranks itself. -/
@[simp] theorem outranks_self (x : Entry) : x.outranks x = false := by
  simp [outranks]

end Entry

end StableQueue
