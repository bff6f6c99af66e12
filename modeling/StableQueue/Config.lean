import StableQueue.Failure
import StableQueue.Memory

/-!
# Configuration

A queue is created from a `Config`: its name, the number of messages it can hold and the largest
payload of one message. `Config.validate` refuses the ones from which no queue can be made, and
names the first thing that is wrong. `Load` is the coarse state of a queue that follows from the
number of messages in it.
-/

namespace StableQueue

/-- The parameters of a queue, fixed when it is created. -/
structure Config where
  /-- The name under which the queue is registered and logged. -/
  name : String := "queue"
  /-- The number of messages the queue can hold. -/
  depth : Nat := 64
  /-- The largest payload of a message, in bytes. -/
  messageSize : Nat := 256
  deriving DecidableEq, Repr

namespace Config

/-- Refuse a configuration without room for a single message, without room for a single byte, or
whose payloads together exceed the address space. -/
def validate (config : Config) : Except Refusal Unit :=
  if config.depth = 0 then
    .error (.invalidConfig "depth must be greater than zero")
  else if config.messageSize = 0 then
    .error (.invalidConfig "message size must be greater than zero")
  else if Memory.addressSpace ≤ config.depth * config.messageSize then
    .error (.invalidConfig "depth * message size overflows the address space")
  else .ok ()

/-- A configuration is valid if it has room for a message and for a byte, and its payloads fit into
the address space. -/
theorem validate_eq_ok_iff {config : Config} :
    config.validate = .ok () ↔ 0 < config.depth ∧ 0 < config.messageSize ∧
      config.depth * config.messageSize < Memory.addressSpace := by
  rw [validate]
  split
  · simp [*]
  · split
    · simp [*]
    · split <;> simp <;> omega

end Config

/-- How full a queue is. -/
inductive Load where
  /-- No message is queued. -/
  | empty
  /-- There are messages, and room for more. -/
  | between
  /-- No room is left. -/
  | full
  deriving DecidableEq, Repr

namespace Load

/-- The load of a queue of the given capacity. An empty queue is `empty` whatever its
capacity. -/
def ofOccupancy (occupancy capacity : Nat) : Load :=
  if occupancy = 0 then empty
  else if capacity ≤ occupancy then full
  else between

/-- A load is `empty` exactly if nothing is queued. -/
theorem ofOccupancy_eq_empty_iff {occupancy capacity : Nat} :
    ofOccupancy occupancy capacity = empty ↔ occupancy = 0 := by
  rw [ofOccupancy]
  split
  · simp [*]
  · split <;> simp [*]

/-- A load is `full` exactly if something is queued and no room is left. -/
theorem ofOccupancy_eq_full_iff {occupancy capacity : Nat} :
    ofOccupancy occupancy capacity = full ↔ 0 < occupancy ∧ capacity ≤ occupancy := by
  rw [ofOccupancy]
  split
  · simp [*]
  · split <;> simp <;> omega

/-- A load is `between` exactly if something is queued and there is room for more. -/
theorem ofOccupancy_eq_between_iff {occupancy capacity : Nat} :
    ofOccupancy occupancy capacity = between ↔ 0 < occupancy ∧ occupancy < capacity := by
  rw [ofOccupancy]
  split
  · simp [*]
  · split <;> simp <;> omega

/-- The name of a load. -/
def text : Load → String
  | empty => "Empty"
  | between => "Partial"
  | full => "Full"

end Load

end StableQueue
