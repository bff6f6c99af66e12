import StableQueue.Failure

/-!
# Log Records

Queues report what happens to them as log records. A record is kept as the event it is about;
`Event.level` and `Event.message` give the form in which it is written.
-/

namespace StableQueue.Log

/-- How important a record is. -/
inductive Level where
  | trace
  | debug
  | warn
  | error
  deriving DecidableEq, Repr

/-- The name of a level. -/
def Level.text : Level → String
  | .trace => "TRACE"
  | .debug => "DEBUG"
  | .warn => "WARN"
  | .error => "ERROR"

/-- What a log record is about. -/
inductive Event where
  /-- A name was registered under a new number. -/
  | registered (name : String) (id : Nat)
  /-- A number was taken out of the registry. -/
  | unregistered (name : String) (id : Nat)
  /-- A queue was created. -/
  | created (queue : String) (depth messageSize : Nat)
  /-- A payload larger than any message of the queue was refused. -/
  | oversized (queue : String) (len max : Nat)
  /-- A message was accepted; `occupancy` counts it. -/
  | sent (queue : String) (sequence : UInt64) (priority : Int) (len occupancy : Nat)
  /-- A message was handed out; `occupancy` no longer counts it. -/
  | received (queue : String) (occupancy : Nat)
  /-- A queue was closed. -/
  | closed (queue : String)
  /-- A caller from outside asked for a queue that could not be built. -/
  | foreignBuildRefused (cause : Refusal)
  deriving DecidableEq, Repr

namespace Event

/-- The level at which an event is written: messages are traced, the life of a queue is for
debugging, a payload that cannot ever fit is a warning and a queue that cannot be built an
error. -/
def level : Event → Level
  | registered .. | unregistered .. | created .. | closed .. => .debug
  | sent .. | received .. => .trace
  | oversized .. => .warn
  | foreignBuildRefused _ => .error

/-- The sentence written for an event. -/
def message : Event → String
  | registered name id => s!"registry: queue '{name}' registered as #{id}"
  | unregistered name id => s!"registry: queue '{name}' (#{id}) unregistered"
  | created queue depth messageSize =>
    s!"queue '{queue}' created: depth={depth} message_size={messageSize}"
  | oversized queue len max => s!"queue '{queue}': rejected {len} byte payload (max {max})"
  | sent queue sequence priority len occupancy =>
    s!"queue '{queue}': sent seq={sequence} priority={priority} len={len} occupancy={occupancy}"
  | received queue occupancy => s!"queue '{queue}': received, occupancy={occupancy}"
  | closed queue => s!"queue '{queue}' closed"
  | foreignBuildRefused cause => s!"FFI Error: Failed to build queue: {cause.message}"

end Event

end StableQueue.Log
