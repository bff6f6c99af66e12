import StableQueue.Clock
import StableQueue.Registry
import StableQueue.Queue.Live

/-!
# Queues

A `Queue` starts uncreated and refuses every request. `Queue.create` allocates its storage, enters
it into the registry and makes it usable; this succeeds at most once. `Queue.attempt` is one pass of
a request through the lock, `Queue.perform` the whole call of a caller who is alone.
-/

namespace StableQueue

/-- A bounded priority queue of messages. -/
inductive Queue where
  /-- Nothing has been allocated yet. -/
  | uncreated
  /-- The queue is usable. -/
  | created (live : Live)

namespace Queue

/-- The part of the queue that exists once it is created. -/
def live? : Queue → Option Live
  | uncreated => none
  | created live => some live

/-- Allocate storage for a configuration, and enter the queue into the registry. The storage comes
first, so a queue that cannot be created uses up no number. -/
def create (queue : Queue) (config : Config) : Action Host Queue :=
  match queue with
  | created _ => Action.refuse .alreadyCreated
  | uncreated => do
    Action.ofRefusal config.validate
    let contents ← Action.ofFault (Contents.new config)
    let id ← modifyGet (Host.register config.name)
    modify (Host.emit (.created config.name config.depth config.messageSize))
    return created { id, config, contents, telemetry := {} }

/-- A queue that is created at once. -/
def build (config : Config) : Action Host Queue := uncreated.create config

/-- What happens when the last holder lets go of the queue: a created one leaves the registry. -/
def retire (queue : Queue) (host : Host) : Host :=
  match queue with
  | uncreated => host
  | created live => host.unregister live.id

/-- One pass of a request through the lock. -/
def attempt (queue : Queue) (request : Request) (mayWait : Bool) : Pass × Queue :=
  match queue with
  | uncreated => (.refuse request .uninitialized [], uncreated)
  | created live =>
    let (pass, live) := live.attempt request mayWait
    (pass, created live)

/-- A whole call at time `now` by a caller who is alone with the queue: its outcome, the records it
writes, and the queue after it. Since nobody else acts, a parked caller is only woken by its
deadline, and then makes one more pass. A caller who parks without one never returns. -/
def perform (queue : Queue) (now : Nat) (request : Request) (patience : Patience) :
    Option (Outcome × List Log.Event × Queue) :=
  let deadline := patience.deadline now
  match queue.attempt request (deadline.allows now) with
  | (.leave outcome _ log, queue) => some (outcome, log, queue)
  | (.park _, queue) =>
    match deadline with
    | .instant _ =>
      match queue.attempt request false with
      | (.leave outcome _ log, queue) => some (outcome, log, queue)
      | (.park _, _) => none
    | _ => none

/-! ### Telemetry -/

/-- The number of queued messages. -/
def occupancy (queue : Queue) : Nat := (queue.live?.map (·.telemetry.occupancy)).getD 0

/-- The number of messages the queue can hold. -/
def capacity (queue : Queue) : Nat := (queue.live?.map (·.config.depth)).getD 0

/-- The largest payload of a message. -/
def messageSize (queue : Queue) : Nat := (queue.live?.map (·.config.messageSize)).getD 0

/-- The largest number of queued messages so far. -/
def highWaterMark (queue : Queue) : Nat := (queue.live?.map (·.telemetry.highWater)).getD 0

/-- How full the queue is. -/
def load (queue : Queue) : Load := .ofOccupancy queue.occupancy queue.capacity

/-- The name of the queue. -/
def name? (queue : Queue) : Option String := queue.live?.map (·.config.name)

/-- The number under which the queue is registered. -/
def id? (queue : Queue) : Option Nat := queue.live?.map (·.id)

/-- The queue has been created. -/
def isCreated (queue : Queue) : Bool := queue.live?.isSome

/-- The queue has been closed. -/
def isClosed (queue : Queue) : Bool := (queue.live?.map (·.telemetry.closed)).getD false

end Queue

end StableQueue
