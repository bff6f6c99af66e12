import StableQueue.Queue.Request

/-!
# Created Queues

A `Live` queue is one that has been created. Besides its contents it publishes a `Telemetry` that
can be read without the lock.

The functions here are the passes through the lock, one for each kind of request. They are all
there is to the behaviour of a queue: a call is made of nothing but passes, and what other callers
do between two passes of a call are again passes. The flag `mayWait` says whether the caller may
still park.

* A sender looks first whether the queue is closed, then whether there is a free slot.
* A receiver looks first whether a message is queued, then whether the queue is closed, so that a
  closed queue can still be drained.
* A sender who has queued a message owes a wake-up to the receivers, a receiver who has taken one
  to the senders. A receiver whose buffer is too small leaves the message where it is, and owes its
  own wake-up to the next receiver.
* Who closes a queue owes a wake-up to everyone.
-/

namespace StableQueue

/-- What can be read off a queue without its lock. -/
structure Telemetry where
  /-- The number of queued messages. -/
  occupancy : Nat := 0
  /-- The largest number of queued messages so far. -/
  highWater : Nat := 0
  /-- The queue has been closed. -/
  closed : Bool := false
  deriving DecidableEq, Repr

/-- A queue that has been created. -/
structure Live where
  /-- The number under which the queue is registered. -/
  id : Nat
  /-- The configuration it was created from. -/
  config : Config
  /-- What its lock protects. -/
  contents : Contents
  /-- What can be read without the lock. -/
  telemetry : Telemetry

namespace Live

/-- Bring the telemetry up to date with the number of queued messages. -/
def publish (live : Live) : Live :=
  let occupancy := live.contents.occupancy
  { live with telemetry := { live.telemetry with
      occupancy, highWater := max live.telemetry.highWater occupancy } }

/-- One pass of a sender whose payload fits into a message. -/
def send (live : Live) (payload : ByteArray) (priority : Int) (mayWait : Bool) : Pass × Live :=
  let refuse cause := (Pass.refuse (.send payload priority) cause [], live)
  if live.contents.closed then refuse .closed
  else if live.contents.hasSpace then
    let (result, contents) := (Contents.enqueue payload priority).runOn live.contents
    let live := { live with contents }
    match result with
    | .ok sequence =>
      let live := live.publish
      let sent :=
        .sent live.config.name sequence priority payload.size live.contents.occupancy
      (.leave { result := .ok .done } [.one .notEmpty] [sent], live)
    | .error failure => (.leave { result := .error failure } [] [], live)
  else if mayWait then (.park .notFull, live)
  else refuse .full

/-- One pass of a receiver who takes a message out by `take`. -/
def receive (live : Live) (request : Request) (take : Action Exchange Reply) (mayWait : Bool) :
    Pass × Live :=
  let refuse cause := (Pass.refuse request cause [], live)
  if !live.contents.heap.isEmpty then
    let (result, exchange) := take.runOn ⟨live.contents, request.buffer⟩
    let live := { live with contents := exchange.contents }
    match result with
    | .ok reply =>
      let live := live.publish
      let received := .received live.config.name live.contents.occupancy
      (.leave ⟨.ok reply, exchange.buffer⟩ [.one .notFull] [received], live)
    | .error (.refused cause) =>
      let owed := if live.contents.heap.isEmpty then [] else [.one .notEmpty]
      (.leave ⟨.error (.refused cause), exchange.buffer⟩ owed [], live)
    | .error (.faulted fault) => (.leave ⟨.error (.faulted fault), exchange.buffer⟩ [] [], live)
  else if live.contents.closed then refuse .closed
  else if mayWait then (.park .notEmpty, live)
  else refuse .empty

/-- The pass of a caller who closes the queue. Only the first one has something to do. -/
def close (live : Live) : Pass × Live :=
  if live.contents.closed then (.leave { result := .ok .done } [] [], live)
  else
    let live := { live with
      contents := { live.contents with closed := true }
      telemetry := { live.telemetry with closed := true } }
    let owed := [.all .notEmpty, .all .notFull]
    (.leave { result := .ok .done } owed [.closed live.config.name], live)

/-- One pass of a request. A payload larger than any message is refused before the lock is taken.
This is checked on every pass, but as the configuration never changes only the first can fail. -/
def attempt (live : Live) (request : Request) (mayWait : Bool) : Pass × Live :=
  match request with
  | .send payload priority =>
    let max := live.config.messageSize
    if max < payload.size then
      (.refuse request (.oversized payload.size max)
        [.oversized live.config.name payload.size max], live)
    else live.send payload priority mayWait
  | .receive => live.receive request Exchange.takeMessage mayWait
  | .receiveInto _ => live.receive request Exchange.takeInto mayWait
  | .close => live.close

end Live

end StableQueue
