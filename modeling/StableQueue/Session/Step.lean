import StableQueue.Session.Time

/-!
# The Steps of a Session

A `Command` is what the caller of a session can do in one step; `Session.step` does it and reports
what came of it. A name that is used again stands for the new object from then on; the earlier one
is let go only after the new one has been made, and stays if that fails.
-/

namespace StableQueue

/-- What the caller of a session can do in one step. -/
inductive Command where
  /-- Make a queue without creating it. -/
  | newQueue (name : String)
  /-- Create the queue of an object. -/
  | create (target : Target) (config : Config)
  /-- Make a queue that is created at once. -/
  | build (name : String) (config : Config)
  /-- Make a queue that is created at once, and hold it by a producer and a consumer. -/
  | buildPair (producer consumer : String) (config : Config)
  /-- Hold the queue of an object by another object as well. -/
  | share (target newcomer : Target)
  /-- Let go of objects. -/
  | drop (targets : List Target)
  /-- List the names in the registry. -/
  | names
  /-- Count the names in the registry. -/
  | count
  /-- Enter a name into the registry, without a queue. -/
  | register (name : String)
  /-- Take a number out of the registry. -/
  | unregister (id : Nat)
  /-- Do something through an object. -/
  | run (target : Target) (errand : Errand)
  /-- Start a thread that does something through an object. -/
  | spawn (thread : String) (target : Target) (errand : Errand)
  /-- Wait for threads. -/
  | join (threads : List String)
  /-- Make a queue that is held by a foreign handle. -/
  | foreignNew (handle : String) (name : Option ByteArray) (depth messageSize : Nat)
  /-- Let go of a foreign handle. -/
  | foreignFree (handle : String)
  /-- Close the queue of a foreign handle. -/
  | foreignClose (handle : String)
  /-- The number of messages queued at a foreign handle. -/
  | foreignOccupancy (handle : String)
  /-- The number of messages the queue of a foreign handle can hold. -/
  | foreignCapacity (handle : String)
  /-- Send the first `len` bytes of some data. -/
  | foreignSend (handle : String) (data : Option ByteArray) (len : Nat) (priority : Int)
      (blocking : Bool)
  /-- Receive a message into the memory of the caller. -/
  | foreignReceive (handle : String) (lent : Foreign.Lent) (memory : Foreign.Memory)
      (blocking : Bool)
  deriving DecidableEq

namespace Session

/-- Run an operation on what the queues share. -/
def onHost {α : Type} (session : Session) (action : Action Host α) : Except Failure α × Session :=
  let (result, host) := action.runOn session.host
  (result, { session with host })

/-- Create the queue with some key. -/
def create (session : Session) (key : Nat) (config : Config) : Report × Session :=
  match session.monitor? key with
  | none => (.error .unknownObject, session)
  | some monitor =>
    match session.onHost (monitor.queue.create config) with
    | (.error cause, session) => (.ofFailure cause, session)
    | (.ok queue, session) =>
      (.ok .nothing, session.changeMonitor key fun monitor => { monitor with queue })

/-- Build a queue and hold it by all of the given objects. -/
def build (session : Session) (config : Config) (holders : List Target)
    (report : Failure → Report) : Report × Session :=
  match session.onHost (Queue.build config) with
  | (.error cause, session) => (report cause, session)
  | (.ok queue, session) =>
    let (key, session) := session.takeIn queue
    (.ok .nothing, holders.foldl (fun session target => session.hold target key) session)

/-- The queue of a foreign handle; none if the handle is missing. -/
def foreignQueue? (session : Session) (handle : String) : Option Queue := do
  let key ← session.handles.lookup handle
  let monitor ← session.monitor? key
  return monitor.queue

/-- Build a queue and hold it by a foreign handle. -/
def foreignNew (session : Session) (handle : String) (name : Option ByteArray)
    (depth messageSize : Nat) : Report × Session :=
  match session.onHost (Foreign.build name depth messageSize) with
  | (.error cause, session) => (.ofFailure cause, session)
  | (.ok none, session) => (.ok (.handle false), session)
  | (.ok (some queue), session) =>
    let (key, session) := session.takeIn queue
    (.ok (.handle true), session.holdHandle handle key)

/-- A call through a foreign handle: the status of a call that is known before it is made, or the
report of one that is made. -/
def foreignCall (session : Session) (handle : String) (request : Except Foreign.Status Request)
    (blocking : Bool) (early : Foreign.Status → Report)
    (late : Except Refusal Reply → ByteArray → Report) : Report × Session :=
  match session.handles.lookup handle, request with
  | none, _ => (early .uninitialized, session)
  | some _, .error status => (early status, session)
  | some key, .ok request =>
    match session.call key request (Foreign.patience blocking) with
    | (none, session) => (.error .neverReturns, session)
    | (some outcome, session) =>
      match outcome.result with
      | .ok reply => (late (.ok reply) outcome.buffer, session)
      | .error (.refused cause) => (late (.error cause) outcome.buffer, session)
      | .error (.faulted fault) => (.error (.faulted fault), session)

/-- Do something with the queue that an object holds, if it exists. -/
def withKey (session : Session) (target : Target) (act : Nat → Report × Session) :
    Report × Session :=
  match session.key? target with
  | none => (.error .unknownObject, session)
  | some key => act key

/-- Do something through an object, if it exists. -/
def run (session : Session) (target : Target) : Errand → Report × Session
  | .query query => (session.look target query, session)
  | .task task =>
    session.withKey target fun key =>
      match session.call key task.request task.patience with
      | (none, session) => (.error .neverReturns, session)
      | (some outcome, session) => (task.report target outcome, session)

/-- What a step reports: as a rule one thing, but for several threads one thing each. -/
inductive Result where
  | single (report : Report)
  | several (reports : List Report)

/-- The result of a step that reports one thing. -/
def single : Report × Session → Result × Session
  | (report, session) => (.single report, session)

/-- One step of a session. -/
def step (session : Session) : Command → Result × Session
  | .newQueue name =>
    let (key, session) := session.takeIn .uncreated
    single (.ok .nothing, session.hold (.queue name) key)
  | .create target config => single (session.withKey target fun key => session.create key config)
  | .build name config => single (session.build config [.queue name] .ofFailure)
  | .buildPair producer consumer config =>
    single (session.build config [.producer producer, .consumer consumer] .ofHandleFailure)
  | .share target newcomer =>
    single (session.withKey target fun key => (.ok .nothing, session.hold newcomer key))
  | .drop targets => single (.ok .nothing, targets.foldl drop session)
  | .names => single (.ok (.names session.host.registry.names), session)
  | .count => single (.ok (.number session.host.registry.count), session)
  | .register name =>
    let (id, host) := session.host.register name
    single (.ok (.number id), { session with host })
  | .unregister id => single (.ok .nothing, { session with host := session.host.unregister id })
  | .run target errand => single (session.run target errand)
  | .spawn thread target errand =>
    single (session.withKey target fun key =>
      (.ok .nothing, session.start thread key target errand))
  | .join threads =>
    let (reports, session) := session.joinAll threads
    (.several reports, session)
  | .foreignNew handle name depth messageSize =>
    single (session.foreignNew handle name depth messageSize)
  | .foreignFree handle => single (.ok .nothing, session.dropHandle handle)
  | .foreignClose handle =>
    single (session.foreignCall handle (.ok .close) false .ofStatus fun result _ =>
      .ofStatus (Foreign.status result))
  | .foreignOccupancy handle =>
    single (.ok (.number (((session.foreignQueue? handle).map Queue.occupancy).getD 0)), session)
  | .foreignCapacity handle =>
    single (.ok (.number (((session.foreignQueue? handle).map Queue.capacity).getD 0)), session)
  | .foreignSend handle data len priority blocking =>
    let request := Foreign.send data len priority
    single (session.foreignCall handle request blocking .ofStatus fun result _ =>
      .ofStatus (Foreign.status result))
  | .foreignReceive handle lent memory blocking =>
    let request := Foreign.receive lent memory
    let early status : Report := .ok (.foreignMessage status memory)
    single (session.foreignCall handle request blocking early fun result buffer =>
      .ok (.foreignMessage (Foreign.status result) (memory.after lent result buffer)))

end Session

end StableQueue
