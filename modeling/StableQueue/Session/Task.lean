import StableQueue.Foreign
import StableQueue.Handle

/-!
# Tasks and Reports

A `Task` is a call as it is made through an object: through the queue itself, through a producer or
through a consumer. The object decides nothing about what the queue does, only about how the
outcome is reported: the queue speaks of refusals, a handle of errors of some kind, and a consumer
leaves out what its caller has not asked for.
-/

namespace StableQueue

/-- An object through which a queue is reached, by name. -/
inductive Target where
  | queue (name : String)
  | producer (name : String)
  | consumer (name : String)
  deriving DecidableEq, Repr

/-- A call that can be made through an object. -/
inductive Task where
  /-- Send a payload. -/
  | send (payload : ByteArray) (priority : Int) (patience : Patience)
  /-- Receive a message. -/
  | receive (patience : Patience)
  /-- Receive a message together with its header. -/
  | receiveWithHeader (patience : Patience)
  /-- Receive a message into a buffer. -/
  | receiveInto (buffer : ByteArray) (patience : Patience)
  /-- Close the queue. -/
  | close
  deriving DecidableEq

namespace Task

/-- What the task asks of the queue. -/
def request : Task → Request
  | send payload priority _ => .send payload priority
  | receive _ | receiveWithHeader _ => .receive
  | receiveInto buffer _ => .receiveInto buffer
  | close => .close

/-- How long the task may wait. -/
def patience : Task → Patience
  | send _ _ patience | receive patience | receiveWithHeader patience | receiveInto _ patience =>
    patience
  | close => .impatient

end Task

/-- The particulars of a queue. -/
structure Particulars where
  created : Bool
  name : Option String
  id : Option Nat
  capacity : Nat
  messageSize : Nat
  occupancy : Nat
  highWaterMark : Nat
  load : Load
  closed : Bool
  deriving DecidableEq, Repr

/-- The particulars of a queue. -/
def Queue.particulars (queue : Queue) : Particulars where
  created := queue.isCreated
  name := queue.name?
  id := queue.id?
  capacity := queue.capacity
  messageSize := queue.messageSize
  occupancy := queue.occupancy
  highWaterMark := queue.highWaterMark
  load := queue.load
  closed := queue.isClosed

/-- What a successful step of a session reports. -/
inductive Answer where
  /-- There is nothing to report. -/
  | nothing
  | number (n : Nat)
  | text (text : String)
  | names (names : List String)
  | bytes (bytes : ByteArray)
  | message (header : Header) (bytes : ByteArray)
  | particulars (particulars : Particulars)
  /-- There is a handle, or there is none. -/
  | handle (present : Bool)
  | status (status : Foreign.Status)
  | foreignMessage (status : Foreign.Status) (memory : Foreign.Memory)
  deriving DecidableEq

/-- Why a step of a session has no answer. -/
inductive Problem where
  /-- A queue refused the call. If the caller has lent a buffer, this is what it holds now. -/
  | refused (cause : Refusal) (buffer : Option ByteArray)
  /-- A handle reported an error. -/
  | handle (error : HandleError)
  /-- The call was aborted. -/
  | faulted (fault : Fault)
  /-- There is no object of that name. -/
  | unknownObject
  /-- The call waits for something that never happens. -/
  | neverReturns
  deriving DecidableEq

/-- What a step of a session reports. -/
abbrev Report := Except Problem Answer

namespace Report

/-- A message, or nothing. -/
def ofMessage (message : Option (Header × ByteArray)) : Report :=
  .ok (match message with
    | none => .nothing
    | some (header, bytes) => .message header bytes)

/-- A payload, or nothing. -/
def ofPayload (message : Option (Header × ByteArray)) : Report :=
  .ok (match message with
    | none => .nothing
    | some (_, bytes) => .bytes bytes)

/-- The report of a handle. -/
def ofHandle {α : Type} (report : α → Report) : Except HandleError α → Report
  | .ok a => report a
  | .error error => .error (.handle error)

/-- The report of a status. -/
def ofStatus (status : Foreign.Status) : Report := .ok (.status status)

/-- The report of a failure by the queue itself. -/
def ofFailure : Failure → Report
  | .refused cause => .error (.refused cause none)
  | .faulted fault => .error (.faulted fault)

/-- The report of a failure by a handle. -/
def ofHandleFailure : Failure → Report
  | .refused cause => .error (.handle cause.toHandleError)
  | .faulted fault => .error (.faulted fault)

/-- The report of the queue itself. Of a message received into a buffer the whole buffer is
shown. -/
def ofQueue (task : Task) (buffer : ByteArray) : Except Refusal Reply → Report
  | .ok .done => .ok .nothing
  | .ok (.message header bytes) => .ok (.message header bytes)
  | .ok (.filled header) => .ok (.message header buffer)
  | .error cause =>
    match task with
    | .receiveInto .. => .error (.refused cause (some buffer))
    | _ => .error (.refused cause none)

end Report

/-- The report of a task that was carried out through an object. -/
def Task.report (task : Task) (target : Target) (outcome : Outcome) : Report :=
  let answered (result : Except Refusal Reply) : Report :=
    match target, task with
    | .producer _, .send .. => .ofHandle (fun _ => .ok .nothing) (Producer.answer result)
    | .consumer _, .receive patience => .ofHandle .ofPayload (Consumer.answer patience result)
    | .consumer _, .receiveWithHeader patience =>
      .ofHandle .ofMessage (Consumer.answer patience result)
    | _, _ => .ofQueue task outcome.buffer result
  match outcome.result with
  | .ok reply => answered (.ok reply)
  | .error (.refused cause) => answered (.error cause)
  | .error (.faulted fault) => .error (.faulted fault)

end StableQueue
