import StableQueue.Queue.Basic
import StableQueue.Text.Utf8

/-!
# The Foreign Interface

Programs in other languages reach a queue through a handle, and get a status number for an answer.
Memory is passed by address, and an address may be missing. A missing handle is answered at once;
so are arguments that make no sense. All other calls are passed on to the queue, and `status` and
`Memory.after` say what the caller then sees.
-/

namespace StableQueue.Foreign

/-- The answers a foreign caller gets. -/
inductive Status where
  | ok
  | full
  | empty
  | sizeError
  | uninitialized
  | closed
  | invalidArgument
  deriving DecidableEq, Repr

/-- The number of a status. -/
def Status.code : Status → Int
  | .ok => 0
  | .full => -1
  | .empty => -2
  | .sizeError => -3
  | .uninitialized => -4
  | .closed => -5
  | .invalidArgument => -6

/-- The status of a refusal. Causes that a foreign caller can only have brought about by a wrong
argument share one status. -/
def Status.ofRefusal : Refusal → Status
  | .full => .full
  | .empty => .empty
  | .oversized .. => .sizeError
  | .uninitialized => .uninitialized
  | .closed => .closed
  | .alreadyCreated | .invalidConfig _ | .bufferTooSmall .. => .invalidArgument

/-- The status of a call that has been passed on. -/
def status : Except Refusal Reply → Status
  | .ok _ => .ok
  | .error cause => .ofRefusal cause

/-! ### Creating a queue -/

/-- The name in a block of bytes: what stands before the first zero byte, read as text. -/
def nameOf (bytes : ByteArray) : String :=
  .ofList (Text.Utf8.decodeLossy (bytes.toList.takeWhile (· ≠ 0)))

/-- The configuration asked for. Without a name the queue gets the usual one. -/
def config (name : Option ByteArray) (depth messageSize : Nat) : Config :=
  match name with
  | none => { depth, messageSize }
  | some bytes => { name := nameOf bytes, depth, messageSize }

/-- Build a queue. There is no handle if that is refused, but a record says why. -/
def build (name : Option ByteArray) (depth messageSize : Nat) : Action Host (Option Queue) :=
  fun host =>
    match (Queue.build (config name depth messageSize)).runOn host with
    | (.ok queue, host) => (.ok (some queue), host)
    | (.error (.refused cause), host) => (.ok none, host.emit (.foreignBuildRefused cause))
    | (.error (.faulted fault), host) => (.error (.faulted fault), host)

/-! ### Calls -/

/-- How long a foreign caller waits. -/
def patience (blocking : Bool) : Patience := if blocking then .unlimited else .impatient

/-- The request to send the first `len` bytes of `data`, unless the status is already known: there
must be data if its length is not zero. -/
def send (data : Option ByteArray) (len : Nat) (priority : Int) : Except Status Request :=
  if data.isNone && len ≠ 0 then .error .invalidArgument
  else .ok (.send ((data.getD .empty).extract 0 len) priority)

/-- The memory of a foreign caller that a call of `receive` may change. -/
structure Memory where
  /-- Where the length of the message is stored. -/
  length : Nat
  /-- Where the priority of the message is stored. -/
  priority : Int
  /-- Where the payload is stored. -/
  buffer : ByteArray
  deriving DecidableEq

/-- Which parts of its memory a foreign caller lends to a call of `receive`. The size of the buffer
is stated in any case. -/
structure Lent where
  /-- The buffer is lent. -/
  buffer : Bool := true
  /-- The place for the length is lent. -/
  length : Bool := true
  /-- The place for the priority is lent. -/
  priority : Bool := true
  deriving DecidableEq, Repr

/-- The request to receive a message into the memory of the caller, unless the status is already
known: the length must be asked for, and the buffer may be missing only if its size is zero. -/
def receive (lent : Lent) (memory : Memory) : Except Status Request :=
  if !lent.length || (!lent.buffer && memory.buffer.size ≠ 0) then .error .invalidArgument
  else .ok (.receiveInto memory.buffer)

/-- What a finished call of `receive` leaves in the memory of the caller. The length is stored for
a message that was received and for one that did not fit, the priority only for the former. -/
def Memory.after (memory : Memory) (lent : Lent) (result : Except Refusal Reply)
    (buffer : ByteArray) : Memory :=
  match result with
  | .ok (.filled header) =>
    { buffer
      length := header.length
      priority := if lent.priority then header.priority else memory.priority }
  | .error (.bufferTooSmall len _) => { memory with length := len, buffer }
  | _ => { memory with buffer }

end StableQueue.Foreign
