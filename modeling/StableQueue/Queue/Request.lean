import StableQueue.Log
import StableQueue.Queue.Contents

/-!
# Requests and How They End

A `Request` is what a caller asks of a queue, an `Outcome` is what it gets back. Between the two a
call makes one or more passes through the lock of the queue. A `Pass` ends in one of two ways: the
caller parks on a condition, giving up the lock in the same moment, or it leaves with its outcome.
Who leaves may still owe a wake-up to parked callers; it is delivered after the lock is given up.
-/

namespace StableQueue

/-- What a caller can ask of a queue. -/
inductive Request where
  /-- Queue a payload with a priority. -/
  | send (payload : ByteArray) (priority : Int)
  /-- Take the first message, in a buffer of its own. -/
  | receive
  /-- Take the first message, in the buffer of the caller. -/
  | receiveInto (buffer : ByteArray)
  /-- Accept no more messages. -/
  | close
  deriving DecidableEq

/-- The buffer that the caller of a request has lent to the queue. -/
def Request.buffer : Request → ByteArray
  | .receiveInto buffer => buffer
  | _ => .empty

/-- What a successful call answers. -/
inductive Reply where
  /-- The request has been carried out; there is nothing to report. -/
  | done
  /-- A message with its payload. -/
  | message (header : Header) (payload : ByteArray)
  /-- A message whose payload lies at the front of the buffer of the caller. -/
  | filled (header : Header)
  deriving DecidableEq

/-- The end of a call: its result, and what is now in the buffer that the caller has lent. -/
structure Outcome where
  /-- The answer, or why there is none. -/
  result : Except Failure Reply
  /-- The buffer of the caller; empty for requests without one. -/
  buffer : ByteArray := .empty

/-- What parked callers wait for. -/
inductive Condition where
  /-- A message has been queued. -/
  | notEmpty
  /-- A slot has become free. -/
  | notFull
  deriving DecidableEq, Repr

/-- A wake-up for parked callers. -/
inductive Signal where
  /-- Wake one caller parked on the condition, if there is one. -/
  | one (condition : Condition)
  /-- Wake every caller parked on the condition. -/
  | all (condition : Condition)
  deriving DecidableEq, Repr

/-- The end of one pass through the lock. -/
inductive Pass where
  /-- The caller is parked. -/
  | park (condition : Condition)
  /-- The call is over. The wake-ups are delivered in order, then the records are written. -/
  | leave (outcome : Outcome) (owed : List Signal) (log : List Log.Event)

/-- Leave with a refusal, having done nothing. -/
def Pass.refuse (request : Request) (cause : Refusal) (log : List Log.Event) : Pass :=
  .leave { result := .error (.refused cause), buffer := request.buffer } [] log

/-- The contents of a queue together with the buffer lent by the caller who holds the lock. -/
structure Exchange where
  /-- The contents of the queue. -/
  contents : Contents
  /-- The buffer of the caller. -/
  buffer : ByteArray

namespace Exchange

/-- An operation on the contents of the queue. -/
def onContents {α : Type} : Action Contents α → Action Exchange α :=
  Action.onPart Exchange.contents fun contents exchange => { exchange with contents }

/-- Take out the first message. -/
def takeMessage : Action Exchange Reply := do
  let (header, payload) ← onContents (Contents.dequeueWith SlotPool.payload)
  return .message header payload

/-- Take out the first message if the buffer of the caller can hold it, and copy it there. Otherwise
the call is refused before anything is taken out. -/
def takeInto : Action Exchange Reply := do
  let exchange ← get
  match exchange.contents.heap.peekMax with
  | none => Action.refuse .empty
  | some next =>
    let payload ← Action.ofFault (exchange.contents.pool.payload next.slot)
    if exchange.buffer.size < payload.size then
      Action.refuse (.bufferTooSmall payload.size exchange.buffer.size)
    else
      let (header, copied, buffer) ←
        onContents (Contents.dequeueWith fun pool slot => pool.readInto slot exchange.buffer)
      modify fun exchange => { exchange with buffer }
      discard (Action.ofRefusal copied)
      return .filled header

end Exchange

end StableQueue
