import StableQueue.Queue.Basic

/-!
# Producers and Consumers

A producer is a handle that can only send, a consumer one that can only receive. Both pass their
calls on to the queue they belong to, and report refusals as errors of the kinds that callers know
from input and output.

A consumer that does not wait for ever treats an empty queue as an answer, `none`, and not as an
error.
-/

namespace StableQueue

/-- The kinds of input and output errors that occur. -/
inductive ErrorKind where
  | wouldBlock
  | invalidInput
  | notConnected
  | alreadyExists
  | brokenPipe
  deriving DecidableEq, Repr

/-- An error reported by a handle. -/
structure HandleError where
  /-- The kind of the error. -/
  kind : ErrorKind
  /-- The sentence shown to a user. -/
  message : String
  deriving DecidableEq, Repr

namespace Refusal

/-- The kind of error as which a handle reports a refusal. -/
def kind : Refusal → ErrorKind
  | full | empty => .wouldBlock
  | oversized .. | invalidConfig _ | bufferTooSmall .. => .invalidInput
  | uninitialized => .notConnected
  | alreadyCreated => .alreadyExists
  | closed => .brokenPipe

/-- A refusal as a handle reports it. -/
def toHandleError (cause : Refusal) : HandleError := ⟨cause.kind, cause.message⟩

end Refusal

namespace Producer

/-- What a producer answers to a call of `send`. -/
def answer : Except Refusal Reply → Except HandleError Unit
  | .ok _ => .ok ()
  | .error cause => .error cause.toHandleError

end Producer

namespace Consumer

/-- The message in a reply. -/
def message? : Reply → Option (Header × ByteArray)
  | .message header payload => some (header, payload)
  | _ => none

/-- What a consumer answers to a call of `receive` of the given patience. -/
def answer (patience : Patience) :
    Except Refusal Reply → Except HandleError (Option (Header × ByteArray))
  | .ok reply => .ok (message? reply)
  | .error .empty =>
    if patience = .unlimited then .error Refusal.empty.toHandleError else .ok none
  | .error cause => .error cause.toHandleError

end Consumer

end StableQueue
