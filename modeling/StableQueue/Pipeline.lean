import StableQueue.Handle
import StableQueue.Monitor

/-!
# Pipelines

A pipeline is a queue with some threads that send and some that receive. Every sender sends its
messages one after the other, waiting for room; every receiver receives, waiting for messages, until
that fails. When all messages have been sent the queue is closed, which lets the receivers drain it
and end.

What is reported of a run does not depend on the order in which the threads get their turns, as long
as messages that are compared for their order come from one sender.
-/

namespace StableQueue.Pipeline

/-- A message as a sender has it. -/
abbrev Message := ByteArray × Int

/-- A thread of a pipeline, with what it has seen so far. -/
inductive Worker where
  /-- A sender with the messages that are not sent yet. -/
  | sender (pending : List Message) (results : List (Except HandleError Unit))
  /-- A receiver; it ends with an error. -/
  | receiver (received : List (Header × ByteArray)) (final : Option HandleError)

namespace Worker

/-- What the thread asks of the queue next; nothing if it has ended. -/
def next? : Worker → Option Request
  | sender ((payload, priority) :: _) _ => some (.send payload priority)
  | sender [] _ => none
  | receiver _ none => some .receive
  | receiver _ (some _) => none

/-- The thread has messages to send. -/
def isSending : Worker → Bool
  | sender pending _ => !pending.isEmpty
  | receiver .. => false

/-- What the thread knows after a call has returned. -/
def learn (worker : Worker) (result : Except Refusal Reply) : Worker :=
  match worker with
  | sender pending results => sender pending.tail (results ++ [Producer.answer result])
  | receiver received final =>
    match Consumer.answer .unlimited result with
    | .ok message => receiver (received ++ message.toList) final
    | .error error => receiver received (some error)

end Worker

/-- A pipeline in operation. -/
structure State where
  /-- The queue and the threads at it. -/
  monitor : Monitor
  /-- The threads; the position of a thread tells it apart. -/
  workers : List Worker
  /-- The queue has been closed. -/
  closed : Bool := false

namespace State

/-- The next call of the thread at some position, if it makes one. -/
def resume (state : State) (token : Nat) : State :=
  match (state.workers[token]?).bind Worker.next? with
  | none => state
  | some request =>
    { state with monitor := state.monitor.arrive { token, request, deadline := .never } }

/-- A call of the thread at some position has returned. -/
def accept (state : State) (call : Nat × Outcome) : State :=
  match call.2.result with
  | .ok reply => { state with workers := state.workers.modify call.1 (·.learn (.ok reply)) }
  | .error (.refused cause) =>
    { state with workers := state.workers.modify call.1 (·.learn (.error cause)) }
  | .error (.faulted _) => state

/-- Close the queue, on behalf of nobody. -/
def close (state : State) : State :=
  { state with
    closed := true
    monitor := state.monitor.arrive
      { token := state.workers.length, request := .close, deadline := .immediate } }

/-- Let the threads take turns, at most `fuel` times round: those whose calls have returned make
their next calls, and once every message has been sent the queue is closed. -/
def run : Nat → State → State
  | 0, state => state
  | fuel + 1, state =>
    let monitor := state.monitor.settle 0
    let calls := monitor.returned
    let state := { state with monitor := { monitor with returned := [] } }
    if calls.isEmpty then
      if state.closed || state.workers.any Worker.isSending then state else run fuel state.close
    else
      run fuel ((calls.map Prod.fst).foldl resume (calls.foldl accept state))

end State

/-- A pipeline before its threads have made their first calls, the receivers first. -/
def start (queue : Queue) (receivers : Nat) (messages : List (List Message)) : State :=
  let workers := List.replicate receivers (.receiver [] none) ++ messages.map (.sender · [])
  (List.range workers.length).foldl State.resume { monitor := { queue }, workers }

/-- A bound on the number of rounds: in each of them but two a call returns, every message is sent
once and received at most once, and every receiver fails once. -/
def rounds (receivers : Nat) (messages : List (List Message)) : Nat :=
  2 * messages.flatten.length + receivers + 4

/-! ### What is reported -/

/-- One text of bytes stands before another in the order of dictionaries. -/
def dictionaryLe (a b : ByteArray) : Bool := !decide (b.toList < a.toList)

/-- The order in which received messages are listed: by their bytes, then by priority. -/
def listedLe (a b : Message) : Bool :=
  if a.1 = b.1 then a.2 ≤ b.2 else dictionaryLe a.1 b.1

/-- The messages of one kind: those that begin with the same byte, or with none, and have the same
priority. -/
abbrev Kind := Option UInt8 × Int

/-- The kind of a message. -/
def Kind.of (message : Message) : Kind := (message.1.toList.head?, message.2)

/-- Messages sorted by kind; those of each kind stay in order. -/
def groupByKind (messages : List Message) : List (Kind × List ByteArray) :=
  (messages.map Kind.of).eraseDups.map fun kind =>
    (kind, (messages.filter (Kind.of · = kind)).map Prod.fst)

/-- What is reported of a run of a pipeline. -/
structure Report where
  /-- For every sender, how its calls ended. -/
  sends : List (List (Except HandleError Unit))
  /-- All messages that were received, as they are listed. -/
  received : List Message
  /-- The numbers of all messages that were received, in ascending order. -/
  sequences : List UInt64
  /-- For every receiver, the error it ended with. -/
  finals : List (Option HandleError)
  /-- The high-water mark is at most the capacity. -/
  highWaterInBounds : Bool
  /-- The number of messages left in the queue. -/
  occupancy : Nat
  /-- If there is only one receiver, what it received of each kind. -/
  order : Option (List (Kind × List ByteArray))

/-- The report on a pipeline that has come to rest. -/
def State.report (state : State) : Report :=
  let queue := state.monitor.queue
  let received := state.workers.filterMap fun
    | .receiver received _ => some received
    | .sender .. => none
  let message : Header × ByteArray → Message := fun (header, bytes) => (bytes, header.priority)
  { sends := state.workers.filterMap fun
      | .sender _ results => some results
      | .receiver .. => none
    received := (received.flatten.map message).mergeSort listedLe
    sequences := (received.flatten.map (·.1.sequence)).mergeSort (· ≤ ·)
    finals := state.workers.filterMap fun
      | .receiver _ final => some final
      | .sender .. => none
    highWaterInBounds := queue.highWaterMark ≤ queue.capacity
    occupancy := queue.occupancy
    order := match received with
      | [received] => some (groupByKind (received.map message))
      | _ => none }

/-- Build a queue and run a pipeline on it. -/
def run (config : Config) (receivers : Nat) (messages : List (List Message)) :
    Except Failure Report :=
  ((Queue.build config).runOn {}).1.map fun queue =>
    ((start queue receivers messages).run (rounds receivers messages)).report

end StableQueue.Pipeline
