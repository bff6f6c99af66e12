import Mathlib
import StableQueue.Queue.Request

/-!
# The Ledger: What a Queue Is to Its Callers

A `Ledger` is a queue without its storage: the bag of queued messages, whether the queue is closed,
and how many messages have been accepted so far. `Ledger.answer` says how a call ends and what it
does to the ledger. It knows of no slots, no heap, no waiting and no lock, so it is what the
outcomes of calls at a real queue are compared with.

The bag is listed in the order of arrival. Of its members, the one with the highest priority leaves
first, and among those the one that arrived first; `Message.Leads` says so of two messages.

## Main results

* `Ledger.first?_eq_none_iff`, `Ledger.first?_eq_some_of_leads`: which message is the first.
* `Ledger.answer_cases`: the ways in which a call can end.
* `Ledger.run_append`: calls made one after the other.
* `Ledger.arrivals_run`: the numbers used up are those of the accepted messages.
* `Ledger.answer_not_faulted`: no call faults.
-/

namespace StableQueue

/-- A message as its sender knows it, with the number of messages accepted before it. -/
structure Message where
  /-- The priority given by the sender. -/
  priority : Int
  /-- The number of messages accepted before. -/
  number : Nat
  /-- The bytes sent. -/
  payload : ByteArray
  deriving DecidableEq

namespace Message

/-- One message leads another if it has the higher priority, or the same one and no greater
number. -/
def Leads (x y : Message) : Prop :=
  y.priority < x.priority ∨ (x.priority = y.priority ∧ x.number ≤ y.number)

instance (x y : Message) : Decidable (x.Leads y) :=
  inferInstanceAs (Decidable (y.priority < x.priority ∨ _))

/-- What the receiver is told besides the bytes. -/
def header (message : Message) : Header where
  priority := message.priority
  sequence := .ofNat message.number
  length := message.payload.size

/-- Every message leads itself. -/
theorem Leads.refl (x : Message) : x.Leads x := .inr ⟨rfl, Nat.le_refl _⟩

/-- Of two messages, one leads the other. -/
theorem Leads.total (x y : Message) : x.Leads y ∨ y.Leads x := by
  simp only [Leads]
  omega

/-- Who leads a leader leads those it leads. -/
theorem Leads.trans {x y z : Message} (hxy : x.Leads y) (hyz : y.Leads z) : x.Leads z := by
  simp only [Leads] at hxy hyz ⊢
  omega

/-- Two messages that lead each other have one number. -/
theorem Leads.number_eq {x y : Message} (hxy : x.Leads y) (hyx : y.Leads x) :
    x.number = y.number := by
  simp only [Leads] at hxy hyx
  omega

/-- Some message of a bag leads all of them, unless the bag is empty. -/
theorem exists_leader {messages : List Message} (h : messages ≠ []) :
    ∃ leader ∈ messages, ∀ other ∈ messages, leader.Leads other := by
  induction messages with
  | nil => contradiction
  | cons first others ih =>
      by_cases hnone : others = []
      · refine ⟨first, List.mem_cons_self, fun other hother => ?_⟩
        rw [hnone, List.mem_singleton] at hother
        rw [hother]
        exact .refl first
      · obtain ⟨leader, hleader, hleads⟩ := ih hnone
        rcases Leads.total first leader with hfirst | hfirst
        · refine ⟨first, List.mem_cons_self, fun other hother => ?_⟩
          rcases List.mem_cons.mp hother with rfl | hother
          · exact .refl other
          · exact hfirst.trans (hleads other hother)
        · refine ⟨leader, List.mem_cons_of_mem _ hleader, fun other hother => ?_⟩
          rcases List.mem_cons.mp hother with rfl | hother
          · exact hfirst
          · exact hleads other hother

end Message

/-- The outcome of a call that is refused: the buffer of the caller is as it was. -/
def Outcome.refused (request : Request) (cause : Refusal) : Outcome :=
  { result := .error (.refused cause), buffer := request.buffer }

/-- What a caller with this request waits for; nothing if the request never waits. -/
def Request.awaits : Request → Option Condition
  | .send .. => some .notFull
  | .receive | .receiveInto _ => some .notEmpty
  | .close => none

/-- Those who wait for a message are the receivers. -/
theorem Request.awaits_eq_notEmpty_iff {request : Request} :
    request.awaits = some .notEmpty ↔
      request = .receive ∨ ∃ buffer, request = .receiveInto buffer := by
  cases request <;> simp [awaits]

/-- How a receiver leaves who is handed a message that it has room for. -/
def Request.delivery (message : Message) : Request → Outcome
  | .receiveInto buffer =>
    { result := .ok (.filled message.header)
      buffer := message.payload ++ buffer.extract message.payload.size buffer.size }
  | _ => { result := .ok (.message message.header message.payload) }

/-- The receiver has room for a message. -/
def Request.hasRoom (message : Message) : Request → Bool
  | .receiveInto buffer => message.payload.size ≤ buffer.size
  | _ => true

/-- A queue without its storage. -/
structure Ledger where
  /-- The queued messages, in the order of their arrival. -/
  messages : List Message := []
  /-- No more messages are accepted. -/
  closed : Bool := false
  /-- The number of messages accepted so far. -/
  arrivals : Nat := 0

namespace Ledger

/-- The message that leaves first: it leads all that are queued. -/
def first? (ledger : Ledger) : Option Message :=
  ledger.messages.find? fun message => ledger.messages.all fun other => message.Leads other

/-- Queue a payload under the next number. -/
def accept (ledger : Ledger) (payload : ByteArray) (priority : Int) : Ledger :=
  { ledger with
    messages := ledger.messages ++ [{ priority, number := ledger.arrivals, payload }]
    arrivals := ledger.arrivals + 1 }

/-- Take a message out. -/
def remove (ledger : Ledger) (message : Message) : Ledger :=
  { ledger with messages := ledger.messages.erase message }

/-- Why nothing can be received while no message is queued. -/
def emptyCause (ledger : Ledger) : Refusal := if ledger.closed then .closed else .empty

/-- How a send ends that does not wait, and what it leaves behind. -/
def send (config : Config) (ledger : Ledger) (payload : ByteArray) (priority : Int) :
    Outcome × Ledger :=
  let refuse cause := (Outcome.refused (.send payload priority) cause, ledger)
  if config.messageSize < payload.size then
    refuse (.oversized payload.size config.messageSize)
  else if ledger.closed then refuse .closed
  else if ledger.messages.length = config.depth then refuse .full
  else ({ result := .ok .done }, ledger.accept payload priority)

/-- How a receive ends that does not wait, and what it leaves behind. -/
def receive (ledger : Ledger) : Outcome × Ledger :=
  match ledger.first? with
  | none => (.refused .receive ledger.emptyCause, ledger)
  | some message =>
    ({ result := .ok (.message message.header message.payload) }, ledger.remove message)

/-- How a receive into a buffer ends that does not wait, and what it leaves behind. The message
stands at the front of the buffer, and what stood behind is still there. -/
def receiveInto (ledger : Ledger) (buffer : ByteArray) : Outcome × Ledger :=
  let refuse cause := (Outcome.refused (.receiveInto buffer) cause, ledger)
  match ledger.first? with
  | none => refuse ledger.emptyCause
  | some message =>
    let size := message.payload.size
    if buffer.size < size then refuse (.bufferTooSmall size buffer.size)
    else
      ({ result := .ok (.filled message.header)
         buffer := message.payload ++ buffer.extract size buffer.size },
        ledger.remove message)

/-- How a call ends that does not wait, and what it leaves behind. -/
def answer (config : Config) (ledger : Ledger) : Request → Outcome × Ledger
  | .send payload priority => ledger.send config payload priority
  | .receive => ledger.receive
  | .receiveInto buffer => ledger.receiveInto buffer
  | .close => ({ result := .ok .done }, { ledger with closed := true })

end Ledger

/-- A call that is over. -/
structure Finished where
  /-- What was asked. -/
  request : Request
  /-- How it ended. -/
  outcome : Outcome

namespace Finished

/-- The call was a send and its message was accepted. -/
def isAccepted (call : Finished) : Bool :=
  match call.request, call.outcome.result with
  | .send .., .ok _ => true
  | _, _ => false

/-- The call was aborted by a broken precondition of the storage. -/
def isFaulted (call : Finished) : Bool :=
  match call.outcome.result with
  | .error (.faulted _) => true
  | _ => false

/-- The message that the call has handed out. -/
def delivered? (call : Finished) : Option Message :=
  match call.outcome.result with
  | .ok (.message header payload) => some ⟨header.priority, header.sequence.toNat, payload⟩
  | .ok (.filled header) =>
    some ⟨header.priority, header.sequence.toNat, call.outcome.buffer.extract 0 header.length⟩
  | _ => none

end Finished

/-- How many of the calls were sends whose messages were accepted. -/
def acceptedCount (calls : List Finished) : Nat := calls.countP Finished.isAccepted

/-- Calls counted in two parts. -/
theorem acceptedCount_append (earlier later : List Finished) :
    acceptedCount (earlier ++ later) = acceptedCount earlier + acceptedCount later :=
  List.countP_append

/-- The first call is counted apart from the others. -/
theorem acceptedCount_cons (call : Finished) (calls : List Finished) :
    acceptedCount (call :: calls) = acceptedCount [call] + acceptedCount calls :=
  acceptedCount_append [call] calls

/-- Who receives has nothing accepted. -/
theorem acceptedCount_of_receiver {request : Request} {outcome : Outcome}
    (hrequest : request.awaits = some .notEmpty) : acceptedCount [⟨request, outcome⟩] = 0 := by
  obtain rfl | ⟨buffer, rfl⟩ := Request.awaits_eq_notEmpty_iff.mp hrequest <;> rfl

/-- A call that fails has nothing accepted. -/
theorem acceptedCount_of_failed (request : Request) (failure : Failure) (buffer : ByteArray) :
    acceptedCount [⟨request, ⟨.error failure, buffer⟩⟩] = 0 := by
  cases request <;> rfl

/-- The messages that the calls have handed out. -/
def received (calls : List Finished) : List Message := calls.filterMap Finished.delivered?

/-- The messages that the calls have queued, numbered from `next` on. -/
def sent (next : Nat) : List Finished → List Message
  | [] => []
  | call :: calls =>
    match call.request, call.outcome.result with
    | .send payload priority, .ok _ =>
      { priority, number := next, payload } :: sent (next + 1) calls
    | _, _ => sent next calls

namespace Ledger

/-- Calls made one after the other: how they end, and what they leave behind. -/
def run (config : Config) (ledger : Ledger) : List Request → List Finished × Ledger
  | [] => ([], ledger)
  | request :: requests =>
    let now := ledger.answer config request
    let later := now.2.run config requests
    ({ request, outcome := now.1 } :: later.1, later.2)

variable {config : Config} {ledger : Ledger} {request : Request} {message : Message}

/-! ### The first message -/

/-- The first message is queued, and leads all that are. -/
theorem leads_of_first? (h : ledger.first? = some message) :
    message ∈ ledger.messages ∧ ∀ other ∈ ledger.messages, message.Leads other := by
  refine ⟨List.mem_of_find?_eq_some h, fun other hother => ?_⟩
  have hall := List.find?_some h
  rw [List.all_eq_true] at hall
  simpa using hall other hother

/-- There is no first message exactly if none is queued. -/
theorem first?_eq_none_iff : ledger.first? = none ↔ ledger.messages = [] := by
  constructor
  · intro hnone
    by_contra hsome
    obtain ⟨leader, hleader, hleads⟩ := Message.exists_leader hsome
    have hnot := List.find?_eq_none.mp hnone leader hleader
    simp only [List.all_eq_true, decide_eq_true_eq] at hnot
    exact hnot hleads
  · intro hnil
    rw [first?, hnil]
    rfl

/-- **The first message is unique.** If no two messages have one number, a queued message that leads
all that are is the first. -/
theorem first?_eq_some_of_leads (hnodup : (ledger.messages.map Message.number).Nodup)
    (hmem : message ∈ ledger.messages)
    (hleads : ∀ other ∈ ledger.messages, message.Leads other) :
    ledger.first? = some message := by
  cases hfirst : ledger.first? with
  | none =>
      rw [first?_eq_none_iff] at hfirst
      rw [hfirst] at hmem
      contradiction
  | some first =>
      obtain ⟨hqueued, hleadsAll⟩ := leads_of_first? hfirst
      have hnumber := (hleadsAll message hmem).number_eq (hleads first hqueued)
      rw [List.inj_on_of_nodup_map hnodup hqueued hmem hnumber]

/-! ### How a call ends -/

/-- A payload larger than any message is refused whatever is queued, and whether the ledger is
closed or not, so it does not matter when this is found out. -/
theorem answer_of_oversized {payload : ByteArray} (priority : Int)
    (hsize : config.messageSize < payload.size) :
    ledger.answer config (.send payload priority) =
      (.refused (.send payload priority) (.oversized payload.size config.messageSize),
        ledger) := by
  rw [answer, send, if_pos hsize]

/-- A closed ledger accepts no message. -/
theorem answer_of_closed {payload : ByteArray} (priority : Int)
    (hsize : payload.size ≤ config.messageSize) (hclosed : ledger.closed = true) :
    ledger.answer config (.send payload priority) =
      (.refused (.send payload priority) .closed, ledger) := by
  rw [answer, send, if_neg (Nat.not_lt.mpr hsize), if_pos hclosed]

/-- A full ledger accepts no message. -/
theorem answer_of_full {payload : ByteArray} (priority : Int)
    (hsize : payload.size ≤ config.messageSize) (hopen : ledger.closed = false)
    (hfull : ledger.messages.length = config.depth) :
    ledger.answer config (.send payload priority) =
      (.refused (.send payload priority) .full, ledger) := by
  have hnot : ¬ ledger.closed = true := by simp [hopen]
  rw [answer, send, if_neg (Nat.not_lt.mpr hsize), if_neg hnot, if_pos hfull]

/-- A ledger that is open and not full accepts every message that is not too large. -/
theorem answer_of_space {payload : ByteArray} (priority : Int)
    (hsize : payload.size ≤ config.messageSize) (hopen : ledger.closed = false)
    (hspace : ledger.messages.length ≠ config.depth) :
    ledger.answer config (.send payload priority) =
      ({ result := .ok .done }, ledger.accept payload priority) := by
  have hnot : ¬ ledger.closed = true := by simp [hopen]
  rw [answer, send, if_neg (Nat.not_lt.mpr hsize), if_neg hnot, if_neg hspace]

/-- A receiver who finds nothing is refused. -/
theorem answer_of_first?_eq_none (hrequest : request.awaits = some .notEmpty)
    (hnone : ledger.first? = none) :
    ledger.answer config request = (.refused request ledger.emptyCause, ledger) := by
  obtain rfl | ⟨buffer, rfl⟩ := Request.awaits_eq_notEmpty_iff.mp hrequest
  · simp only [answer, receive, hnone]
  · simp only [answer, receiveInto, hnone]

/-- A receiver who has room for the first message gets it. -/
theorem answer_of_hasRoom (hrequest : request.awaits = some .notEmpty)
    (hfirst : ledger.first? = some message) (hroom : request.hasRoom message = true) :
    ledger.answer config request = (request.delivery message, ledger.remove message) := by
  obtain rfl | ⟨buffer, rfl⟩ := Request.awaits_eq_notEmpty_iff.mp hrequest
  · simp only [answer, receive, hfirst, Request.delivery]
  · have hnot : ¬ buffer.size < message.payload.size := by
      simpa [Request.hasRoom] using hroom
    simp only [answer, receiveInto, hfirst, hnot, ↓reduceIte, Request.delivery]

/-- A receiver whose buffer is too small for the first message is refused. -/
theorem answer_of_lt {buffer : ByteArray} (hfirst : ledger.first? = some message)
    (hroom : buffer.size < message.payload.size) :
    ledger.answer config (.receiveInto buffer) =
      (.refused (.receiveInto buffer) (.bufferTooSmall message.payload.size buffer.size),
        ledger) := by
  simp only [answer, receiveInto, hfirst, hroom, ↓reduceIte]

/-- **The ways in which a call can end.** It is refused and changes nothing, its message is queued,
it is handed the first message, or it closes the ledger. -/
theorem answer_cases (config : Config) (ledger : Ledger) (request : Request) :
    (∃ cause, ledger.answer config request = (.refused request cause, ledger)) ∨
    (∃ payload priority, request = .send payload priority ∧
      ledger.answer config request =
        ({ result := .ok .done }, ledger.accept payload priority)) ∨
    (∃ message, request.awaits = some .notEmpty ∧ ledger.first? = some message ∧
      ledger.answer config request = (request.delivery message, ledger.remove message)) ∨
    (request = .close ∧
      ledger.answer config request =
        ({ result := .ok .done }, { ledger with closed := true })) := by
  cases request with
  | send payload priority =>
      simp only [answer, send]
      split_ifs
      · exact .inl ⟨_, rfl⟩
      · exact .inl ⟨_, rfl⟩
      · exact .inl ⟨_, rfl⟩
      · exact .inr (.inl ⟨payload, priority, rfl, rfl⟩)
  | receive =>
      cases hfirst : ledger.first? with
      | none => exact .inl ⟨_, answer_of_first?_eq_none rfl hfirst⟩
      | some message =>
          exact .inr (.inr (.inl ⟨message, rfl, rfl, answer_of_hasRoom rfl hfirst rfl⟩))
  | receiveInto buffer =>
      cases hfirst : ledger.first? with
      | none => exact .inl ⟨_, answer_of_first?_eq_none rfl hfirst⟩
      | some message =>
          by_cases hroom : buffer.size < message.payload.size
          · exact .inl ⟨_, answer_of_lt hfirst hroom⟩
          · have hroom' : (Request.receiveInto buffer).hasRoom message = true := by
              simpa [Request.hasRoom] using hroom
            exact .inr (.inr (.inl ⟨message, rfl, rfl, answer_of_hasRoom rfl hfirst hroom'⟩))
  | close => exact .inr (.inr (.inr ⟨rfl, rfl⟩))

/-- **Only accepted messages use up a number.** -/
theorem arrivals_answer (config : Config) (ledger : Ledger) (request : Request) :
    (ledger.answer config request).2.arrivals =
      ledger.arrivals + acceptedCount [⟨request, (ledger.answer config request).1⟩] := by
  obtain ⟨cause, h⟩ | ⟨payload, priority, rfl, h⟩ | ⟨message, hrequest, -, h⟩ | ⟨rfl, h⟩ :=
    answer_cases config ledger request
  · rw [h]
    cases request <;> rfl
  · rw [h]
    rfl
  · rw [h]
    obtain rfl | ⟨buffer, rfl⟩ := Request.awaits_eq_notEmpty_iff.mp hrequest <;> rfl
  · rw [h]
    rfl

/-- **No call faults.** -/
theorem answer_not_faulted (config : Config) (ledger : Ledger) (request : Request) :
    (Finished.mk request (ledger.answer config request).1).isFaulted = false := by
  obtain ⟨cause, h⟩ | ⟨payload, priority, rfl, h⟩ | ⟨message, -, -, h⟩ | ⟨rfl, h⟩ :=
    answer_cases config ledger request
  · rw [h]
    rfl
  · rw [h]
    rfl
  · rw [h]
    cases request <;> rfl
  · rw [h]
    rfl

/-! ### Calls one after the other -/

/-- A call more at the end. -/
theorem run_append (config : Config) (ledger : Ledger) (requests : List Request)
    (request : Request) :
    ledger.run config (requests ++ [request]) =
      let earlier := ledger.run config requests
      let now := earlier.2.answer config request
      (earlier.1 ++ [{ request, outcome := now.1 }], now.2) := by
  induction requests generalizing ledger with
  | nil => rfl
  | cons first requests ih =>
      simp only [List.cons_append, run]
      rw [ih]

/-- After calls made one after the other, as many numbers are used up as messages have been
accepted. -/
theorem arrivals_run (config : Config) (ledger : Ledger) (requests : List Request) :
    (ledger.run config requests).2.arrivals =
      ledger.arrivals + acceptedCount (ledger.run config requests).1 := by
  induction requests generalizing ledger with
  | nil => rfl
  | cons request requests ih =>
      simp only [run]
      rw [ih, arrivals_answer, Nat.add_assoc, ← acceptedCount_cons]

/-- No call faults among those made one after the other. -/
theorem run_not_faulted {config : Config} {ledger : Ledger} {requests : List Request}
    {call : Finished} (hcall : call ∈ (ledger.run config requests).1) :
    call.isFaulted = false := by
  induction requests generalizing ledger with
  | nil => simp [run] at hcall
  | cons request requests ih =>
      rcases List.mem_cons.mp hcall with rfl | hlater
      · exact answer_not_faulted config ledger request
      · exact ih hlater

end Ledger

end StableQueue
