import StableQueue.Proofs.Ledger.Fifo
import StableQueue.Proofs.Pipeline.Run

/-!
# What a Thread Says and Hears

A thread makes its calls one after the other, and the next one depends on how the last one has
ended. `Worker.Converses` follows a thread through its calls, whatever the other threads do between
them. The calls of a run are those of its threads, mixed; `callsOf` picks out those of one thread.

As long as the queue is closed only after all messages have been sent, a sender is refused only for
a payload that is too large, and a receiver only when the closed queue has been drained. For threads
who are answered like that, `Pipeline.Answered`, what they know in the end can be read off their
calls.

## Main results

* `Worker.Converses.sender`, `Worker.Converses.receiver`: what a thread knows after its calls.
* `flatMap_callsOf_perm`: a run contains the calls of its threads and no others.
-/

namespace StableQueue.Pipeline

/-! ### Messages as threads see them -/

/-- A message as a sender has it. -/
def body (message : StableQueue.Message) : Message := (message.payload, message.priority)

/-- A message as a receiver has got it. -/
def delivered (message : Header × ByteArray) : StableQueue.Message where
  priority := message.1.priority
  number := message.1.sequence.toNat
  payload := message.2

/-- The message that a call has added to the queue. -/
def accepted? (call : Finished) : Option Message :=
  match call.request, call.outcome.result with
  | .send payload priority, .ok _ => some (payload, priority)
  | _, _ => none

/-- The messages that calls have added, as their senders have them. -/
theorem map_body_sent (next : Nat) (calls : List Finished) :
    (sent next calls).map body = calls.filterMap accepted? := by
  induction calls generalizing next with
  | nil => rfl
  | cons call calls ih =>
      have hfirst : (sent next [call]).map body = [call].filterMap accepted? := by
        obtain ⟨request, result, buffer⟩ := call
        cases request <;> cases result <;> rfl
      rw [sent_cons, List.map_append, ih, hfirst, ← List.filterMap_append, List.singleton_append]

/-- As many messages have been added as there are. -/
theorem length_filterMap_accepted? (calls : List Finished) :
    (calls.filterMap accepted?).length = acceptedCount calls := by
  have hlength := congrArg List.length (map_number_sent 0 calls)
  rw [List.length_map, List.length_range'] at hlength
  rw [← map_body_sent 0, List.length_map, hlength]

/-! ### Threads -/

/-- The message is small enough for the queue. -/
def Message.fits (config : Config) (message : Message) : Bool :=
  message.1.size ≤ config.messageSize

/-- What a sender is told about a message by a queue that is not closed: it has been accepted,
unless it is too large. -/
def Message.verdict (config : Config) (message : Message) : Except HandleError Unit :=
  if Message.fits config message then .ok ()
  else .error
    { kind := .invalidInput
      message := (Refusal.oversized message.1.size config.messageSize).message }

/-- What a receiver is told by a queue that is closed and drained. -/
def farewell : HandleError := { kind := .brokenPipe, message := Refusal.closed.message }

/-- The ways in which the calls of a pipeline end. -/
inductive Answered (config : Config) : Finished → Prop
  /-- A message that is not too large is accepted. -/
  | accepted {payload : ByteArray} {priority : Int}
      (hsize : payload.size ≤ config.messageSize) :
      Answered config ⟨.send payload priority, { result := .ok .done }⟩
  /-- A message that is too large is refused. -/
  | oversized {payload : ByteArray} {priority : Int}
      (hsize : config.messageSize < payload.size) :
      Answered config ⟨.send payload priority, .refused (.send payload priority)
        (.oversized payload.size config.messageSize)⟩
  /-- A receiver gets a message. -/
  | delivered {header : Header} {payload : ByteArray} :
      Answered config ⟨.receive, { result := .ok (.message header payload) }⟩
  /-- A receiver is told that nothing will come any more. -/
  | drained : Answered config ⟨.receive, .refused .receive .closed⟩
  /-- The queue is closed. -/
  | closed : Answered config ⟨.close, { result := .ok .done }⟩

/-- A thread makes calls one after the other, and knows more after each of them. -/
inductive Worker.Converses (first : Worker) : List Finished → Worker → Prop
  /-- It has made no call yet. -/
  | refl : Converses first [] first
  /-- It has made the call it wanted to make next. -/
  | step {calls : List Finished} {worker : Worker} {call : Finished}
      (hcalls : Converses first calls worker) (hnext : worker.next? = some call.request) :
      Converses first (calls ++ [call]) (worker.hear call.outcome)

variable {config : Config} {calls : List Finished} {worker : Worker}

/-- **What a sender knows.** Some of its messages are settled, in their order: those that fit have
been accepted, and it has been told so. -/
theorem Worker.Converses.sender {messages : List Message}
    (h : Converses (.sender messages []) calls worker)
    (hanswered : ∀ call ∈ calls, Answered config call) :
    ∃ settled pending, messages = settled ++ pending ∧
      worker = .sender pending (settled.map (Message.verdict config)) ∧
      calls.filterMap accepted? = settled.filter (Message.fits config) ∧ received calls = [] := by
  induction h with
  | refl => exact ⟨[], messages, rfl, rfl, rfl, rfl⟩
  | @step calls worker call hcalls hnext ih =>
      obtain ⟨settled, pending, rfl, rfl, haccepted, hreceived⟩ :=
        ih fun call hcall => hanswered call (List.mem_append_left _ hcall)
      have hcall := hanswered call (List.mem_append_right _ List.mem_cons_self)
      cases pending with
      | nil => simp [Worker.next?] at hnext
      | cons message pending =>
          obtain ⟨payload, priority⟩ := message
          obtain ⟨request, outcome⟩ := call
          obtain rfl : .send payload priority = request := by simpa [Worker.next?] using hnext
          refine ⟨settled ++ [(payload, priority)], pending, by simp, ?_⟩
          rw [List.filterMap_append, received_append, List.filter_append, haccepted, hreceived]
          cases hcall with
          | accepted hsize =>
              simp [Worker.hear, Worker.learn, Producer.answer, Message.verdict, Message.fits,
                hsize, accepted?, received, Finished.delivered?]
          | oversized hsize =>
              have hnot : ¬ payload.size ≤ config.messageSize := Nat.not_le.mpr hsize
              simp [Worker.hear, Worker.learn, Producer.answer, Message.verdict, Message.fits,
                hnot, accepted?, received, Finished.delivered?, Outcome.refused,
                Refusal.toHandleError, Refusal.kind]

/-- **What a receiver knows.** It has the messages it has been handed, in their order, and it has
ended exactly if it has been told that nothing will come any more. -/
theorem Worker.Converses.receiver (h : Converses (.receiver [] none) calls worker)
    (hanswered : ∀ call ∈ calls, Answered config call) :
    ∃ taken final, worker = .receiver taken final ∧ received calls = taken.map delivered ∧
      calls.filterMap accepted? = [] ∧ (final = none ∨
        final = some farewell ∧ ⟨.receive, .refused .receive .closed⟩ ∈ calls) := by
  induction h with
  | refl => exact ⟨[], none, rfl, rfl, rfl, .inl rfl⟩
  | @step calls worker call hcalls hnext ih =>
      obtain ⟨taken, final, rfl, hreceived, haccepted, -⟩ :=
        ih fun call hcall => hanswered call (List.mem_append_left _ hcall)
      have hcall := hanswered call (List.mem_append_right _ List.mem_cons_self)
      cases final with
      | some error => simp [Worker.next?] at hnext
      | none =>
          obtain ⟨request, outcome⟩ := call
          obtain rfl : .receive = request := by simpa [Worker.next?] using hnext
          rw [List.filterMap_append, received_append, haccepted, hreceived]
          cases hcall with
          | @delivered header payload =>
              refine ⟨taken ++ [(header, payload)], none, rfl, ?_, rfl, .inl rfl⟩
              simp [received, Finished.delivered?, delivered]
          | drained =>
              refine ⟨taken, some farewell, rfl, ?_, rfl, .inr ⟨rfl, by simp⟩⟩
              simp [received, Finished.delivered?, Outcome.refused]

/-! ### The calls of one thread among all calls -/

/-- The calls of a thread that have ended. -/
def callsOf (token : Nat) (history : List (Visit × Outcome)) : List Finished :=
  Monitor.finished (history.filter (·.1.token = token))

variable {token : Nat} {history : List (Visit × Outcome)}

/-- A call of the thread itself is its last one. -/
theorem callsOf_append_self {visit : Visit} {outcome : Outcome} (htoken : visit.token = token) :
    callsOf token (history ++ [(visit, outcome)]) =
      callsOf token history ++ [⟨visit.request, outcome⟩] := by
  simp [callsOf, Monitor.finished, htoken]

/-- The calls of others do not count. -/
theorem callsOf_append_of_ne {visit : Visit} {outcome : Outcome} (htoken : visit.token ≠ token) :
    callsOf token (history ++ [(visit, outcome)]) = callsOf token history := by
  simp [callsOf, Monitor.finished, htoken]

/-- The calls of a thread are calls of the run. -/
theorem callsOf_subset (token : Nat) (history : List (Visit × Outcome)) :
    callsOf token history ⊆ Monitor.finished history := by
  intro call hcall
  obtain ⟨ending, hending, rfl⟩ := List.mem_map.mp hcall
  exact List.mem_map_of_mem (List.mem_filter.mp hending).1

/-- What can be read off the calls of the threads before a position, thread by thread, can be read
off all their calls. -/
theorem flatMap_callsOf_perm_filter {α : Type} (read : Finished → Option α)
    (history : List (Visit × Outcome)) (n : Nat) :
    ((List.range n).flatMap fun token => (callsOf token history).filterMap read).Perm
      ((Monitor.finished (history.filter (·.1.token < n))).filterMap read) := by
  induction n with
  | zero => simp [Monitor.finished]
  | succ n ih =>
      have hsplit := List.filter_append_perm (fun ending : Visit × Outcome =>
        decide (ending.1.token < n)) (history.filter (·.1.token < n + 1))
      have hbefore : (history.filter (·.1.token < n + 1)).filter (·.1.token < n) =
          history.filter (·.1.token < n) := by
        rw [List.filter_filter]
        congr 1
        funext ending
        simp only [← Bool.decide_and, decide_eq_decide]
        omega
      have hlast : (history.filter (·.1.token < n + 1)).filter
          (fun ending => !decide (ending.1.token < n)) = history.filter (·.1.token = n) := by
        rw [List.filter_filter]
        congr 1
        funext ending
        simp only [← decide_not, ← Bool.decide_and, decide_eq_decide]
        omega
      rw [hbefore, hlast] at hsplit
      have hread := (hsplit.map fun ending => Finished.mk ending.1.request ending.2).filterMap read
      rw [List.map_append, List.filterMap_append] at hread
      rw [List.range_succ, List.flatMap_append, List.flatMap_singleton]
      exact (ih.append_right _).trans hread

/-- **A run contains the calls of its threads and no others.** What can be read off them can be
read off thread by thread, if nothing can be read off the calls of strangers. -/
theorem flatMap_callsOf_perm {α : Type} {read : Finished → Option α} {n : Nat}
    (hread : ∀ ending ∈ history, n ≤ ending.1.token → read ⟨ending.1.request, ending.2⟩ = none) :
    ((List.range n).flatMap fun token => (callsOf token history).filterMap read).Perm
      ((Monitor.finished history).filterMap read) := by
  refine (flatMap_callsOf_perm_filter read history n).trans (.of_eq ?_)
  simp only [Monitor.finished, List.filterMap_map, List.filterMap_filter]
  refine List.filterMap_congr fun ending hending => ?_
  split
  · rfl
  · rename_i hlt
    exact (hread ending hending (by simpa using hlt)).symm

/-- Listings are related if what is listed for each position is. -/
theorem flatMap_range_rel {α β : Type} {R : List β → List β → Prop} (hnil : R [] [])
    (happend : ∀ {a b c d}, R a b → R c d → R (a ++ c) (b ++ d)) {entries : List α}
    {f : α → List β} {g : Nat → List β}
    (h : ∀ i entry, entries[i]? = some entry → R (g i) (f entry)) :
    R ((List.range entries.length).flatMap g) (entries.flatMap f) := by
  induction entries generalizing g with
  | nil => exact hnil
  | cons entry entries ih =>
      have hothers := ih (g := fun i => g (i + 1)) fun i other hother => h (i + 1) other hother
      rw [List.length_cons, List.range_succ_eq_map, List.flatMap_cons, List.flatMap_map,
        List.flatMap_cons]
      exact happend (h 0 entry rfl) hothers

/-- What cannot be read off the calls of others can be read off the calls of the thread alone. -/
theorem filterMap_callsOf {α : Type} {read : Finished → Option α}
    (hread : ∀ ending ∈ history, ending.1.token ≠ token →
      read ⟨ending.1.request, ending.2⟩ = none) :
    (callsOf token history).filterMap read = (Monitor.finished history).filterMap read := by
  simp only [callsOf, Monitor.finished, List.filterMap_map, List.filterMap_filter]
  refine List.filterMap_congr fun ending hending => ?_
  split
  · rfl
  · rename_i hne
    exact (hread ending hending (by simpa using hne)).symm

/-! ### Who has sent a message -/

/-- The threads that have sent the accepted messages, in the order of the messages. -/
def senders (history : List (Visit × Outcome)) : List Nat :=
  (history.filter fun ending => (Finished.mk ending.1.request ending.2).isAccepted).map
    (·.1.token)

/-- The senders of messages that have been accepted one after the other. -/
theorem senders_append (history later : List (Visit × Outcome)) :
    senders (history ++ later) = senders history ++ senders later := by
  rw [senders, List.filter_append, List.map_append]
  rfl

/-- The thread that has sent the message of a number. -/
def senderOf (history : List (Visit × Outcome)) (number : Nat) : Option Nat :=
  (senders history)[number]?

/-- Every accepted message has a sender. -/
theorem length_senders (history : List (Visit × Outcome)) :
    (senders history).length = acceptedCount (Monitor.finished history) := by
  rw [senders, List.length_map, acceptedCount, Monitor.finished, List.countP_map,
    List.countP_eq_length_filter]
  rfl

/-- Later calls do not change who has sent the messages so far. -/
theorem senderOf_append {later : List (Visit × Outcome)} {message : StableQueue.Message}
    (h : message ∈ sent 0 (Monitor.finished history)) :
    senderOf (history ++ later) message.number = senderOf history message.number := by
  have hnumber := List.mem_map_of_mem (f := StableQueue.Message.number) h
  rw [map_number_sent, List.mem_range'_1, Nat.zero_add, ← length_senders] at hnumber
  rw [senderOf, senderOf, senders_append, List.getElem?_append_left hnumber.2]

/-- The message of the last call has been sent by the thread that has made the call. -/
theorem senderOf_last {visit : Visit} {outcome : Outcome} {message : StableQueue.Message}
    (h : message ∈ sent (acceptedCount (Monitor.finished history)) [⟨visit.request, outcome⟩]) :
    senderOf (history ++ [(visit, outcome)]) message.number = some visit.token := by
  have hnumber := List.mem_map_of_mem (f := StableQueue.Message.number) h
  rw [map_number_sent, List.mem_range'_1, ← length_senders] at hnumber
  cases haccepted : (Finished.mk visit.request outcome).isAccepted with
  | false =>
      simp [acceptedCount, haccepted] at hnumber
      omega
  | true =>
      have hlast : senders [(visit, outcome)] = [visit.token] := by simp [senders, haccepted]
      have heq : message.number = (senders history).length := by
        simp [acceptedCount, haccepted] at hnumber
        omega
      rw [senderOf, senders_append, hlast, heq, List.getElem?_concat_length]

/-- **The messages of a sender** are those it has been told are accepted, in the same order. -/
theorem filter_senderOf_sent (token : Nat) (history : List (Visit × Outcome)) :
    ((sent 0 (Monitor.finished history)).filter fun message =>
      senderOf history message.number = some token).map body =
        (callsOf token history).filterMap accepted? := by
  induction history using List.reverseRecOn with
  | nil => rfl
  | append_singleton history ending ih =>
      obtain ⟨visit, outcome⟩ := ending
      have hbefore : (sent 0 (Monitor.finished history)).filter (fun message =>
          senderOf (history ++ [(visit, outcome)]) message.number = some token) =
          (sent 0 (Monitor.finished history)).filter fun message =>
            senderOf history message.number = some token :=
        List.filter_congr fun message hmessage => by rw [senderOf_append hmessage]
      have hlast : (sent (acceptedCount (Monitor.finished history))
            [⟨visit.request, outcome⟩]).filter (fun message =>
          senderOf (history ++ [(visit, outcome)]) message.number = some token) =
          (sent (acceptedCount (Monitor.finished history)) [⟨visit.request, outcome⟩]).filter
            fun _ => visit.token = token :=
        List.filter_congr fun message hmessage => by simp [senderOf_last hmessage]
      have hfinished : Monitor.finished [(visit, outcome)] = [⟨visit.request, outcome⟩] := rfl
      rw [Monitor.finished_append, sent_append, List.filter_append, List.map_append, hbefore, ih,
        Nat.zero_add, hfinished, hlast]
      by_cases htoken : visit.token = token
      · simp only [htoken, decide_true, List.filter_true, map_body_sent, callsOf_append_self htoken,
          List.filterMap_append]
      · simp only [htoken, decide_false, List.filter_false, List.map_nil, List.append_nil,
          callsOf_append_of_ne htoken]

end StableQueue.Pipeline
