import StableQueue.Proofs.Ledger.Fifo
import StableQueue.Proofs.Queue.Draining
import StableQueue.Proofs.Queue.Telemetry

/-!
# The Log Replays the Queue

A queue writes one record for each message that it accepts and one for each message that it hands
out, after the lock has been given up. Nothing ties the numbers in the records to what has happened
but that they were read under the lock. For a caller who is alone with a queue they tell all: the
records of the messages accepted are numbered in a row, and every record shows as many messages as
have been accepted and not handed out, by the records up to it.

`Queue.accounts` keeps what is known of every call of a run: how it ended, what it wrote, and the
queue that it left behind. A call that never returns is the last one. `Account.Logged` says what a
call writes, given the calls before it.

## Main definitions

* `Log.accepted`, `Log.sentCount`, `Log.receivedCount`: what a log tells.
* `Log.Balanced`: every record shows the occupancy that the log tells.
* `Live.Tracked`: the invariant that ties a queue to the calls that have returned.

## Main results

* `Live.Turn.log_cases`: what one pass writes.
* `Live.Tracked.turn`, `Live.Tracked.accounts`: one call, and any number of them.
* `Queue.log_replays_queue`: the log of a new queue.
-/

namespace StableQueue

/-! ### Reading a log -/

namespace Log

/-- What a record tells of a message that was accepted: its number, its priority and its length. -/
def Event.accepted? : Event → Option (UInt64 × Int × Nat)
  | sent _ sequence priority len _ => some (sequence, priority, len)
  | _ => none

/-- The record is about a message that was handed out. -/
def Event.isReceived : Event → Bool
  | received .. => true
  | _ => false

/-- How many messages are queued, if the record shows it. -/
def Event.occupancy? : Event → Option Nat
  | sent _ _ _ _ occupancy | received _ occupancy => some occupancy
  | _ => none

/-- The messages that were accepted, as the log tells. -/
def accepted (log : List Event) : List (UInt64 × Int × Nat) := log.filterMap Event.accepted?

/-- How many messages were accepted, as the log tells. -/
def sentCount (log : List Event) : Nat := (accepted log).length

/-- How many messages were handed out, as the log tells. -/
def receivedCount (log : List Event) : Nat := log.countP Event.isReceived

/-- Every record that shows how many messages are queued shows how many have been accepted and not
been handed out, by the records up to this one. -/
def Balanced (log : List Event) : Prop :=
  ∀ before event after, log = before ++ event :: after →
    ∀ occupancy, event.occupancy? = some occupancy →
      occupancy + receivedCount (before ++ [event]) = sentCount (before ++ [event])

/-- Such a record is not about a message. -/
def Event.IsQuiet (event : Event) : Prop :=
  event.accepted? = none ∧ event.isReceived = false ∧ event.occupancy? = none

variable {log more : List Event} {event : Event}

/-- The messages accepted are told in the order of the records. -/
@[simp] theorem accepted_append (log more : List Event) :
    accepted (log ++ more) = accepted log ++ accepted more := List.filterMap_append

/-- The numbers of accepted messages add up. -/
@[simp] theorem sentCount_append (log more : List Event) :
    sentCount (log ++ more) = sentCount log + sentCount more := by
  rw [sentCount, accepted_append, List.length_append, sentCount, sentCount]

/-- The numbers of messages handed out add up. -/
@[simp] theorem receivedCount_append (log more : List Event) :
    receivedCount (log ++ more) = receivedCount log + receivedCount more := List.countP_append

/-- Quiet records tell of no message. -/
theorem accepted_of_quiet (h : ∀ event ∈ log, event.IsQuiet) : accepted log = [] :=
  List.filterMap_eq_nil_iff.mpr fun event hevent => (h event hevent).1

/-- Quiet records count no message as accepted. -/
theorem sentCount_of_quiet (h : ∀ event ∈ log, event.IsQuiet) : sentCount log = 0 := by
  rw [sentCount, accepted_of_quiet h, List.length_nil]

/-- Quiet records count no message as handed out. -/
theorem receivedCount_of_quiet (h : ∀ event ∈ log, event.IsQuiet) : receivedCount log = 0 :=
  List.countP_eq_zero.mpr fun event hevent => by simp [(h event hevent).2.1]

/-- An empty log is balanced. -/
theorem Balanced.nil : Balanced [] := by
  intro before event after h
  simp at h

/-- **One more record** keeps a log balanced if it shows what the log tells then. -/
theorem Balanced.concat (h : Balanced log)
    (hevent : ∀ occupancy, event.occupancy? = some occupancy →
      occupancy + receivedCount (log ++ [event]) = sentCount (log ++ [event])) :
    Balanced (log ++ [event]) := by
  intro before shown after hlog
  rcases List.eq_nil_or_concat after with rfl | ⟨rest, last, rfl⟩
  · -- the record is the last one
    obtain ⟨rfl, hshown⟩ := List.append_inj' hlog rfl
    obtain rfl := List.head_eq_of_cons_eq hshown
    exact hevent
  · rw [List.concat_eq_append, ← List.cons_append, ← List.append_assoc] at hlog
    exact h before shown rest (List.append_inj' hlog rfl).1

/-- Quiet records keep a log balanced. -/
theorem Balanced.append (h : Balanced log) (hmore : ∀ event ∈ more, event.IsQuiet) :
    Balanced (log ++ more) := by
  induction more generalizing log with
  | nil => rwa [List.append_nil]
  | cons event more ih =>
      rw [List.forall_mem_cons] at hmore
      rw [List.append_cons]
      refine ih (h.concat fun occupancy hshown => ?_) hmore.2
      rw [hmore.1.2.2] at hshown
      contradiction

end Log

/-! ### Accounts -/

/-- What is known of a call that has returned. -/
structure Account extends Finished where
  /-- The records that it wrote. -/
  log : List Log.Event
  /-- The queue that it left behind. -/
  after : Queue

/-- The calls themselves, without their records. -/
def ended (accounts : List Account) : List Finished := accounts.map Account.toFinished

/-- The records that were written, in their order. -/
def written (accounts : List Account) : List Log.Event := accounts.flatMap Account.log

/-- The calls of two stretches of a run follow each other. -/
@[simp] theorem ended_append (earlier later : List Account) :
    ended (earlier ++ later) = ended earlier ++ ended later := List.map_append

/-- What later calls write comes after what earlier calls wrote. -/
@[simp] theorem written_append (earlier later : List Account) :
    written (earlier ++ later) = written earlier ++ written later := List.flatMap_append

/-- A single call writes its own records. -/
@[simp] theorem written_singleton (account : Account) : written [account] = account.log :=
  List.flatMap_singleton _ _

namespace Account

/-- The call wrote this record, at this level, and no other one. -/
def Writes (account : Account) (level : Log.Level) (event : Log.Event) : Prop :=
  account.log = [event] ∧ event.level = level

/-- The call has succeeded. -/
def Succeeds (account : Account) : Prop := ∃ reply, account.outcome.result = .ok reply

/-- What a call writes, and what the log tells after it, given the calls before it. -/
structure Logged (config : Config) (earlier : List Account) (account : Account) : Prop where
  /-- A message that is accepted is traced, under the number of those accepted before. -/
  sent : ∀ payload priority, account.request = .send payload priority → account.Succeeds →
    account.Writes .trace (.sent config.name (.ofNat (acceptedCount (ended earlier))) priority
      payload.size account.after.occupancy)
  /-- A message that is handed out is traced. -/
  received : account.request.awaits = some .notEmpty → account.Succeeds →
    account.Writes .trace (.received config.name account.after.occupancy)
  /-- A payload larger than any message is refused, with a warning. -/
  oversized : ∀ payload priority, account.request = .send payload priority →
    config.messageSize < payload.size →
      account.outcome.result = .error (.refused (.oversized payload.size config.messageSize)) ∧
      account.Writes .warn (.oversized config.name payload.size config.messageSize)
  /-- Every other call that fails writes nothing. -/
  failed : ∀ failure, account.outcome.result = .error failure →
    (∀ payload priority, account.request = .send payload priority →
      payload.size ≤ config.messageSize) → account.log = []
  /-- The first one who closes the queue writes that it is closed, -/
  closed : account.request = .close → (∀ other ∈ earlier, other.request ≠ .close) →
    account.Writes .debug (.closed config.name)
  /-- and no later one writes anything. -/
  closedBefore : account.request = .close → ∀ other ∈ earlier, other.request = .close →
    account.log = []
  /-- The log tells how many messages are queued, -/
  occupancy : account.after.occupancy + Log.receivedCount (written (earlier ++ [account])) =
    Log.sentCount (written (earlier ++ [account]))
  /-- and how many have been accepted. -/
  accepted : acceptedCount (ended (earlier ++ [account])) =
    Log.sentCount (written (earlier ++ [account]))
  /-- Who tries to create the queue again is refused, and writes nothing. -/
  alreadyCreated : ∀ config host, (account.after.create config).runOn host =
    (.error (.refused .alreadyCreated), host)

end Account

/-- Calls made one after the other by a caller who is alone, as long as they return. -/
def Queue.accounts (queue : Queue) : List Call → List Account
  | [] => []
  | call :: calls =>
    match queue.perform call.time call.request call.patience with
    | none => []
    | some (outcome, log, after) =>
      { request := call.request, outcome, log, after } :: after.accounts calls

/-! ### One pass -/

/-- There is one message for each call that was accepted. -/
theorem length_sent (next : Nat) (calls : List Finished) :
    (sent next calls).length = acceptedCount calls := by
  rw [← List.length_map, map_number_sent, List.length_range']

/-- Calls that have nothing accepted queue nothing. -/
theorem sent_eq_nil {calls : List Finished} (h : acceptedCount calls = 0) (next : Nat) :
    sent next calls = [] :=
  List.eq_nil_of_length_eq_zero ((length_sent next calls).trans h)

/-- What the record of a message tells when it is accepted. -/
def Message.told (message : Message) : UInt64 × Int × Nat :=
  (.ofNat message.number, message.priority, message.payload.size)

namespace Live

variable {live live' : Live} {mayWait : Bool} {request : Request} {outcome : Outcome}
  {owed : List Signal} {log : List Log.Event} {config : Config} {past : List Account}

/-- **What a pass writes** that is not aborted. It accepts a message, hands one out, or does neither
and writes nothing about messages. -/
theorem Turn.log_cases (h : live.Turn mayWait request (.leave outcome owed log) live')
    (hlive : live.contents.Consistent live.config)
    (hfault : (Finished.mk request outcome).isFaulted = false) :
    (∃ payload priority, request = .send payload priority ∧ outcome = { result := .ok .done } ∧
      log = [.sent live.config.name live.contents.nextSequence priority payload.size
        live'.contents.occupancy] ∧
      live'.contents.occupancy = live.contents.occupancy + 1 ∧
      live'.contents.nextSequence = live.contents.nextSequence + 1) ∨
    (log = [.received live.config.name live'.contents.occupancy] ∧
      acceptedCount [⟨request, outcome⟩] = 0 ∧
      live'.contents.occupancy + 1 = live.contents.occupancy ∧
      live'.contents.nextSequence = live.contents.nextSequence) ∨
    ((∀ event ∈ log, event.IsQuiet) ∧ acceptedCount [⟨request, outcome⟩] = 0 ∧
      live'.contents.occupancy = live.contents.occupancy ∧
      live'.contents.nextSequence = live.contents.nextSequence) := by
  have hquiet (event : Log.Event) (hevent : event.IsQuiet) : ∀ other ∈ [event], other.IsQuiet :=
    fun _ hother => List.mem_singleton.mp hother ▸ hevent
  cases h with
  | @sent payload priority _ _ _ _ hfree _ =>
      exact .inl ⟨payload, priority, rfl, rfl, rfl, hlive.len_afterEnqueue hfree payload priority,
        rfl⟩
  | sendAborted _ _ _ _ => simp [Finished.isFaulted] at hfault
  | @received _ root hrequest hroot _ _ =>
      have hpos := (Heap.peekMax_eq_some_iff.mp hroot).1
      refine .inr (.inl ⟨rfl, acceptedCount_of_receiver hrequest, ?_, rfl⟩)
      change (live.contents.afterDequeue root).heap.len + 1 = live.contents.heap.len
      rw [Contents.len_afterDequeue]
      omega
  | receiveAborted _ _ _ _ => simp [Finished.isFaulted] at hfault
  | closes _ => exact .inr (.inr ⟨hquiet _ ⟨rfl, rfl, rfl⟩, rfl, rfl, rfl⟩)
  | closedBefore _ => exact .inr (.inr ⟨by simp, rfl, rfl, rfl⟩)
  | oversized _ => exact .inr (.inr ⟨hquiet _ ⟨rfl, rfl, rfl⟩, rfl, rfl, rfl⟩)
  | _ => exact .inr (.inr ⟨by simp, acceptedCount_of_failed _ _ _, rfl, rfl⟩)

/-- A message that is accepted is traced, under the next number. -/
theorem Turn.log_of_accepted {payload : ByteArray} {priority : Int} {reply : Reply}
    (h : live.Turn mayWait (.send payload priority) (.leave outcome owed log) live')
    (hreply : outcome.result = .ok reply) :
    log = [.sent live.config.name live.contents.nextSequence priority payload.size
      live'.contents.occupancy] := by
  cases h with
  | sent _ _ _ _ => rfl
  | received hrequest _ _ _ => simp [Request.awaits] at hrequest
  | _ => contradiction

/-- A message that is handed out is traced. -/
theorem Turn.log_of_received {reply : Reply}
    (h : live.Turn mayWait request (.leave outcome owed log) live')
    (hrequest : request.awaits = some .notEmpty) (hreply : outcome.result = .ok reply) :
    log = [.received live.config.name live'.contents.occupancy] := by
  cases h with
  | received _ _ _ _ => rfl
  | sent _ _ _ _ => simp [Request.awaits] at hrequest
  | closes _ => simp [Request.awaits] at hrequest
  | closedBefore _ => simp [Request.awaits] at hrequest
  | _ => contradiction

/-- A payload larger than any message is refused, with a warning. -/
theorem Turn.log_of_oversized {payload : ByteArray} {priority : Int}
    (h : live.Turn mayWait (.send payload priority) (.leave outcome owed log) live')
    (hsize : live.config.messageSize < payload.size) :
    outcome.result = .error (.refused (.oversized payload.size live.config.messageSize)) ∧
      log = [.oversized live.config.name payload.size live.config.messageSize] := by
  cases h with
  | oversized _ => exact ⟨rfl, rfl⟩
  | sendClosed hfits _ => omega
  | sendFull hfits _ _ _ => omega
  | sent hfits _ _ _ => omega
  | sendAborted hfits _ _ _ => omega
  | received hrequest _ _ _ => simp [Request.awaits] at hrequest
  | receiveAborted hrequest _ _ _ => simp [Request.awaits] at hrequest
  | drained hrequest _ _ => simp [Request.awaits] at hrequest
  | receiveEmpty hrequest _ _ _ => simp [Request.awaits] at hrequest

/-- Every other call that fails writes nothing. -/
theorem Turn.log_of_failed {failure : Failure}
    (h : live.Turn mayWait request (.leave outcome owed log) live')
    (hfailed : outcome.result = .error failure)
    (hfits : ∀ payload priority, request = .send payload priority →
      payload.size ≤ live.config.messageSize) : log = [] := by
  cases h with
  | oversized hsize => exact absurd (hfits _ _ rfl) (Nat.not_le.mpr hsize)
  | sent _ _ _ _ => contradiction
  | received _ _ _ _ => cases request <;> contradiction
  | closes _ => contradiction
  | _ => rfl

/-- Only who closes a queue makes it closed. -/
theorem Turn.closed_iff (h : live.Turn mayWait request (.leave outcome owed log) live') :
    live'.contents.closed = true ↔ live.contents.closed = true ∨ request = .close := by
  by_cases hclose : request = .close
  · subst hclose
    simp [h.of_close.2]
  · have hsame : live'.contents.closed = live.contents.closed := by
      cases h with
      | closes _ => contradiction
      | _ => rfl
    simp [hsame, hclose]

/-- What ties a queue to the calls that have returned since it was created. -/
structure Tracked (config : Config) (past : List Account) (live : Live) : Prop where
  /-- The configuration is the one it was created from. -/
  config_eq : live.config = config
  /-- The storage is in order, but for the order of the heap. -/
  consistent : live.contents.Consistent live.config
  /-- The telemetry is up to date. -/
  published : live.Published
  /-- A number has been given out for each message accepted. -/
  nextSequence : live.contents.nextSequence = .ofNat (acceptedCount (ended past))
  /-- The log tells how many messages are queued. -/
  occupancy : live.contents.occupancy + Log.receivedCount (written past) =
    Log.sentCount (written past)
  /-- The log tells which messages were accepted. -/
  accepted : Log.accepted (written past) = (sent 0 (ended past)).map Message.told
  /-- Every record shows what the log tells. -/
  balanced : Log.Balanced (written past)
  /-- The queue is closed if someone has closed it. -/
  closed_iff : live.contents.closed = true ↔ ∃ account ∈ past, account.request = .close

/-- A new queue is tracked by no calls. -/
theorem Tracked.new {id : Nat} {contents : Contents} (hnew : Contents.new config = .ok contents) :
    Tracked config [] { id, config, contents, telemetry := {} } := by
  obtain ⟨hlive, hlen, hnext, hopen⟩ := Contents.Consistent.new hnew
  exact ⟨rfl, hlive, .new hnew, hnext, hlen, rfl, .nil, by simp [hopen]⟩

/-- The log tells how many messages have been accepted. -/
theorem Tracked.sentCount_eq (h : live.Tracked config past) :
    Log.sentCount (written past) = acceptedCount (ended past) := by
  rw [Log.sentCount, h.accepted, List.length_map, length_sent]

/-- The number shown is the one that the log tells. -/
theorem Tracked.occupancy_created (h : live.Tracked config past) :
    (Queue.created live).occupancy = live.contents.occupancy := h.published.occupancy

/-- What the log tells after one more call. -/
theorem Tracked.log_turn (h : live.Tracked config past)
    (hturn : live.Turn mayWait request (.leave outcome owed log) live')
    (hfault : (Finished.mk request outcome).isFaulted = false) :
    live'.contents.nextSequence =
        .ofNat (acceptedCount (ended past ++ [⟨request, outcome⟩])) ∧
      live'.contents.occupancy + Log.receivedCount (written past ++ log) =
        Log.sentCount (written past ++ log) ∧
      Log.accepted (written past ++ log) =
        (sent 0 (ended past ++ [⟨request, outcome⟩])).map Message.told ∧
      Log.Balanced (written past ++ log) := by
  have hbefore := h.occupancy
  rw [acceptedCount_append, sent_append, zero_add, List.map_append, Log.accepted_append,
    h.accepted, Log.receivedCount_append, Log.sentCount_append]
  obtain ⟨payload, priority, rfl, rfl, rfl, hmore, hnext⟩ | ⟨rfl, haccepted, hless, hnext⟩ |
    ⟨hquiet, haccepted, hsame, hnext⟩ := hturn.log_cases h.consistent hfault
  · -- a message has been accepted
    set event := Log.Event.sent live.config.name live.contents.nextSequence priority payload.size
      live'.contents.occupancy with hevent
    have hsent : Log.sentCount [event] = 1 := rfl
    have hreceived : Log.receivedCount [event] = 0 := rfl
    refine ⟨?_, by omega, ?_, h.balanced.concat fun occupancy hshown => ?_⟩
    · rw [hnext, h.nextSequence, UInt64.ofNat_add]
      rfl
    · rw [hevent, h.nextSequence]
      rfl
    · obtain rfl := Option.some.inj hshown
      rw [Log.receivedCount_append, Log.sentCount_append]
      omega
  · -- a message has been handed out
    set event := Log.Event.received live.config.name live'.contents.occupancy
    have hsent : Log.sentCount [event] = 0 := rfl
    have hreceived : Log.receivedCount [event] = 1 := rfl
    refine ⟨?_, by omega, ?_, h.balanced.concat fun occupancy hshown => ?_⟩
    · rw [hnext, h.nextSequence, haccepted, add_zero]
    · rw [sent_eq_nil haccepted]
      rfl
    · obtain rfl := Option.some.inj hshown
      rw [Log.receivedCount_append, Log.sentCount_append]
      omega
  · have hsent := Log.sentCount_of_quiet hquiet
    have hreceived := Log.receivedCount_of_quiet hquiet
    refine ⟨?_, by omega, ?_, h.balanced.append hquiet⟩
    · rw [hnext, h.nextSequence, haccepted, add_zero]
    · rw [sent_eq_nil haccepted, Log.accepted_of_quiet hquiet, List.map_nil]

/-- **One call** that is not aborted leaves a queue tracked, if it is added to the calls. -/
theorem Tracked.turn (h : live.Tracked config past)
    (hturn : live.Turn mayWait request (.leave outcome owed log) live')
    (hfault : (Finished.mk request outcome).isFaulted = false) :
    live'.Tracked config (past ++ [⟨⟨request, outcome⟩, log, .created live'⟩]) := by
  obtain ⟨hnext, hoccupancy, haccepted, hbalanced⟩ := h.log_turn hturn hfault
  have hended : ended (past ++ [⟨⟨request, outcome⟩, log, .created live'⟩]) =
      ended past ++ [⟨request, outcome⟩] := ended_append _ _
  have hwritten : written (past ++ [⟨⟨request, outcome⟩, log, .created live'⟩]) =
      written past ++ log := by rw [written_append, written_singleton]
  constructor
  · exact hturn.config_eq.2.trans h.config_eq
  · exact hturn.consistent h.consistent
  · exact hturn.published h.consistent h.published hfault
  · rwa [hended]
  · rwa [hwritten]
  · rwa [hwritten, hended]
  · rwa [hwritten]
  · simp [hturn.closed_iff, h.closed_iff, or_and_right, exists_or]

/-- **What one call writes** that is not aborted. -/
theorem Tracked.logged (h : live.Tracked config past)
    (hturn : live.Turn mayWait request (.leave outcome owed log) live')
    (hfault : (Finished.mk request outcome).isFaulted = false) :
    Account.Logged config past ⟨⟨request, outcome⟩, log, .created live'⟩ := by
  have hafter := h.turn hturn hfault
  have hshown := hafter.occupancy_created
  obtain rfl : live.config = config := h.config_eq
  constructor
  · rintro payload priority rfl ⟨reply, hreply⟩
    rw [hshown, ← h.nextSequence]
    exact ⟨hturn.log_of_accepted hreply, rfl⟩
  · rintro hrequest ⟨reply, hreply⟩
    rw [hshown]
    exact ⟨hturn.log_of_received hrequest hreply, rfl⟩
  · rintro payload priority rfl hsize
    obtain ⟨hrefused, hlog⟩ := hturn.log_of_oversized hsize
    exact ⟨hrefused, hlog, rfl⟩
  · intro failure hfailed hfits
    exact hturn.log_of_failed hfailed hfits
  · rintro rfl hfirst
    obtain ⟨-, -, hpass⟩ | ⟨hclosed, -, -⟩ := hturn.close_cases
    · exact ⟨(Pass.leave.inj hpass).2.2, rfl⟩
    · obtain ⟨other, hother, hclose⟩ := h.closed_iff.mp hclosed
      exact absurd hclose (hfirst other hother)
  · rintro rfl other hother hclose
    obtain ⟨hopen, -, -⟩ | ⟨-, -, hpass⟩ := hturn.close_cases
    · rw [h.closed_iff.mpr ⟨other, hother, hclose⟩] at hopen
      contradiction
    · exact (Pass.leave.inj hpass).2.2
  · rw [hshown]
    exact hafter.occupancy
  · exact hafter.sentCount_eq.symm
  · exact fun _ _ => rfl

/-! ### Runs -/

/-- A call of a run that has returned, and what happened in it. -/
theorem accounts_cons {call : Call} {calls : List Call} {first : Account} {accounts : List Account}
    (h : live.contents.Consistent live.config)
    (haccounts : (Queue.created live).accounts (call :: calls) = first :: accounts) :
    ∃ mayWait owed live', first.after = .created live' ∧
      live.Turn mayWait first.request (.leave first.outcome owed first.log) live' ∧
      (Queue.created live').accounts calls = accounts := by
  rw [Queue.accounts] at haccounts
  cases hperform : (Queue.created live).perform call.time call.request call.patience with
  | none => simp [hperform] at haccounts
  | some result =>
      obtain ⟨outcome, log, after⟩ := result
      obtain ⟨mayWait, owed, live', rfl, hturn⟩ := Queue.exists_turn_of_perform h hperform
      simp only [hperform, List.cons.injEq] at haccounts
      obtain ⟨rfl, rfl⟩ := haccounts
      exact ⟨mayWait, owed, live', rfl, hturn, rfl⟩

/-- **Every call of a run** is logged, and leaves the queue tracked, up to the first one that is
aborted. -/
theorem Tracked.accounts {calls : List Call} {earlier later : List Account} {account : Account}
    (h : live.Tracked config past)
    (haccounts : (Queue.created live).accounts calls = earlier ++ account :: later)
    (hfault : ∀ other ∈ earlier ++ [account], other.isFaulted = false) :
    account.Logged config (past ++ earlier) ∧ ∃ live', account.after = .created live' ∧
      live'.Tracked config (past ++ earlier ++ [account]) := by
  induction calls generalizing live past earlier with
  | nil => simp [Queue.accounts] at haccounts
  | cons call calls ih =>
      cases earlier with
      | nil =>
          obtain ⟨mayWait, owed, live', hafter, hturn, -⟩ := accounts_cons h.consistent haccounts
          obtain ⟨⟨request, outcome⟩, log, after⟩ := account
          obtain rfl : after = .created live' := hafter
          have hend : (Finished.mk request outcome).isFaulted = false :=
            hfault ⟨⟨request, outcome⟩, log, .created live'⟩ (by simp)
          rw [List.append_nil]
          exact ⟨h.logged hturn hend, live', rfl, h.turn hturn hend⟩
      | cons first earlier =>
          obtain ⟨mayWait, owed, live', hafter, hturn, hlater⟩ :=
            accounts_cons h.consistent haccounts
          obtain ⟨⟨request, outcome⟩, log, after⟩ := first
          obtain rfl : after = .created live' := hafter
          rw [List.cons_append, List.forall_mem_cons] at hfault
          have hnext := ih (h.turn hturn hfault.1) hlater hfault.2
          rwa [List.append_assoc past] at hnext

/-- No call is aborted as long as numbers are left on the half of the circle. -/
theorem Represents.accounts_not_faulted {ledger : Ledger} {calls : List Call}
    (h : live.Represents ledger)
    (haccepted : ledger.arrivals +
      acceptedCount (ended ((Queue.created live).accounts calls)) < 2 ^ 63) :
    ∀ account ∈ (Queue.created live).accounts calls, account.isFaulted = false := by
  induction calls generalizing live ledger with
  | nil => simp [Queue.accounts]
  | cons call calls ih =>
      cases haccounts : (Queue.created live).accounts (call :: calls) with
      | nil => simp
      | cons first accounts =>
          obtain ⟨mayWait, owed, live', -, hturn, rfl⟩ :=
            accounts_cons h.sound.toConsistent haccounts
          rw [haccounts, ended, List.map_cons, acceptedCount_cons] at haccepted
          obtain ⟨houtcome, hrepresents⟩ := h.turn (by omega) hturn
          have harrivals := Ledger.arrivals_answer live.config ledger first.request
          rw [← houtcome] at harrivals
          rw [List.forall_mem_cons]
          refine ⟨hturn.not_faulted h.sound (by rw [h.nextSequence]; omega), ih hrepresents ?_⟩
          rw [ended, harrivals, Nat.add_assoc]
          exact haccepted

end Live

namespace Queue

/-- **The log replays the queue.** Whatever calls are made one after the other at a new queue, with
whatever arguments and however long they wait, up to the first one that never returns or is aborted:

* the records of the messages accepted tell their numbers, which are `0`, `1`, and so on, their
  priorities and their lengths, in the order in which they were accepted,
* every record of a message, accepted or handed out, shows as many messages as the records up to it
  tell, and
* each call writes what `Account.Logged` says, and after each call the log tells how many messages
  are queued and how many have been accepted.

No call is aborted before `2 ^ 63` messages have been accepted. -/
theorem log_replays_queue {config : Config} {host host' : Host} {queue : Queue}
    (hcreate : (uncreated.create config).runOn host = (.ok queue, host')) (calls : List Call) :
    queue.occupancy = 0 ∧
    (acceptedCount (ended (queue.accounts calls)) < 2 ^ 63 →
      ∀ account ∈ queue.accounts calls, account.isFaulted = false) ∧
    ∀ accounts, accounts <+: queue.accounts calls →
      (∀ account ∈ accounts, account.isFaulted = false) →
        Log.accepted (written accounts) = (sent 0 (ended accounts)).map Message.told ∧
        Log.Balanced (written accounts) ∧
        ∀ earlier account, accounts = earlier ++ [account] → account.Logged config earlier := by
  obtain ⟨-, id, contents, hnew, rfl⟩ := of_create hcreate
  have htracked : Live.Tracked config [] { id, config, contents, telemetry := {} } := .new hnew
  refine ⟨rfl, fun haccepted => ?_, fun accounts haccounts hfault => ?_⟩
  · refine Live.Represents.accounts_not_faulted (.new hnew) ?_
    simpa using haccepted
  · rcases List.eq_nil_or_concat accounts with rfl | ⟨earlier, account, rfl⟩
    · exact ⟨htracked.accepted, htracked.balanced, by simp⟩
    · obtain ⟨later, hsplit⟩ := haccounts
      rw [List.concat_eq_append] at hsplit hfault ⊢
      obtain ⟨hlogged, live', -, hafter⟩ :=
        htracked.accounts (by rw [← hsplit, List.append_assoc]; rfl) hfault
      refine ⟨hafter.accepted, hafter.balanced, fun earlier' account' hsame => ?_⟩
      obtain ⟨rfl, hlast⟩ := List.append_inj' hsame rfl
      obtain rfl := List.head_eq_of_cons_eq hlast
      exact hlogged

/-- Calls that fill the sample, empty it and close it, and after that a payload that is too large
for it, another message, and a second attempt to close it. -/
def sampleChatter : List Call :=
  sampleCalls ++ [⟨25, .send ⟨#[1, 2, 3]⟩ 0, .impatient⟩, ⟨26, .send ⟨#[5]⟩ 0, .unlimited⟩,
    ⟨27, .close, .unlimited⟩]

/-- Of eleven calls at the sample six write a record, and the records tell what has happened. -/
theorem log_replays_queue_sampleChatter :
    (uncreated.create Live.sample.config).runOn {} =
        (.ok (created .sample), ((uncreated.create Live.sample.config).runOn {}).2) ∧
      ((created .sample).accounts sampleChatter).length = 11 ∧
      written ((created .sample).accounts sampleChatter) =
        [.sent "sample" 0 0 1 1, .sent "sample" 1 5 2 2, .received "sample" 1, .closed "sample",
          .received "sample" 0, .oversized "sample" 3 2] ∧
      Log.accepted (written ((created .sample).accounts sampleChatter)) =
        [(0, 0, 1), (1, 5, 2)] ∧
      Log.Balanced (written ((created .sample).accounts sampleChatter)) := by
  obtain ⟨-, hfault, hlog⟩ := log_replays_queue create_sample sampleChatter
  obtain ⟨haccepted, hbalanced, -⟩ := hlog _ (List.prefix_refl _) (hfault (by decide +kernel))
  exact ⟨create_sample, by decide +kernel, by decide +kernel, haccepted.trans (by decide +kernel),
    hbalanced⟩

end Queue

end StableQueue
