import StableQueue.Proofs.Monitor.Receiving

/-!
# A Rejected Receiver Hands Its Wake-Up On

A receiver whose buffer cannot hold the message it was woken for leaves the message where it is, and
owes its own wake-up to the next one. Here receivers are parked at an open and empty queue, a
message is sent, and nobody else comes. One receiver after the other is woken, until one of them has
room for the message or nobody is left to be woken. Which receiver a wake-up goes to is left open.

`Monitor.Course` counts the steps from there, `Monitor.Stage` says how far the wake-up has come, and
`Monitor.HandedOn` how it ends.

## Main results

* `Monitor.forall_not_proceeds_iff`: when no step is left.
* `Monitor.course_settle`: the turns the program takes are a course, to a state without a next step.
* `Monitor.Stage.step`, `Monitor.Course.stage`: one step, and any number of them.
* `Monitor.wakeup_handed_on`: how every course ends, and how long it can be.
-/

namespace StableQueue

/-! ### A queue with at most one message -/

/-- The queue is open, and these messages are in it. Their number can be read without the lock. -/
def Queue.Holds (queue : Queue) (messages : List Message) : Prop :=
  ∃ live, queue = .created live ∧ live.contents.Consistent live.config ∧
    live.contents.closed = false ∧ live.contents.messages = messages ∧
    live.telemetry.occupancy = messages.length

/-- A heap with at most one entry is in order. -/
theorem Heap.isOrdered_of_len_le {heap : Heap} (h : heap.len ≤ 1) : heap.IsOrdered := by
  intro child hchild hne
  omega

/-- The message at the root, if it is the only one. -/
theorem Contents.exists_root_of_messages_eq {contents : Contents} {message : Message}
    (h : contents.messages = [message]) :
    ∃ root, contents.heap.peekMax = some root ∧ contents.message root = message := by
  have hpos : 0 < contents.heap.len := by simp [← Contents.length_messages, h]
  obtain ⟨root, hroot⟩ := Heap.exists_peekMax hpos
  refine ⟨root, hroot, ?_⟩
  have hmem : contents.message root ∈ contents.messages :=
    List.mem_map_of_mem (Heap.peekMax_mem_live hroot)
  rw [h] at hmem
  exact List.mem_singleton.mp hmem

namespace Live

variable {live live' : Live} {mayWait : Bool} {request : Request} {pass : Pass}

/-- The pass of a sender who finds the queue empty. -/
theorem Turn.of_send_to_empty {payload : ByteArray} {priority : Int}
    (h : live.Turn mayWait (.send payload priority) pass live')
    (hlive : live.contents.Consistent live.config) (hopen : live.contents.closed = false)
    (hempty : live.contents.messages = []) (hdepth : 0 < live.config.depth)
    (hsize : payload.size ≤ live.config.messageSize) :
    (∃ log, pass = .leave { result := .ok .done } [.one .notEmpty] log) ∧
      (Queue.created live').Holds [⟨priority, live.contents.nextSequence.toNat, payload⟩] := by
  have hlen := Contents.messages_eq_nil_iff.mp hempty
  have hsum := hlive.len_add_freeCount
  have hsender : (Request.send payload priority).awaits ≠ some .notEmpty := by
    simp [Request.awaits]
  cases h with
  | oversized hlarge => omega
  | sendClosed _ hclosed => simp [hopen] at hclosed
  | sendWaits _ _ hfull _ => omega
  | sendFull _ _ hfull _ => omega
  | sent _ _ hfree _ =>
      have hmessages := hlive.messages_afterEnqueue hfree hsize priority
      rw [hempty, List.perm_singleton] at hmessages
      refine ⟨⟨_, rfl⟩, _, rfl, hlive.afterEnqueue hfree hsize priority, hopen, hmessages, ?_⟩
      exact (hlive.len_afterEnqueue hfree payload priority).trans (by simp [hlen])
  | sendAborted _ _ hfree hordered =>
      have hone := hlive.len_afterEnqueue hfree payload priority
      exact absurd (Heap.isOrdered_of_len_le (by omega)) hordered
  | _ => contradiction

/-- The pass of a receiver who has room for the only message. -/
theorem Turn.of_hasRoom {message : Message} (h : live.Turn mayWait request pass live')
    (hlive : live.contents.Consistent live.config) (hopen : live.contents.closed = false)
    (hmessages : live.contents.messages = [message]) (hrequest : request.awaits = some .notEmpty)
    (hroom : request.hasRoom message = true) :
    (∃ log, pass = .leave (request.delivery message) [.one .notFull] log) ∧
      (Queue.created live').Holds [] := by
  obtain ⟨root, hroot, rfl⟩ := Contents.exists_root_of_messages_eq hmessages
  have hnone : (live.contents.afterDequeue root).messages = [] := by
    have hperm := hlive.messages_afterDequeue hroot
    rw [hmessages] at hperm
    exact (List.perm_cons _).mp hperm |>.nil_eq.symm
  have hlen := Contents.messages_eq_nil_iff.mp hnone
  have hpass := h.of_root hrequest hroot hroom
  rw [if_pos (Heap.isOrdered_of_len_le (by omega))] at hpass
  obtain ⟨rfl, rfl⟩ := Prod.mk.inj hpass
  exact ⟨⟨_, rfl⟩, _, rfl, hlive.afterDequeue hroot, hopen, hnone, hlen⟩

end Live

namespace Queue

variable {queue : Queue} {message : Message} {request : Request}

/-- Who has room for the only message takes it, and owes a wake-up to the senders. -/
theorem Holds.attempt_of_hasRoom (h : queue.Holds [message])
    (hrequest : request.awaits = some .notEmpty) (hroom : request.hasRoom message = true)
    (mayWait : Bool) :
    ∃ log after, queue.attempt request mayWait =
      (.leave (request.delivery message) [.one .notFull] log, after) ∧ after.Holds [] := by
  obtain ⟨live, rfl, hlive, hopen, hmessages, -⟩ := h
  obtain ⟨⟨log, hpass⟩, hafter⟩ := (Live.attempt_turn hlive request mayWait).of_hasRoom hlive hopen
    hmessages hrequest hroom
  exact ⟨log, _, Prod.ext hpass rfl, hafter⟩

/-- Who has no room for the only message is rejected, and owes its wake-up to the next receiver. -/
theorem Holds.attempt_of_not_hasRoom (h : queue.Holds [message])
    (hroom : request.hasRoom message = false) (mayWait : Bool) :
    queue.attempt request mayWait =
      (.leave (.refused request (.bufferTooSmall message.payload.size request.buffer.size))
        [.one .notEmpty] [], queue) := by
  obtain ⟨live, rfl, hlive, -, hmessages, -⟩ := h
  obtain ⟨root, hroot, rfl⟩ := Contents.exists_root_of_messages_eq hmessages
  have hformed : (created live).WellFormed := .of_created rfl hlive
  cases request with
  | receiveInto buffer =>
      have hlt : buffer.size < (live.contents.message root).payload.size := by
        simpa [Request.hasRoom] using hroom
      have hobjects : (created live).Objects (.receiveInto buffer) _ := .tooSmall hroot hlt
      exact (hformed.attempt_of_objects hobjects).1 mayWait (by simp [Refusal.isTransient])
  | _ => simp [Request.hasRoom] at hroom

/-- A queue that has been created has room for a message. -/
theorem Reached.depth_pos {history : List Finished} {live : Live}
    (h : (Queue.created live).Reached history) : 0 < live.config.depth := by
  generalize hqueue : Queue.created live = queue at h
  cases h with
  | uncreated => contradiction
  | created hcreate hrun =>
      obtain ⟨hvalid, id, contents, hnew, rfl⟩ := of_create hcreate
      obtain ⟨same, hsame, hconfig, -⟩ := hrun.exists_live rfl (Contents.Consistent.new hnew).1
      obtain rfl := Queue.created.inj (hqueue.trans hsame)
      rw [hconfig]
      exact (Config.validate_eq_ok_iff.mp hvalid).1

end Queue

namespace Monitor

variable {monitor middle after : Monitor} {history ended : List (Visit × Outcome)} {count : Nat}

/-! ### Courses -/

/-- A step that uses something up: a caller who is about to take the lock, or a wake-up that is
owed. So nobody comes, and nobody wakes by itself. -/
def Proceeds (monitor : Monitor) (ended : List (Visit × Outcome)) (after : Monitor) : Prop :=
  Step monitor ended after ∧
    (after.active.length < monitor.active.length ∨ after.owed.length < monitor.owed.length)

/-- So many of these steps, and the calls that end with them, in order. -/
inductive Course (start : Monitor) : Nat → List (Visit × Outcome) → Monitor → Prop
  /-- Nothing has happened yet. -/
  | refl : Course start 0 [] start
  /-- One step more. -/
  | step {count : Nat} {history ended : List (Visit × Outcome)} {monitor after : Monitor}
      (hcourse : Course start count history monitor) (hstep : Proceeds monitor ended after) :
      Course start (count + 1) (history ++ ended) after

/-- A course can begin a step earlier. -/
theorem Course.head (h : Course middle count history after)
    (hstep : Proceeds monitor ended middle) :
    Course monitor (count + 1) (ended ++ history) after := by
  induction h with
  | refl => simpa using Course.refl.step hstep
  | step _ hlast ih =>
      rw [← List.append_assoc]
      exact ih.step hlast

/-- Who takes the lock does not wait for it any more. -/
theorem proceeds_enter {visit : Visit} {active : List Visit}
    (hactive : monitor.active = visit :: active) (now : Nat) :
    Proceeds monitor (monitor.endings now visit)
      (({ monitor with active } : Monitor).enter now visit) :=
  ⟨.enter (.of_eq hactive) now, .inl (by simp [hactive])⟩

/-- A wake-up that has been delivered is no longer owed. -/
theorem proceeds_deliver {signal : Signal} {owed : List Signal}
    (howed : monitor.owed = signal :: owed) :
    Proceeds monitor [] (({ monitor with owed } : Monitor).deliver signal) :=
  ⟨step_deliver howed, .inr (by simp [howed])⟩

/-- **No step is left** exactly if nobody is about to take the lock and no wake-up is owed. -/
theorem forall_not_proceeds_iff :
    (∀ ended after, ¬ Proceeds monitor ended after) ↔ monitor.active = [] ∧ monitor.owed = [] := by
  constructor
  · intro hstuck
    constructor
    · refine List.eq_nil_iff_forall_not_mem.mpr fun visit hvisit => ?_
      obtain ⟨first, active, hactive⟩ := List.exists_cons_of_ne_nil (List.ne_nil_of_mem hvisit)
      exact hstuck _ _ (proceeds_enter hactive 0)
    · refine List.eq_nil_iff_forall_not_mem.mpr fun signal hsignal => ?_
      obtain ⟨first, owed, howed⟩ := List.exists_cons_of_ne_nil (List.ne_nil_of_mem hsignal)
      exact hstuck _ _ (proceeds_deliver howed)
  · rintro ⟨hactive, howed⟩ ended after ⟨-, hless⟩
    simp [hactive, howed] at hless

/-- **The turns the program takes are a course**, to a state in which no step is left. -/
theorem course_settle (monitor : Monitor) (now : Nat) :
    (∃ count history, Course monitor count history (monitor.settle now)) ∧
      (monitor.settle now).active = [] ∧ (monitor.settle now).owed = [] := by
  induction monitor using settle.induct now with
  | case1 monitor signal owed howed ih =>
      obtain ⟨⟨count, history, hcourse⟩, hsettled⟩ := ih
      rw [settle_of_owed now howed]
      exact ⟨⟨_, _, hcourse.head (proceeds_deliver howed)⟩, hsettled⟩
  | case2 monitor howed visit active hactive ih =>
      obtain ⟨⟨count, history, hcourse⟩, hsettled⟩ := ih
      rw [settle_of_active now howed hactive]
      exact ⟨⟨_, _, hcourse.head (proceeds_enter hactive now)⟩, hsettled⟩
  | case3 monitor howed hactive =>
      rw [settle_of_nil now howed hactive]
      exact ⟨⟨0, [], .refl⟩, hactive, howed⟩

/-- If one caller is about to take the lock and no wake-up is owed, this caller is next. -/
theorem Proceeds.of_active {visit : Visit} (h : Proceeds monitor ended after)
    (hactive : monitor.active = [visit]) (howed : monitor.owed = []) :
    ∃ now, ended = monitor.endings now visit ∧
      after = ({ monitor with active := [] } : Monitor).enter now visit := by
  obtain ⟨hstep, hless⟩ := h
  cases hstep with
  | arrive _ => simp [arrive] at hless
  | enter hperm now =>
      rw [hactive, List.singleton_perm, List.cons.injEq] at hperm
      obtain ⟨rfl, rfl⟩ := hperm
      exact ⟨now, rfl, rfl⟩
  | wakeOne hperm _ => simp [howed] at hperm
  | wakeNone hperm _ => simp [howed] at hperm
  | wakeAll hperm => simp [howed] at hperm
  | unpark _ => simp at hless

/-- If nobody is about to take the lock and a wake-up for one is owed, it is delivered next: to one
of those parked on its condition, or to nobody if there is none. -/
theorem Proceeds.of_owed {condition : Condition} (h : Proceeds monitor ended after)
    (hactive : monitor.active = []) (howed : monitor.owed = [.one condition]) :
    ended = [] ∧
      ((∃ visit parked, monitor.parked.Perm ((visit, condition) :: parked) ∧
        after = { monitor with active := [wake (visit, condition)], parked, owed := [] }) ∨
      ((∀ caller ∈ monitor.parked, caller.2 ≠ condition) ∧
        after = { monitor with owed := [] })) := by
  obtain ⟨hstep, hless⟩ := h
  cases hstep with
  | arrive _ => simp [arrive] at hless
  | enter hperm now => simp [hactive] at hperm
  | wakeOne hperm hparked =>
      rw [howed, List.singleton_perm, List.cons.injEq, Signal.one.injEq] at hperm
      obtain ⟨rfl, rfl⟩ := hperm
      exact ⟨rfl, .inl ⟨_, _, hparked, by rw [hactive, List.nil_append]⟩⟩
  | wakeNone hperm hparked =>
      rw [howed, List.singleton_perm, List.cons.injEq, Signal.one.injEq] at hperm
      obtain ⟨rfl, rfl⟩ := hperm
      exact ⟨rfl, .inr ⟨hparked, rfl⟩⟩
  | wakeAll hperm =>
      rw [howed, List.singleton_perm, List.cons.injEq] at hperm
      exact absurd hperm.1 (by simp)
  | unpark _ => simp at hless

/-! ### The way of the wake-up -/

/-- A receiver who was woken, and told that its buffer is too small. The buffer is as it was. -/
def rejection (message : Message) (caller : Visit × Condition) : Visit × Outcome :=
  (wake caller, .refused caller.1.request
    (.bufferTooSmall message.payload.size caller.1.request.buffer.size))

/-- The sender has sent its message, and some of those parked have been woken for it, one after the
other. They had no room for it, and nobody else has come back. The rest has not been woken. -/
structure Rejects (parked : List (Visit × Condition)) (sender : Visit) (message : Message)
    (rejected rest : List (Visit × Condition)) (history : List (Visit × Outcome)) : Prop where
  /-- Everybody has been woken or has not. -/
  parked_perm : parked.Perm (rejected ++ rest)
  /-- Who has been woken has no room for the message. -/
  hasRoom_eq_false : ∀ caller ∈ rejected, caller.1.request.hasRoom message = false
  /-- All of them have been told so, in this order. -/
  history_eq : history = (sender, { result := .ok .done }) :: rejected.map (rejection message)

/-- How it ends for the callers who were parked, and what the queue holds then. -/
inductive HandedOn (parked : List (Visit × Condition)) (sender : Visit) (message : Message) :
    List (Visit × Outcome) → Monitor → Prop
  /-- One of them has room for the message, and has got it. All that were woken before it have been
  rejected, and the others are still parked. -/
  | taken {rejected rest : List (Visit × Condition)} {taker : Visit × Condition}
      {history : List (Visit × Outcome)} {monitor : Monitor}
      (hrejects : Rejects parked sender message rejected (taker :: rest) history)
      (hroom : taker.1.request.hasRoom message = true)
      (hparked : monitor.parked.Perm rest) (hqueue : monitor.queue.Holds []) :
      HandedOn parked sender message
        (history ++ [(wake taker, taker.1.request.delivery message)]) monitor
  /-- None of them has room for the message. All have been rejected, nobody is parked any more, and
  the message is still queued. -/
  | left {rejected : List (Visit × Condition)} {history : List (Visit × Outcome)}
      {monitor : Monitor} (hrejects : Rejects parked sender message rejected [] history)
      (hparked : monitor.parked = []) (hqueue : monitor.queue.Holds [message]) :
      HandedOn parked sender message history monitor

/-- How far the wake-up has come, and after how many steps. -/
inductive Stage (start : Monitor) (sender : Visit) (message : Message) :
    Nat → List (Visit × Outcome) → Monitor → Prop
  /-- The sender is about to take the lock. -/
  | sending : Stage start sender message 0 [] (start.arrive sender)
  /-- The wake-up is owed. -/
  | offered {rejected rest : List (Visit × Condition)} {history : List (Visit × Outcome)}
      {monitor : Monitor}
      (hrejects : Rejects start.parked sender message rejected rest history)
      (hactive : monitor.active = []) (howed : monitor.owed = [.one .notEmpty])
      (hparked : monitor.parked.Perm rest) (hqueue : monitor.queue.Holds [message]) :
      Stage start sender message (2 * rejected.length + 1) history monitor
  /-- One of the receivers has been woken. -/
  | woken {rejected rest : List (Visit × Condition)} {caller : Visit × Condition}
      {history : List (Visit × Outcome)} {monitor : Monitor}
      (hrejects : Rejects start.parked sender message rejected (caller :: rest) history)
      (hactive : monitor.active = [wake caller]) (howed : monitor.owed = [])
      (hparked : monitor.parked.Perm rest) (hqueue : monitor.queue.Holds [message]) :
      Stage start sender message (2 * rejected.length + 2) history monitor
  /-- The message has been taken, and a wake-up is owed to the senders. -/
  | taken {rejected rest : List (Visit × Condition)} {taker : Visit × Condition}
      {history : List (Visit × Outcome)} {monitor : Monitor}
      (hrejects : Rejects start.parked sender message rejected (taker :: rest) history)
      (hroom : taker.1.request.hasRoom message = true)
      (hactive : monitor.active = []) (howed : monitor.owed = [.one .notFull])
      (hparked : monitor.parked.Perm rest) (hqueue : monitor.queue.Holds []) :
      Stage start sender message (2 * rejected.length + 3)
        (history ++ [(wake taker, taker.1.request.delivery message)]) monitor
  /-- No step is left. -/
  | settled {count : Nat} {history : List (Visit × Outcome)} {monitor : Monitor}
      (hcount : count ≤ 2 * start.parked.length + 2)
      (hactive : monitor.active = []) (howed : monitor.owed = [])
      (hended : HandedOn start.parked sender message history monitor) :
      Stage start sender message count history monitor

variable {start : Monitor} {sender : Visit} {message : Message} {parked rejected rest :
  List (Visit × Condition)} {caller : Visit × Condition}

/-- One more has been rejected. -/
theorem Rejects.reject (h : Rejects parked sender message rejected (caller :: rest) history)
    (hroom : caller.1.request.hasRoom message = false) :
    Rejects parked sender message (rejected ++ [caller]) rest
      (history ++ [rejection message caller]) where
  parked_perm := by simpa using h.parked_perm
  hasRoom_eq_false := by
    rw [List.forall_mem_append]
    exact ⟨h.hasRoom_eq_false, by simpa using hroom⟩
  history_eq := by simp [h.history_eq]

/-- Which of those that have not been woken is next does not matter. -/
theorem Rejects.of_perm {others : List (Visit × Condition)}
    (h : Rejects parked sender message rejected rest history) (hperm : rest.Perm others) :
    Rejects parked sender message rejected others history where
  parked_perm := h.parked_perm.trans (hperm.append_left rejected)
  hasRoom_eq_false := h.hasRoom_eq_false
  history_eq := h.history_eq

/-- Everybody parked has been woken or has not. -/
theorem Rejects.length_add_length (h : Rejects parked sender message rejected rest history) :
    rejected.length + rest.length = parked.length := by
  rw [h.parked_perm.length_eq, List.length_append]

/-- Those parked at the queue are receivers. -/
def ReceiversParked (monitor : Monitor) : Prop :=
  ∀ caller ∈ monitor.parked, caller.2 = .notEmpty ∧ caller.1.request.awaits = some .notEmpty

/-- No course is longer than this. -/
theorem Stage.count_le (h : Stage start sender message count history monitor) :
    count ≤ 2 * start.parked.length + 2 := by
  cases h with
  | sending => omega
  | offered hrejects _ _ _ _ =>
      have := hrejects.length_add_length
      omega
  | woken hrejects _ _ _ _ =>
      have := hrejects.length_add_length
      rw [List.length_cons] at this
      omega
  | taken hrejects _ _ _ _ _ =>
      have := hrejects.length_add_length
      rw [List.length_cons] at this
      omega
  | settled hcount _ _ _ => exact hcount

/-- If no step is left, it has ended. -/
theorem Stage.handedOn (h : Stage start sender message count history monitor)
    (hactive : monitor.active = []) (howed : monitor.owed = []) :
    HandedOn start.parked sender message history monitor := by
  cases h with
  | sending => simp [arrive] at hactive
  | offered _ _ hone _ _ => simp [howed] at hone
  | woken _ hone _ _ _ => simp [hactive] at hone
  | taken _ _ _ hone _ _ => simp [howed] at hone
  | settled _ _ _ hended => exact hended

/-- The wake-up is delivered. -/
theorem Stage.step_offered (hreceivers : start.ReceiversParked)
    (hrejects : Rejects start.parked sender message rejected rest history)
    (hactive : monitor.active = []) (howed : monitor.owed = [.one .notEmpty])
    (hparked : monitor.parked.Perm rest) (hqueue : monitor.queue.Holds [message])
    (hstep : Proceeds monitor ended after) :
    Stage start sender message (2 * rejected.length + 1 + 1) (history ++ ended) after := by
  obtain ⟨rfl, ⟨visit, others, hperm, rfl⟩ | ⟨hnobody, rfl⟩⟩ := hstep.of_owed hactive howed
  · rw [List.append_nil]
    exact .woken (hrejects.of_perm (hparked.symm.trans hperm)) rfl rfl (.refl _) hqueue
  · have hrest : rest = [] := by
      refine List.eq_nil_iff_forall_not_mem.mpr fun caller hcaller => ?_
      have hmem := hrejects.parked_perm.mem_iff.mpr (List.mem_append_right rejected hcaller)
      exact hnobody caller (hparked.mem_iff.mpr hcaller) (hreceivers caller hmem).1
    subst hrest
    rw [List.append_nil]
    refine .settled ?_ hactive rfl (.left hrejects hparked.eq_nil hqueue)
    have := hrejects.length_add_length
    rw [List.length_nil] at this
    omega

/-- The receiver that has been woken takes the lock. -/
theorem Stage.step_woken (hreceivers : start.ReceiversParked)
    (hrejects : Rejects start.parked sender message rejected (caller :: rest) history)
    (hactive : monitor.active = [wake caller]) (howed : monitor.owed = [])
    (hparked : monitor.parked.Perm rest) (hqueue : monitor.queue.Holds [message])
    (hstep : Proceeds monitor ended after) :
    Stage start sender message (2 * rejected.length + 2 + 1) (history ++ ended) after := by
  obtain ⟨now, rfl, rfl⟩ := hstep.of_active hactive howed
  have hrequest : (wake caller).request.awaits = some .notEmpty :=
    (hreceivers caller (hrejects.parked_perm.mem_iff.mpr (by simp))).2
  rw [endings, enter]
  cases hroom : caller.1.request.hasRoom message with
  | true =>
      obtain ⟨log, queue, hattempt, hafter⟩ := hqueue.attempt_of_hasRoom hrequest hroom
        ((wake caller).deadline.allows now)
      simp only [hattempt, howed]
      exact .taken hrejects hroom rfl rfl hparked hafter
  | false =>
      have hroom : (wake caller).request.hasRoom message = false := hroom
      have hattempt := hqueue.attempt_of_not_hasRoom hroom ((wake caller).deadline.allows now)
      simp only [hattempt, howed]
      have hcount : 2 * rejected.length + 2 + 1 = 2 * (rejected ++ [caller]).length + 1 := by
        rw [List.length_append, List.length_singleton]
        omega
      rw [hcount]
      exact .offered (hrejects.reject hroom) rfl rfl hparked hqueue

/-- **One step of the course.** -/
theorem Stage.step (h : Stage start sender message count history monitor)
    (hstep : Proceeds monitor ended after) (hreceivers : start.ReceiversParked)
    (hactive : start.active = []) (howed : start.owed = [])
    (hsends : ∀ mayWait, ∃ log queue, start.queue.attempt sender.request mayWait =
      (.leave { result := .ok .done } [.one .notEmpty] log, queue) ∧ queue.Holds [message]) :
    Stage start sender message (count + 1) (history ++ ended) after := by
  cases h with
  | sending =>
      have hsender : (start.arrive sender).active = [sender] := by simp [arrive, hactive]
      obtain ⟨now, rfl, rfl⟩ := hstep.of_active hsender howed
      obtain ⟨log, queue, hattempt, hafter⟩ := hsends (sender.deadline.allows now)
      have hrejects : Rejects start.parked sender message [] start.parked
          [(sender, { result := .ok .done })] := ⟨.refl _, by simp, rfl⟩
      simp only [endings, enter, arrive, hattempt, howed]
      exact .offered hrejects rfl rfl (.refl _) hafter
  | offered hrejects hactive howed hparked hqueue =>
      exact step_offered hreceivers hrejects hactive howed hparked hqueue hstep
  | woken hrejects hactive howed hparked hqueue =>
      exact step_woken hreceivers hrejects hactive howed hparked hqueue hstep
  | taken hrejects hroom hactive howed hparked hqueue =>
      -- Nobody is parked who could be woken because a slot has become free.
      obtain ⟨rfl, ⟨visit, others, hperm, -⟩ | ⟨-, rfl⟩⟩ := hstep.of_owed hactive howed
      · have hmem := hparked.mem_iff.mp (hperm.mem_iff.mpr List.mem_cons_self)
        have hmem := hrejects.parked_perm.mem_iff.mpr
          (List.mem_append_right _ (List.mem_cons_of_mem _ hmem))
        exact absurd (hreceivers _ hmem).1 (by simp)
      · rw [List.append_nil]
        refine .settled ?_ hactive rfl (.taken hrejects hroom hparked hqueue)
        have := hrejects.length_add_length
        rw [List.length_cons] at this
        omega
  | settled _ hactive howed _ =>
      exact absurd hstep (forall_not_proceeds_iff.mpr ⟨hactive, howed⟩ _ _)

/-- **Any number of steps of the course.** -/
theorem Course.stage (h : Course (start.arrive sender) count history monitor)
    (hreceivers : start.ReceiversParked) (hactive : start.active = []) (howed : start.owed = [])
    (hsends : ∀ mayWait, ∃ log queue, start.queue.attempt sender.request mayWait =
      (.leave { result := .ok .done } [.one .notEmpty] log, queue) ∧ queue.Holds [message]) :
    Stage start sender message count history monitor := by
  induction h with
  | refl => exact .sending
  | step _ hstep ih => exact ih.step hstep hreceivers hactive howed hsends

/-- **A wake-up is handed on until the message is taken or nobody waits.** Receivers are parked at
an open and empty queue, and nobody else is there; a sender comes with a payload that fits. However
the wake-ups are delivered, the course is over after at most two steps for each receiver and two
more, and when no step is left, it has ended as it should. The turns the program takes are such a
course. -/
theorem wakeup_handed_on {past : List Finished} {live : Live} {payload : ByteArray} {priority : Int}
    (hreached : (Queue.created live).Reached past) (hqueue : start.queue = .created live)
    (hopen : live.contents.closed = false) (hempty : live.contents.messages = [])
    (hactive : start.active = []) (howed : start.owed = []) (hreceivers : start.ReceiversParked)
    (hrequest : sender.request = .send payload priority)
    (hsize : payload.size ≤ live.config.messageSize) :
    (∀ count history after, Course (start.arrive sender) count history after →
      count ≤ 2 * start.parked.length + 2 ∧
      ((∀ ended next, ¬ Proceeds after ended next) →
        HandedOn start.parked sender ⟨priority, live.contents.nextSequence.toNat, payload⟩
          history after)) ∧
    ∀ now, (∃ count history,
        Course (start.arrive sender) count history ((start.arrive sender).settle now)) ∧
      ∀ ended next, ¬ Proceeds ((start.arrive sender).settle now) ended next := by
  have hlive := hreached.wellFormed live rfl
  have hsends (mayWait : Bool) : ∃ log queue, start.queue.attempt sender.request mayWait =
      (.leave { result := .ok .done } [.one .notEmpty] log, queue) ∧
        queue.Holds [⟨priority, live.contents.nextSequence.toNat, payload⟩] := by
    obtain ⟨⟨log, hpass⟩, hafter⟩ := (Live.attempt_turn hlive (.send payload priority)
      mayWait).of_send_to_empty hlive hopen hempty hreached.depth_pos hsize
    rw [hqueue, hrequest]
    exact ⟨log, _, Prod.ext hpass rfl, hafter⟩
  refine ⟨fun count history after hcourse => ?_, fun now => ?_⟩
  · have hstage := hcourse.stage hreceivers hactive howed hsends
    refine ⟨hstage.count_le, fun hstuck => ?_⟩
    obtain ⟨hactive, howed⟩ := forall_not_proceeds_iff.mp hstuck
    exact hstage.handedOn hactive howed
  · obtain ⟨hcourse, hsettled⟩ := course_settle (start.arrive sender) now
    exact ⟨hcourse, forall_not_proceeds_iff.mpr hsettled⟩

/-- Two receivers who wait for as long as it takes are parked at the sample. The first one has a
buffer without room for any byte. -/
def sampleWaiting : Monitor where
  queue := .created .sample
  parked := [({ token := 2, request := .receiveInto .empty, deadline := .never }, .notEmpty),
    (sampleReceiver, .notEmpty)]

/-- At the sample the wake-up comes to an end when the turns of the program are taken. -/
theorem wakeup_handed_on_sampleWaiting :
    (Queue.created .sample).Reached [] ∧ sampleWaiting.ReceiversParked ∧
      ∃ count history, count ≤ 6 ∧
        Course (sampleWaiting.arrive sampleSender) count history
          ((sampleWaiting.arrive sampleSender).settle 0) ∧
        HandedOn sampleWaiting.parked sampleSender ⟨3, 0, ⟨#[7]⟩⟩ history
          ((sampleWaiting.arrive sampleSender).settle 0) := by
  have hreached : (Queue.created .sample).Reached [] := .created Queue.create_sample .refl
  have hreceivers : sampleWaiting.ReceiversParked := by
    simp [ReceiversParked, sampleWaiting, sampleReceiver, Request.awaits]
  obtain ⟨hcourses, hsettles⟩ := @wakeup_handed_on sampleWaiting sampleSender [] .sample ⟨#[7]⟩ 3
    hreached rfl rfl rfl rfl rfl hreceivers rfl (by decide)
  obtain ⟨⟨count, history, hcourse⟩, hstuck⟩ := hsettles 0
  obtain ⟨hcount, hended⟩ := hcourses count history _ hcourse
  exact ⟨hreached, hreceivers, count, history, hcount, hcourse, hended hstuck⟩

end Monitor

end StableQueue
