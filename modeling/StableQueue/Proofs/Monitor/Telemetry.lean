import StableQueue.Proofs.Queue.Telemetry
import StableQueue.Proofs.Session.Refusals

/-!
# The Telemetry Is Exact

What can be read without the lock repeats what the lock protects: how many messages there are, how
many there have been at most, whether the queue is closed. It is written by some passes only, each
time under the lock. Here it is compared with what has happened: with the calls that have ended, and
with all the states in which nobody held the lock. `Monitor.Route` is a run that lists the latter.

A pass that is aborted by the check of the heap order has changed the contents and shows neither of
the two numbers anew. What remains true then is `Monitor.Steady`; the rest, `Monitor.Exact`, holds
up to the first abort, and there is none before `2 ^ 63` messages have been accepted.

## Main results

* `Live.Turn.telemetry_cases`: what a pass does to the telemetry.
* `Live.Turn.balance`: what a pass does to the number of messages.
* `Monitor.endings_eq_refused_iff`: when a caller who does not wait is refused.
* `Monitor.telemetry_exact`: the telemetry after every run.
-/

namespace StableQueue

/-- A receiver who is handed a message hands out one. -/
theorem length_received_delivery {request : Request} (message : Message)
    (hrequest : request.awaits = some .notEmpty) :
    (received [⟨request, request.delivery message⟩]).length = 1 := by
  obtain rfl | ⟨buffer, rfl⟩ := Request.awaits_eq_notEmpty_iff.mp hrequest <;> rfl

/-- A call that fails hands out nothing. -/
theorem received_of_failed (request : Request) (failure : Failure) (buffer : ByteArray) :
    received [⟨request, ⟨.error failure, buffer⟩⟩] = [] := rfl

namespace Live

variable {live live' : Live} {mayWait : Bool} {request : Request} {pass : Pass}
  {outcome : Outcome} {owed : List Signal} {log : List Log.Event} {contents : Contents}

/-! ### One pass -/

/-- **What a pass does to the telemetry.** Either it leaves both numbers as they are, or it brings
both up to date. -/
theorem Turn.telemetry_cases (h : live.Turn mayWait request pass live') :
    (live'.telemetry.occupancy = live.telemetry.occupancy ∧
      live'.telemetry.highWater = live.telemetry.highWater) ∨
    (live'.telemetry.occupancy = live'.contents.occupancy ∧
      live'.telemetry.highWater = max live.telemetry.highWater live'.contents.occupancy) := by
  cases h with
  | sent _ _ _ _ => exact .inr ⟨rfl, rfl⟩
  | received _ _ _ _ => exact .inr ⟨rfl, rfl⟩
  | _ => exact .inl ⟨rfl, rfl⟩

/-- A call that fails leaves the telemetry as it is. -/
theorem Turn.telemetry_of_failed (h : live.Turn mayWait request (.leave outcome owed log) live')
    {failure : Failure} (hfailed : outcome.result = .error failure) :
    live'.telemetry = live.telemetry := by
  cases h with
  | sent _ _ _ _ => contradiction
  | received _ _ _ _ => cases request <;> contradiction
  | closes _ => contradiction
  | _ => rfl

/-- **What a pass does to the number of messages.** Unless it is aborted, there is one more for a
message that is accepted, and one less for a message that is handed out. -/
theorem Turn.balance (h : live.Turn mayWait request (.leave outcome owed log) live')
    (hlive : live.contents.Consistent live.config)
    (hfault : (Finished.mk request outcome).isFaulted = false) :
    live'.contents.occupancy + (StableQueue.received [⟨request, outcome⟩]).length =
      live.contents.occupancy + acceptedCount [⟨request, outcome⟩] := by
  cases h with
  | @sent payload priority _ _ _ _ hfree _ => exact hlive.len_afterEnqueue hfree payload priority
  | sendAborted _ _ _ _ => simp [Finished.isFaulted] at hfault
  | received hrequest hroot _ _ =>
      obtain ⟨hpos, -⟩ := Heap.peekMax_eq_some_iff.mp hroot
      rw [length_received_delivery _ hrequest, acceptedCount_of_receiver hrequest]
      change (live.contents.afterDequeue _).heap.len + 1 = live.contents.heap.len + 0
      rw [Contents.len_afterDequeue]
      omega
  | receiveAborted _ _ _ _ => simp [Finished.isFaulted] at hfault
  | tooSmall _ _ => rfl
  | closes _ => rfl
  | closedBefore _ => rfl
  | _ =>
      rw [received_of_failed, acceptedCount_of_failed]
      rfl

/-- What can be read without the lock is within its bounds, also after an abort. -/
structure Bounded (live : Live) : Prop where
  /-- The number of messages has never been larger than it has been at most. -/
  occupancy_le : live.telemetry.occupancy ≤ live.telemetry.highWater
  /-- There have never been more messages than there is room for. -/
  highWater_le : live.telemetry.highWater ≤ live.config.depth
  /-- A closed queue is shown to be closed. -/
  closed : live.telemetry.closed = live.contents.closed

/-- A new queue is within the bounds. -/
theorem Bounded.new {id : Nat} {config : Config} (hnew : Contents.new config = .ok contents) :
    Bounded { id, config, contents, telemetry := {} } :=
  ⟨Nat.le_refl 0, Nat.zero_le _, (Published.new hnew).closed⟩

/-- **A pass stays within the bounds.** -/
theorem Turn.bounded (h : live.Turn mayWait request pass live')
    (hlive : live.contents.Consistent live.config) (hbounded : live.Bounded) :
    live'.Bounded ∧ live.telemetry.highWater ≤ live'.telemetry.highWater := by
  have hclosed := h.telemetry_closed hbounded.closed
  have hroom := (h.consistent hlive).occupancy_le
  rw [h.config_eq.2] at hroom
  obtain ⟨hoccupancy, hhighWater⟩ | ⟨hoccupancy, hhighWater⟩ := h.telemetry_cases
  · refine ⟨⟨?_, ?_, hclosed⟩, hhighWater.ge⟩
    · rw [hoccupancy, hhighWater]
      exact hbounded.occupancy_le
    · rw [hhighWater, h.config_eq.2]
      exact hbounded.highWater_le
  · refine ⟨⟨?_, ?_, hclosed⟩, ?_⟩
    · rw [hoccupancy, hhighWater]
      exact le_max_right _ _
    · rw [hhighWater, h.config_eq.2]
      exact max_le hbounded.highWater_le hroom
    · rw [hhighWater]
      exact le_max_left _ _

/-- **The high-water mark follows the number of messages.** -/
theorem Turn.highWater_eq (h : live.Turn mayWait request pass live') (hbounded : live.Bounded) :
    live'.telemetry.highWater = max live.telemetry.highWater live'.telemetry.occupancy := by
  -- an aborted pass shows neither number anew, so it needs no exception
  obtain ⟨hoccupancy, hhighWater⟩ | ⟨hoccupancy, hhighWater⟩ := h.telemetry_cases
  · rw [hoccupancy, hhighWater, max_eq_left hbounded.occupancy_le]
  · rw [hoccupancy, hhighWater]

end Live

namespace Monitor

variable {start monitor after : Monitor} {live : Live} {visited : List Monitor}
  {history : List (Visit × Outcome)}

/-! ### Runs and the states on their way -/

/-- A run, and all the states on its way, the first and the last one included. In each of them
nobody holds the lock. -/
inductive Route (start : Monitor) :
    List Monitor → List (Visit × Outcome) → Monitor → Prop
  /-- Nothing has happened yet. -/
  | refl : Route start [start] [] start
  /-- One step more. -/
  | step {visited : List Monitor} {history ended : List (Visit × Outcome)}
      {monitor after : Monitor} (hroute : Route start visited history monitor)
      (hstep : Step monitor ended after) :
      Route start (visited ++ [after]) (history ++ ended) after

/-- The states on the way left aside, it is a run. -/
theorem Route.run (hroute : Route start visited history monitor) :
    Run start history monitor := by
  induction hroute with
  | refl => exact .refl
  | step _ hstep ih => exact ih.step hstep

/-- Every run passes through some states. -/
theorem Run.exists_route (hrun : Run start history monitor) :
    ∃ visited, Route start visited history monitor := by
  induction hrun with
  | refl => exact ⟨_, .refl⟩
  | step _ hstep ih =>
      obtain ⟨visited, hroute⟩ := ih
      exact ⟨_, hroute.step hstep⟩

/-- **The number of messages is what has been accepted and not been handed out**, and it is the one
that is shown, unless a call has been aborted. -/
theorem Run.balance (hrun : Run start history monitor) (hqueue : start.queue = .created live)
    (hlive : live.contents.Consistent live.config) (hpublished : live.Published)
    (hempty : live.contents.occupancy = 0)
    (hfault : ∀ call ∈ finished history, call.isFaulted = false) :
    ∃ live', monitor.queue = .created live' ∧ live'.config = live.config ∧
      live'.contents.Consistent live'.config ∧ live'.Published ∧
      live'.contents.occupancy + (received (finished history)).length =
        acceptedCount (finished history) := by
  have hreached := hrun.exists_live_of_turns
    (motive := fun history live => (∀ call ∈ finished history, call.isFaulted = false) →
      live.Published ∧ live.contents.occupancy + (received (finished history)).length =
        acceptedCount (finished history))
    hqueue hlive (fun _ => ⟨hpublished, hempty⟩) ?turns
  case turns =>
    intro history live live' visit mayWait outcome owed log hlive hturn ih hfault
    rw [finished_append, List.forall_mem_append] at hfault
    obtain ⟨hpublished, hbalance⟩ := ih hfault.1
    have hend := hfault.2 _ List.mem_cons_self
    have hpass := hturn.balance hlive hend
    refine ⟨hturn.published hlive hpublished hend, ?_⟩
    rw [finished_append, received_append, acceptedCount_append, List.length_append]
    change live'.contents.occupancy + (_ + (received [⟨visit.request, outcome⟩]).length) =
      _ + acceptedCount [⟨visit.request, outcome⟩]
    omega
  obtain ⟨live', hqueue', hconfig, hlive', hmotive⟩ := hreached
  obtain ⟨hpublished', hbalance⟩ := hmotive hfault
  exact ⟨live', hqueue', hconfig, hlive', hpublished', hbalance⟩

/-- **A run stays within the bounds**, also after an abort, and the high-water mark never sinks. -/
theorem Run.bounded (hrun : Run start history monitor) (hqueue : start.queue = .created live)
    (hlive : live.contents.Consistent live.config) (hbounded : live.Bounded) :
    ∃ live', monitor.queue = .created live' ∧ live'.config = live.config ∧
      live'.contents.Consistent live'.config ∧ live'.Bounded ∧
      live.telemetry.highWater ≤ live'.telemetry.highWater := by
  refine hrun.exists_live_of_turns (motive := fun _ live' => live'.Bounded ∧
    live.telemetry.highWater ≤ live'.telemetry.highWater) hqueue hlive
    ⟨hbounded, Nat.le_refl _⟩ ?_
  intro _ live₁ live₂ _ _ _ _ _ hlive₁ hturn ⟨hbounded₁, hle⟩
  obtain ⟨hbounded₂, hstep⟩ := hturn.bounded hlive₁ hbounded₁
  exact ⟨hbounded₂, hle.trans hstep⟩

/-- After a step the high-water mark is the larger one of what it was and of what is shown. -/
theorem Step.highWaterMark_eq {ended : List (Visit × Outcome)} (hstep : Step monitor ended after)
    (hqueue : monitor.queue = .created live) (hlive : live.contents.Consistent live.config)
    (hbounded : live.Bounded) :
    after.queue.highWaterMark = max after.queue.occupancy monitor.queue.highWaterMark := by
  obtain ⟨-, hafter, -⟩ | ⟨_, _, _, _, _, live', hturn, -, hafter, -⟩ :=
    hstep.eq_or_turn hqueue hlive
  · rw [hafter, hqueue]
    exact (max_eq_right hbounded.occupancy_le).symm
  · rw [hafter, hqueue, max_comm]
    exact hturn.highWater_eq hbounded

/-- The numbers of messages that have been shown. -/
def shown (visited : List Monitor) : Set Nat := {n | ∃ state ∈ visited, state.queue.occupancy = n}

/-- One state more shows one number more. -/
theorem shown_append (visited : List Monitor) (after : Monitor) :
    shown (visited ++ [after]) = insert after.queue.occupancy (shown visited) := by
  ext n
  simp only [shown, List.mem_append, List.mem_singleton, Set.mem_ofPred_eq, Set.mem_insert_iff]
  constructor
  · rintro ⟨state, hold | rfl, rfl⟩
    · exact .inr ⟨state, hold, rfl⟩
    · exact .inl rfl
  · rintro (rfl | ⟨state, hold, rfl⟩)
    · exact ⟨after, .inr rfl, rfl⟩
    · exact ⟨state, .inl hold, rfl⟩

/-- **The high-water mark is the largest number of messages that has been shown.** -/
theorem Route.isGreatest (hroute : Route start visited history monitor)
    (hqueue : start.queue = .created live) (hlive : live.contents.Consistent live.config)
    (hbounded : live.Bounded) (hstart : start.queue.highWaterMark = start.queue.occupancy) :
    IsGreatest (shown visited) monitor.queue.highWaterMark := by
  induction hroute with
  | refl =>
      have honly : shown [start] = {start.queue.occupancy} := by
        ext n
        simp [shown, eq_comm]
      rw [honly, hstart]
      exact isGreatest_singleton
  | step hroute hstep ih =>
      obtain ⟨live', hqueue', -, hlive', hbounded', -⟩ := hroute.run.bounded hqueue hlive hbounded
      rw [shown_append, hstep.highWaterMark_eq hqueue' hlive' hbounded']
      exact ih.insert _

/-! ### What the load foretells -/

/-- **When a caller who does not wait is refused.** Whoever else is at the queue, the call ends with
this refusal exactly if the queue has this objection. -/
theorem endings_eq_refused_iff (h : monitor.queue.WellFormed) {now : Nat} {visit : Visit}
    (hwait : visit.deadline.allows now = false) {cause : Refusal} :
    monitor.endings now visit = [(visit, .refused visit.request cause)] ↔
      monitor.queue.Objects visit.request cause := by
  constructor
  · intro hended
    rw [endings, hwait] at hended
    cases hattempt : monitor.queue.attempt visit.request false with
    | mk pass queue =>
        rw [hattempt] at hended
        obtain ⟨cause', hobjects, -, rfl, -⟩ | ⟨_, _, _, _, hmay, -⟩ |
          ⟨-, outcome, owed, log, rfl, hresult⟩ := h.attempt_cases hattempt
        · obtain rfl : cause' = cause := by simpa [Outcome.refused] using hended
          exact hobjects
        · contradiction
        · obtain rfl : outcome = .refused visit.request cause := by simpa using hended
          exact absurd rfl (hresult cause)
  · intro hobjects
    rw [endings, (h.attempt_of_objects hobjects).1 _ fun _ => hwait]

/-- A sender whose payload fits finds an open queue full exactly if no slot is free. -/
theorem objects_full_iff {payload : ByteArray} (priority : Int)
    (hsize : payload.size ≤ live.config.messageSize) (hopen : live.contents.closed = false) :
    (Queue.created live).Objects (.send payload priority) .full ↔
      live.contents.pool.freeCount = 0 := by
  constructor
  · intro hobjects
    cases hobjects with
    | full _ _ hfull => exact hfull
  · exact .full hsize hopen

/-- A receiver finds an open queue empty exactly if no message is queued. -/
theorem objects_empty_iff {request : Request} (hrequest : request.awaits = some .notEmpty)
    (hopen : live.contents.closed = false) :
    (Queue.created live).Objects request .empty ↔ live.contents.messages = [] := by
  constructor
  · intro hobjects
    cases hobjects with
    | empty _ hempty _ => exact hempty
  · exact fun hempty => .empty hrequest hempty hopen

/-- A receiver finds a queue closed exactly if it is closed and no message is queued. -/
theorem objects_closed_iff {request : Request} (hrequest : request.awaits = some .notEmpty)
    (hclosed : live.contents.closed = true) :
    (Queue.created live).Objects request .closed ↔ live.contents.messages = [] := by
  constructor
  · intro hobjects
    cases hobjects with
    | sendClosed _ _ => simp [Request.awaits] at hrequest
    | drained _ hempty _ => exact hempty
  · exact fun hempty => .drained hrequest hempty hclosed

/-- The load of a queue foretells how the calls of those end who do not wait. -/
structure Foretells (monitor : Monitor) : Prop where
  /-- An open queue is full exactly if a payload that fits is refused for want of room. -/
  full_iff : monitor.queue.isClosed = false → ∀ now visit payload priority,
    visit.deadline.allows now = false → visit.request = .send payload priority →
      payload.size ≤ monitor.queue.messageSize →
        (monitor.queue.load = .full ↔
          monitor.endings now visit = [(visit, .refused visit.request .full)])
  /-- An open queue is empty exactly if a receiver is told so. -/
  empty_iff : monitor.queue.isClosed = false → ∀ now visit,
    visit.deadline.allows now = false → visit.request.awaits = some .notEmpty →
      (monitor.queue.load = .empty ↔
        monitor.endings now visit = [(visit, .refused visit.request .empty)])
  /-- A closed queue is empty exactly if a receiver is told that it is closed. -/
  empty_iff_of_closed : monitor.queue.isClosed = true → ∀ now visit,
    visit.deadline.allows now = false → visit.request.awaits = some .notEmpty →
      (monitor.queue.load = .empty ↔
        monitor.endings now visit = [(visit, .refused visit.request .closed)])
  /-- In between there are messages, and room for more. -/
  between_iff : monitor.queue.load = .between ↔
    0 < monitor.queue.occupancy ∧ monitor.queue.occupancy < monitor.queue.capacity
  /-- A queue for a single message is never in between. -/
  ne_between : monitor.queue.capacity = 1 → monitor.queue.load ≠ .between

/-- **Telemetry that is up to date foretells.** -/
theorem foretells_of_published (hqueue : monitor.queue = .created live)
    (hlive : live.contents.Consistent live.config) (hpublished : live.Published)
    (hdepth : 0 < live.config.depth) : monitor.Foretells := by
  have hwell : monitor.queue.WellFormed := .of_created hqueue hlive
  have hsum := hlive.len_add_freeCount
  have hoccupancy : monitor.queue.occupancy = live.contents.heap.len := by
    rw [hqueue]
    exact hpublished.occupancy
  have hclosed : monitor.queue.isClosed = live.contents.closed := by
    rw [hqueue]
    exact hpublished.closed
  have hcapacity : monitor.queue.capacity = live.config.depth := by rw [hqueue]; rfl
  have hempty : monitor.queue.load = .empty ↔ live.contents.messages = [] := by
    rw [Queue.load, Load.ofOccupancy_eq_empty_iff, hoccupancy, Contents.messages_eq_nil_iff]
  constructor
  · intro hopen now visit payload priority hwait hrequest hsize
    rw [hclosed] at hopen
    rw [hqueue] at hsize
    rw [endings_eq_refused_iff hwell hwait, Queue.load, Load.ofOccupancy_eq_full_iff, hoccupancy,
      hcapacity, hqueue, hrequest, objects_full_iff priority hsize hopen]
    omega
  · intro hopen now visit hwait hrequest
    rw [hclosed] at hopen
    rw [endings_eq_refused_iff hwell hwait, hempty, hqueue, objects_empty_iff hrequest hopen]
  · intro hshut now visit hwait hrequest
    rw [hclosed] at hshut
    rw [endings_eq_refused_iff hwell hwait, hempty, hqueue, objects_closed_iff hrequest hshut]
  · rw [Queue.load, Load.ofOccupancy_eq_between_iff]
  · intro hone
    rw [Queue.load, Ne, Load.ofOccupancy_eq_between_iff, hone]
    omega

/-! ### What can be said of every run -/

/-- Calls that fail, aborted ones included, leave all that can be read as it is. -/
theorem Step.telemetry_of_failed {ended : List (Visit × Outcome)} (hstep : Step monitor ended after)
    (hqueue : monitor.queue = .created live) (hlive : live.contents.Consistent live.config)
    (hfailed : ∀ ending ∈ ended, ∃ failure, ending.2.result = .error failure) :
    ∃ live', after.queue = .created live' ∧ live'.config = live.config ∧
      live'.telemetry = live.telemetry := by
  obtain ⟨-, hafter, -⟩ | ⟨visit, _, outcome, _, _, live', hturn, hended, hafter, -⟩ :=
    hstep.eq_or_turn hqueue hlive
  · exact ⟨live, hafter, rfl, rfl⟩
  · rw [hended] at hfailed
    obtain ⟨failure, hfailure⟩ := hfailed _ List.mem_cons_self
    exact ⟨live', hafter, hturn.config_eq.2, hturn.telemetry_of_failed hfailure⟩

/-- An aborted call has found the heap out of order. -/
theorem Run.fault_eq (hrun : Run start history monitor) (hqueue : start.queue = .created live)
    (hlive : live.contents.Consistent live.config) :
    ∀ call ∈ finished history, ∀ fault, call.outcome.result = .error (.faulted fault) →
      fault = .heapOrder := by
  have hreached := hrun.exists_live_of_turns
    (motive := fun history _ => ∀ call ∈ finished history, ∀ fault,
      call.outcome.result = .error (.faulted fault) → fault = .heapOrder)
    hqueue hlive (by simp [finished]) ?turns
  case turns =>
    intro history _ _ visit _ outcome _ _ _ hturn ih
    rw [finished_append, List.forall_mem_append]
    refine ⟨ih, fun call hcall fault hfault => ?_⟩
    rw [List.mem_singleton.mp hcall] at hfault
    exact hturn.fault_eq hfault
  obtain ⟨-, -, -, -, hcalls⟩ := hreached
  exact hcalls

/-- What is true of the telemetry of a queue after every run, whether a call has been aborted on the
way or not. -/
structure Steady (config : Config) (visited : List Monitor) (monitor : Monitor) : Prop where
  /-- The capacity is the one asked for. -/
  capacity_eq : monitor.queue.capacity = config.depth
  /-- The queue is shown to be closed exactly if it is. -/
  isClosed_eq : ∀ live, monitor.queue = .created live →
    monitor.queue.isClosed = live.contents.closed
  /-- The high-water mark is the largest number that has been shown on the way. -/
  isGreatest : IsGreatest (shown visited) monitor.queue.highWaterMark
  /-- There are no more messages than there have been at most. -/
  occupancy_le : monitor.queue.occupancy ≤ monitor.queue.highWaterMark
  /-- There have been no more messages than there is room for. -/
  highWaterMark_le : monitor.queue.highWaterMark ≤ monitor.queue.capacity
  /-- The high-water mark never sinks. -/
  highWaterMark_mono : ∀ later after, Run monitor later after →
    monitor.queue.highWaterMark ≤ after.queue.highWaterMark
  /-- By a step at which no call ends but those that are refused, the queue stays as it is. -/
  queue_of_refused : ∀ ended after, Step monitor ended after →
    (∀ ending ∈ ended, ∃ cause, ending.2.result = .error (.refused cause)) →
      after.queue = monitor.queue
  /-- By a step at which no call ends but those that fail in whatever way, all that can be read
  stays as it is. -/
  telemetry_of_failed : ∀ ended after, Step monitor ended after →
    (∀ ending ∈ ended, ∃ failure, ending.2.result = .error failure) →
      after.queue.occupancy = monitor.queue.occupancy ∧
      after.queue.highWaterMark = monitor.queue.highWaterMark ∧
      after.queue.isClosed = monitor.queue.isClosed ∧ after.queue.load = monitor.queue.load

/-- What is true besides, up to the first abort. -/
structure Exact (history : List (Visit × Outcome)) (monitor : Monitor) : Prop where
  /-- The number shown is that of the messages accepted and not handed out. -/
  occupancy_add : monitor.queue.occupancy + (received (finished history)).length =
    acceptedCount (finished history)
  /-- It is the length of the heap. -/
  occupancy_eq : ∀ live, monitor.queue = .created live →
    monitor.queue.occupancy = live.contents.heap.len
  /-- The load tells how the calls of those end who do not wait. -/
  foretells : monitor.Foretells

/-- A created queue is steady. -/
theorem Route.steady (hroute : Route start visited history monitor)
    (hqueue : start.queue = .created live) (hlive : live.contents.Consistent live.config)
    (hbounded : live.Bounded) (hstart : start.queue.highWaterMark = start.queue.occupancy) :
    monitor.Steady live.config visited := by
  obtain ⟨live', hqueue', hconfig, hlive', hbounded', -⟩ :=
    hroute.run.bounded hqueue hlive hbounded
  have hwell : monitor.queue.WellFormed := .of_created hqueue' hlive'
  have hmark : monitor.queue.highWaterMark = live'.telemetry.highWater := by rw [hqueue']; rfl
  constructor
  · rw [hqueue', ← hconfig]
    rfl
  · intro same hsame
    obtain rfl : live' = same := Queue.created.inj (hqueue'.symm.trans hsame)
    rw [hsame]
    exact hbounded'.closed
  · exact hroute.isGreatest hqueue hlive hbounded hstart
  · rw [hqueue']
    exact hbounded'.occupancy_le
  · rw [hqueue']
    exact hbounded'.highWater_le
  · intro later after hlater
    obtain ⟨live'', hqueue'', -, -, -, hle⟩ := hlater.bounded hqueue' hlive' hbounded'
    rw [hmark, hqueue'']
    exact hle
  · exact fun ended after hstep => hstep.queue_eq_of_refused hwell
  · intro ended after hstep hfailed
    obtain ⟨live'', hqueue'', hsame, htelemetry⟩ :=
      hstep.telemetry_of_failed hqueue' hlive' hfailed
    simp only [Queue.load, Queue.occupancy, Queue.highWaterMark, Queue.isClosed, Queue.capacity,
      hqueue', hqueue'', Queue.live?, Option.map_some, Option.getD_some, hsame, htelemetry,
      and_self]

/-- **The telemetry is exact.** Whatever the callers do, in whatever order: whenever nobody holds
the lock, the high-water mark is the largest number of messages shown so far, and whether the queue
is closed is shown correctly. Up to the first abort, the number of messages shown is the one under
the lock and agrees with the calls that have ended, and the load tells what a caller would find who
does not wait. No call is aborted before `2 ^ 63` messages have been accepted, and later ones only
for the order of the heap. -/
theorem telemetry_exact {config : Config} {host host' : Host} {queue : Queue}
    (hcreate : (Queue.uncreated.create config).runOn host = (.ok queue, host'))
    (hroute : Route { queue } visited history monitor) :
    monitor.Steady config visited ∧
    ((∀ call ∈ finished history, call.isFaulted = false) → monitor.Exact history) ∧
    (acceptedCount (finished history) < 2 ^ 63 →
      ∀ call ∈ finished history, call.isFaulted = false) ∧
    ∀ call ∈ finished history, ∀ fault, call.outcome.result = .error (.faulted fault) →
      fault = .heapOrder := by
  obtain ⟨hvalid, id, contents, hnew, rfl⟩ := Queue.of_create hcreate
  obtain ⟨hlive, hempty, -⟩ := Contents.Consistent.new hnew
  refine ⟨hroute.steady rfl hlive (.new hnew) rfl, fun hfault => ?_,
    hroute.run.not_faulted_of_create hcreate, hroute.run.fault_eq rfl hlive⟩
  obtain ⟨live, hqueue, hconfig, hlive', hpublished, hbalance⟩ :=
    hroute.run.balance rfl hlive (.new hnew) hempty hfault
  have hoccupancy : monitor.queue.occupancy = live.contents.occupancy := by
    rw [hqueue]
    exact hpublished.occupancy
  constructor
  · rw [hoccupancy]
    exact hbalance
  · intro same hsame
    obtain rfl : live = same := Queue.created.inj (hqueue.symm.trans hsame)
    exact hoccupancy
  · refine foretells_of_published hqueue hlive' hpublished ?_
    rw [hconfig]
    exact (Config.validate_eq_ok_iff.mp hvalid).1

/-- The sample shows the message of the sender, and room for another one, so another sender would
not be told that the queue is full. -/
theorem telemetry_exact_sampleSent : ∃ visited,
    Route { queue := .created .sample } visited sampleHistory sampleSent ∧
      sampleSent.Steady Live.sample.config visited ∧ sampleSent.Exact sampleHistory ∧
      sampleSent.queue.occupancy = 1 ∧
      sampleSent.endings 0 sampleSender ≠
        [(sampleSender, .refused sampleSender.request .full)] := by
  obtain ⟨visited, hroute⟩ := sample_run.exists_route
  obtain ⟨hsteady, hexact, hfault, -⟩ := telemetry_exact Queue.create_sample hroute
  have hexact := hexact (hfault (by decide +kernel))
  have hoccupancy : sampleSent.queue.occupancy = 1 := by decide +kernel
  refine ⟨visited, hroute, hsteady, hexact, hoccupancy, fun hfull => ?_⟩
  rw [← hexact.foretells.full_iff (by decide +kernel) 0 sampleSender _ _ rfl rfl
    (by decide +kernel), Queue.load, hoccupancy, hsteady.capacity_eq] at hfull
  exact absurd hfull (by decide)

end Monitor

end StableQueue
