import StableQueue.Proofs.Pipeline.Progress

/-!
# What Every Schedule Comes To

When all threads of a pipeline have ended, what they know does not depend on the schedule, apart
from who has received what. Every sender has been told of each message whether it fits, every
receiver that the queue is closed; the messages that fit have been received, each of them once and
under a number of its own; and nothing is left in the queue. A single receiver has got the messages
of each sender and priority in the order in which they were sent.

## Main results

* `Pipeline.Orderly.workers_of_ended`: what the threads know in the end.
* `Pipeline.schedule_delivers`: every schedule goes on to its end, and what it comes to.
-/

namespace StableQueue.Pipeline

variable {history : List (Visit × Outcome)} {state : State} {live : Live} {token : Nat}
  {receivers : Nat} {messages : List (List Message)}

/-- The messages that the thread at a position has received. -/
def State.taken (state : State) (token : Nat) : List (Header × ByteArray) :=
  match state.workers[token]? with
  | some (.receiver taken _) => taken
  | _ => []

/-- The positions of the receivers. -/
theorem threads_getElem?_receiver (htoken : token < receivers) :
    (threads receivers messages)[token]? = some (.receiver [] none) := by
  rw [threads, List.getElem?_append_left (by simpa using htoken),
    List.getElem?_replicate_of_lt htoken]

/-- The positions of the senders. -/
theorem threads_getElem?_sender (i : Nat) :
    (threads receivers messages)[receivers + i]? = messages[i]?.map (.sender · []) := by
  rw [threads, List.getElem?_append_right (by simp), List.length_replicate, Nat.add_sub_cancel_left,
    List.getElem?_map]

/-- There are as many threads as there are receivers and senders. -/
theorem length_threads (receivers : Nat) (messages : List (List Message)) :
    (threads receivers messages).length = receivers + messages.length := by
  rw [threads, List.length_append, List.length_replicate, List.length_map]

namespace Orderly

/-- A thread that has ended has taken note of all its calls. -/
theorem converses_of_ended (h : Orderly (threads receivers messages) [] history state)
    (hended : ∀ worker ∈ state.workers, worker.next? = none) {start : Worker}
    (hstart : (threads receivers messages)[token]? = some start) :
    ∃ worker, state.workers[token]? = some worker ∧ worker.next? = none ∧
      start.Converses (callsOf token history) worker := by
  have hlt := (List.getElem?_eq_some_iff.mp hstart).1
  rw [← h.length_eq] at hlt
  have hworker := List.getElem?_eq_getElem hlt
  obtain ⟨same, hsame, hinformed⟩ := h.informed token _ hworker
  obtain rfl : start = same := Option.some.inj (hstart.symm.trans hsame)
  have hnone := hended _ (List.mem_of_getElem? hworker)
  cases hinformed with
  | heard hcalls _ => exact ⟨_, hworker, hnone, hcalls⟩
  | unheard _ _ hnext _ => simp [hnone] at hnext

/-- What a receiver knows in the end. -/
theorem receiver_of_ended {config : Config}
    (h : Orderly (threads receivers messages) [] history state)
    (hanswered : ∀ call ∈ Monitor.finished history, Answered config call)
    (hended : ∀ worker ∈ state.workers, worker.next? = none) (htoken : token < receivers) :
    state.workers[token]? = some (.receiver (state.taken token) (some farewell)) ∧
      received (callsOf token history) = (state.taken token).map delivered ∧
      (callsOf token history).filterMap accepted? = [] ∧
      ⟨.receive, .refused .receive .closed⟩ ∈ Monitor.finished history := by
  obtain ⟨worker, hworker, hnone, hcalls⟩ :=
    h.converses_of_ended hended (threads_getElem?_receiver htoken)
  obtain ⟨taken, final, rfl, hreceived, haccepted, rfl | ⟨rfl, hdrained⟩⟩ := hcalls.receiver
    fun call hcall => hanswered call (callsOf_subset token history hcall)
  · simp [Worker.next?] at hnone
  · have htaken : state.taken token = taken := by rw [State.taken, hworker]
    rw [htaken]
    exact ⟨hworker, hreceived, haccepted, callsOf_subset token history hdrained⟩

/-- What a sender knows in the end. -/
theorem sender_of_ended {config : Config}
    (h : Orderly (threads receivers messages) [] history state)
    (hanswered : ∀ call ∈ Monitor.finished history, Answered config call)
    (hended : ∀ worker ∈ state.workers, worker.next? = none) {i : Nat} {pending : List Message}
    (hpending : messages[i]? = some pending) :
    state.workers[receivers + i]? =
        some (.sender [] (pending.map (Message.verdict config))) ∧
      received (callsOf (receivers + i) history) = [] ∧
      (callsOf (receivers + i) history).filterMap accepted? =
        pending.filter (Message.fits config) := by
  have hstart : (threads receivers messages)[receivers + i]? = some (.sender pending []) := by
    rw [threads_getElem?_sender, hpending, Option.map_some]
  obtain ⟨worker, hworker, hnone, hcalls⟩ := h.converses_of_ended hended hstart
  obtain ⟨settled, rest, rfl, rfl, haccepted, hreceived⟩ := hcalls.sender
    fun call hcall => hanswered call (callsOf_subset _ history hcall)
  cases rest with
  | cons message rest => simp [Worker.next?] at hnone
  | nil =>
      rw [List.append_nil]
      exact ⟨hworker, hreceived, haccepted⟩

/-- **What the threads know in the end.** -/
theorem workers_of_ended {config : Config}
    (h : Orderly (threads receivers messages) [] history state)
    (hanswered : ∀ call ∈ Monitor.finished history, Answered config call)
    (hended : ∀ worker ∈ state.workers, worker.next? = none) :
    state.workers =
      (List.range receivers).map (fun token => .receiver (state.taken token) (some farewell)) ++
        messages.map fun pending => .sender [] (pending.map (Message.verdict config)) := by
  apply List.ext_getElem?
  intro token
  by_cases htoken : token < receivers
  · rw [(h.receiver_of_ended hanswered hended htoken).1,
      List.getElem?_append_left (by simpa using htoken), List.getElem?_map,
      List.getElem?_range htoken, Option.map_some]
  · obtain ⟨i, rfl⟩ := Nat.exists_eq_add_of_le (Nat.not_lt.mp htoken)
    rw [List.getElem?_append_right (by simp), List.length_map, List.length_range,
      Nat.add_sub_cancel_left, List.getElem?_map]
    cases hpending : messages[i]? with
    | some pending => exact (h.sender_of_ended hanswered hended hpending).1
    | none =>
        rw [List.getElem?_eq_none_iff] at hpending
        rw [Option.map_none, List.getElem?_eq_none_iff, h.length_eq, length_threads]
        omega

/-- Nobody but the receivers receives anything. -/
theorem delivered?_eq_none {config : Config}
    (h : Orderly (threads receivers messages) [] history state)
    (hanswered : ∀ call ∈ Monitor.finished history, Answered config call)
    (hended : ∀ worker ∈ state.workers, worker.next? = none) {ending : Visit × Outcome}
    (hending : ending ∈ history) (htoken : receivers ≤ ending.1.token) :
    (Finished.mk ending.1.request ending.2).delivered? = none := by
  obtain ⟨visit, outcome⟩ := ending
  obtain ⟨i, hi⟩ := Nat.exists_eq_add_of_le htoken
  cases hpending : messages[i]? with
  | some pending =>
      obtain ⟨-, hnone, -⟩ := h.sender_of_ended hanswered hended hpending
      rw [received, List.filterMap_eq_nil_iff] at hnone
      refine hnone _ (List.mem_map_of_mem (List.mem_filter.mpr ⟨hending, ?_⟩))
      exact decide_eq_true hi
  | none =>
      rw [List.getElem?_eq_none_iff] at hpending
      have hclose : visit.request = .close :=
        h.known _ hending (by rw [length_threads, hi]; omega)
      have hanswer := hanswered ⟨visit.request, outcome⟩ (List.mem_map_of_mem hending)
      simp only [hclose] at hanswer ⊢
      cases hanswer
      rfl

/-- **The receivers have received what has been handed out.** -/
theorem taken_perm {config : Config} (h : Orderly (threads receivers messages) [] history state)
    (hanswered : ∀ call ∈ Monitor.finished history, Answered config call)
    (hended : ∀ worker ∈ state.workers, worker.next? = none) :
    (((List.range receivers).flatMap state.taken).map delivered).Perm
      (received (Monitor.finished history)) := by
  have hothers : ∀ ending ∈ history, receivers ≤ ending.1.token →
      Finished.delivered? ⟨ending.1.request, ending.2⟩ = none :=
    fun ending hending htoken => h.delivered?_eq_none hanswered hended hending htoken
  have hperm := flatMap_callsOf_perm hothers
  refine List.Perm.trans (.of_eq ?_) hperm
  rw [List.map_flatMap]
  refine List.flatMap_congr fun token htoken => ?_
  exact (h.receiver_of_ended hanswered hended (List.mem_range.mp htoken)).2.1.symm

/-- **The messages that fit have been accepted.** -/
theorem accepted_perm {config : Config}
    (h : Orderly (threads receivers messages) [] history state)
    (hanswered : ∀ call ∈ Monitor.finished history, Answered config call)
    (hended : ∀ worker ∈ state.workers, worker.next? = none) :
    ((Monitor.finished history).filterMap accepted?).Perm
      (messages.flatten.filter (Message.fits config)) := by
  refine (flatMap_callsOf_perm h.accepted?_eq_none).symm.trans (.of_eq ?_)
  rw [← flatMap_pending_threads receivers messages, List.filter_flatMap]
  refine flatMap_range_rel (R := Eq) rfl (fun hab hcd => by rw [hab, hcd]) ?_
  intro token start hstart
  by_cases htoken : token < receivers
  · rw [threads_getElem?_receiver htoken] at hstart
    obtain rfl := Option.some.inj hstart
    rw [(h.receiver_of_ended hanswered hended htoken).2.2.1]
    rfl
  · obtain ⟨i, rfl⟩ := Nat.exists_eq_add_of_le (Nat.not_lt.mp htoken)
    rw [threads_getElem?_sender, Option.map_eq_some_iff] at hstart
    obtain ⟨pending, hpending, rfl⟩ := hstart
    exact (h.sender_of_ended hanswered hended hpending).2.2

end Orderly

/-! ### Reports -/

/-- A report as every schedule comes to it, if the receivers have got the messages `taken`. -/
theorem report_eq {config : Config} {taken : Nat → List (Header × ByteArray)}
    (hworkers : state.workers =
      (List.range receivers).map (fun token => .receiver (taken token) (some farewell)) ++
        messages.map fun pending => .sender [] (pending.map (Message.verdict config))) :
    state.report.sends = messages.map (·.map (Message.verdict config)) ∧
      state.report.finals = List.replicate receivers (some farewell) ∧
      state.report.received = ((((List.range receivers).flatMap taken).map delivered).map
        body).mergeSort listedLe ∧
      state.report.sequences = ((((List.range receivers).flatMap taken).map delivered).map
        fun message => UInt64.ofNat message.number).mergeSort (· ≤ ·) := by
  refine ⟨?_, ?_, ?_, ?_⟩
  · simp only [State.report, hworkers]
    simp [List.filterMap_map]
  · simp only [State.report, hworkers]
    simp [List.filterMap_map]
  · simp only [State.report, hworkers]
    simp [List.filterMap_map, Function.comp_def, List.flatMap_def, body, delivered]
  · simp only [State.report, hworkers]
    simp [List.filterMap_map, Function.comp_def, List.flatMap_def, delivered]

/-- Numbers without gaps, in whatever order they have come, are sorted into their order. -/
theorem mergeSort_numbers {numbers : List Nat} {n : Nat} (hn : n ≤ 2 ^ 64)
    (hnumbers : numbers.Perm (List.range n)) :
    (numbers.map UInt64.ofNat).mergeSort (· ≤ ·) = (List.range n).map UInt64.ofNat := by
  have hsorted : ((numbers.map UInt64.ofNat).mergeSort (· ≤ ·)).Pairwise (· ≤ ·) := by
    refine (List.pairwise_mergeSort ?_ ?_ _).imp fun hle => of_decide_eq_true hle
    · intro a b c
      simpa using UInt64.le_trans
    · intro a b
      simpa using UInt64.le_total a b
  have hrange : ((List.range n).map UInt64.ofNat).Pairwise (· ≤ ·) := by
    rw [List.pairwise_map]
    refine List.pairwise_lt_range.imp_of_mem ?_
    intro a b ha hb hlt
    rw [List.mem_range] at ha hb
    rw [UInt64.le_iff_toNat_le, UInt64.toNat_ofNat_of_lt' (Nat.lt_of_lt_of_le ha hn),
      UInt64.toNat_ofNat_of_lt' (Nat.lt_of_lt_of_le hb hn)]
    exact Nat.le_of_lt hlt
  exact List.Perm.eq_of_pairwise (fun _ _ _ _ hab hba => UInt64.le_antisymm hab hba) hsorted hrange
    ((List.mergeSort_perm _ _).trans (hnumbers.map _))

section Schedules

variable {config : Config} {host host' : Host} {queue : Queue}

/-- **What the queue comes to.** When all threads have ended nothing is left in it, and it has
handed out what has been sent, within each priority in the same order. -/
theorem Run.drained (hbuild : (Queue.build config).runOn host = (.ok queue, host'))
    (hreceivers : 0 < receivers) (htotal : messages.flatten.length < 2 ^ 63)
    (hrun : Run (start queue receivers messages) history state)
    (hended : ∀ worker ∈ state.workers, worker.next? = none) :
    ∃ live, live.config = config ∧ Served history state live ∧ live.contents.heap.len = 0 ∧
      (sent 0 (Monitor.finished history)).Perm (received (Monitor.finished history)) ∧
      ∀ priority, (received (Monitor.finished history)).filter (·.priority = priority) =
        (sent 0 (Monitor.finished history)).filter (·.priority = priority) := by
  obtain ⟨horderly, live, rfl, hserved⟩ := hrun.served hbuild htotal
  have hempty : live.contents.heap.len = 0 :=
    (hserved.drained (horderly.receiver_of_ended hserved.answered hended hreceivers).2.2.2).2
  have haccepted := horderly.acceptedCount_le hserved.answered
  obtain ⟨hfinished, hrepresents⟩ := hrun.represents hbuild (by omega) hserved.queue
  have harrivals := Ledger.arrivals_run live.config {} (Monitor.requests history)
  rw [← hfinished, Nat.zero_add] at harrivals
  have hnone : (Ledger.run live.config {} (Monitor.requests history)).2.messages = [] := by
    have hmessages := hrepresents.messages
    rw [Contents.messages_eq_nil_iff.mpr hempty] at hmessages
    exact hmessages.symm.eq_nil
  have hconserved := Ledger.run_conserves .new live.config (Monitor.requests history) (by omega)
  have hfifo := Ledger.filter_priority_run live.config (Monitor.requests history) (by omega)
  simp only [← hfinished, hnone, List.append_nil, List.nil_append] at hconserved hfifo
  exact ⟨live, rfl, hserved, hempty, hconserved, hfifo⟩

/-- A receiver who has got all messages has got those of each sender in order, within each
priority. -/
theorem filter_taken {taken : List (Header × ByteArray)} {pending : List Message} {priority : Int}
    (htaken : (taken.map delivered).filter (·.priority = priority) =
      (sent 0 (Monitor.finished history)).filter (·.priority = priority))
    (hsender : (callsOf token history).filterMap accepted? =
      pending.filter (Message.fits config)) :
    (taken.filter fun message => message.1.priority = priority &&
        senderOf history message.1.sequence.toNat = some token).map
          (fun message => (message.2, message.1.priority)) =
      pending.filter fun message => Message.fits config message && message.2 = priority := by
  have hof : (taken.filter fun message => message.1.priority = priority &&
      senderOf history message.1.sequence.toNat = some token).map delivered =
        ((taken.map delivered).filter (·.priority = priority)).filter fun message =>
          senderOf history message.number = some token := by
    rw [List.filter_filter, List.filter_map]
    congr 2
    funext message
    exact Bool.and_comm _ _
  have hbody : ((sent 0 (Monitor.finished history)).filter (·.priority = priority)).filter
      (fun message => senderOf history message.number = some token) =
        ((sent 0 (Monitor.finished history)).filter fun message =>
          senderOf history message.number = some token).filter (·.priority = priority) := by
    rw [List.filter_filter, List.filter_filter]
    congr 1
    funext message
    exact Bool.and_comm _ _
  calc
    _ = (((sent 0 (Monitor.finished history)).filter (·.priority = priority)).filter fun message =>
          senderOf history message.number = some token).map body := by
        rw [← htaken, ← hof, List.map_map]
        rfl
    _ = (((sent 0 (Monitor.finished history)).filter fun message =>
          senderOf history message.number = some token).map body).filter (·.2 = priority) := by
        rw [hbody, List.filter_map]
        rfl
    _ = (pending.filter (Message.fits config)).filter (·.2 = priority) := by
        rw [filter_senderOf_sent, hsender]
    _ = _ := by
        rw [List.filter_filter]
        congr 1
        funext message
        exact Bool.and_comm _ _

/-- **Every schedule delivers.** A queue is built, at least one receiver receives until that fails,
and any number of senders send their messages one after the other; when they are done the queue is
closed. Whatever the order in which the threads get their turns, and whoever wakes by himself:

* Until all threads have ended, some step forward is possible.
* When they have, every sender has been told of each message whether it fits, and every receiver
  has ended because the queue is closed.
* The messages that fit have been received, as often as they were sent, and under the numbers from
  zero on, each of them once. Nothing is left, and there have never been too many messages.
* If there is one receiver, it has got the messages of each sender and each priority in the order in
  which they were sent. -/
theorem schedule_delivers (hbuild : (Queue.build config).runOn host = (.ok queue, host'))
    (hreceivers : 0 < receivers) (htotal : messages.flatten.length < 2 ^ 63)
    (hrun : Run (start queue receivers messages) history state) :
    ((∃ worker ∈ state.workers, worker.next?.isSome = true) →
      ∃ ended after, Advance state ended after) ∧
    ((∀ worker ∈ state.workers, worker.next? = none) →
      let accepted := messages.flatten.filter (Message.fits config)
      state.report.sends = messages.map (·.map (Message.verdict config)) ∧
      state.report.finals = List.replicate receivers (some farewell) ∧
      state.report.received.Perm accepted ∧
      state.report.sequences = (List.range accepted.length).map UInt64.ofNat ∧
      state.report.occupancy = 0 ∧ state.report.highWaterInBounds = true ∧
      (receivers = 1 → ∀ (i : Nat) (pending : List Message), messages[i]? = some pending →
        ∀ priority : Int,
          ((state.taken 0).filter fun message => message.1.priority = priority &&
            senderOf history message.1.sequence.toNat = some (1 + i)).map
              (fun message => (message.2, message.1.priority)) =
            pending.filter fun message =>
              Message.fits config message && message.2 = priority)) := by
  refine ⟨hrun.exists_advance hbuild hreceivers htotal, ?_⟩
  intro hended accepted
  obtain ⟨live, rfl, hserved, hempty, hconserved, hfifo⟩ :=
    hrun.drained hbuild hreceivers htotal hended
  obtain ⟨horderly, -⟩ := hrun.served hbuild htotal
  have haccepted := horderly.accepted_perm hserved.answered hended
  have htaken := (horderly.taken_perm hserved.answered hended).trans hconserved.symm
  obtain ⟨hsends, hfinals, hreceived, hsequences⟩ :=
    report_eq (horderly.workers_of_ended hserved.answered hended)
  have hqueue := hserved.queue
  refine ⟨hsends, hfinals, ?_, ?_, ?_, ?_, ?_⟩
  · rw [hreceived]
    refine (List.mergeSort_perm _ _).trans ((htaken.map body).trans ?_)
    rw [map_body_sent]
    exact haccepted
  · have hlength : accepted.length = acceptedCount (Monitor.finished history) := by
      rw [← length_filterMap_accepted?, haccepted.length_eq]
    have hnumbers : (((List.range receivers).flatMap state.taken).map delivered).map
        StableQueue.Message.number |>.Perm (List.range accepted.length) := by
      have hperm := htaken.map StableQueue.Message.number
      rwa [map_number_sent, ← List.range_eq_range', ← hlength] at hperm
    have hbound := horderly.acceptedCount_le hserved.answered
    have hsorted := mergeSort_numbers (by omega) hnumbers
    rw [List.map_map] at hsorted
    rw [hsequences]
    exact hsorted
  · change state.monitor.queue.occupancy = 0
    rw [hqueue]
    exact hserved.published.occupancy.trans hempty
  · change decide (state.monitor.queue.highWaterMark ≤ state.monitor.queue.capacity) = true
    rw [hqueue]
    exact decide_eq_true hserved.published.highWater_le
  · rintro rfl i pending hpending priority
    obtain ⟨-, hzero, -⟩ := horderly.receiver_of_ended hserved.answered hended Nat.zero_lt_one
    have hothers : ∀ ending ∈ history, ending.1.token ≠ 0 →
        Finished.delivered? ⟨ending.1.request, ending.2⟩ = none :=
      fun ending hending htoken => horderly.delivered?_eq_none hserved.answered hended hending
        (Nat.one_le_iff_ne_zero.mpr htoken)
    have hall := filterMap_callsOf hothers
    refine filter_taken ?_ (horderly.sender_of_ended hserved.answered hended hpending).2.2
    rw [← hzero, received, hall]
    exact hfifo priority

end Schedules

/-- Two messages of one sender, and one that is too large of another. -/
def sampleMessages : List (List Message) :=
  [[(⟨#[7]⟩, 3), (⟨#[8]⟩, 5)], [(⟨#[1, 2, 3]⟩, 0)]]

/-- What one schedule makes of the sample. -/
def sampleEnded : State := (start (.created .sample) 1 sampleMessages).advance 40

/-- At the sample both messages that fit are received. -/
theorem schedule_delivers_sampleEnded :
    sampleEnded.report.received.Perm [(⟨#[7]⟩, 3), (⟨#[8]⟩, 5)] ∧
      sampleEnded.report.sequences = [0, 1] ∧ sampleEnded.report.occupancy = 0 := by
  have htotal : sampleMessages.flatten.length < 2 ^ 63 := by decide
  obtain ⟨history, hrun⟩ := run_advance (start (.created .sample) 1 sampleMessages) 40
  obtain ⟨-, hended⟩ := schedule_delivers Queue.create_sample Nat.zero_lt_one htotal hrun
  have hall : ∀ worker ∈ sampleEnded.workers, worker.next? = none := by decide +kernel
  obtain ⟨-, -, hreceived, hsequences, hempty, -⟩ := hended hall
  exact ⟨hreceived, hsequences, hempty⟩

end StableQueue.Pipeline
