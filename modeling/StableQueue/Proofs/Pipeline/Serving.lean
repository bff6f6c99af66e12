import StableQueue.Proofs.Monitor.Linearization
import StableQueue.Proofs.Pipeline.Orderly
import StableQueue.Proofs.Queue.Draining
import StableQueue.Proofs.Queue.Telemetry

/-!
# How a Pipeline Is Served by Its Queue

The threads of a pipeline wait without deadline, and the queue is closed only when all messages have
been sent. So a sender never finds the queue closed and never gives up, and a receiver is refused
only by a queue that is closed and empty, and stays so. `Pipeline.Served` is that invariant.

## Main results

* `Live.Turn.answered`: how a call of a pipeline ends.
* `Pipeline.Served.step`: a step keeps the threads served.
* `Pipeline.Run.served`: the invariants of every schedule.
-/

namespace StableQueue

namespace Live

variable {live live' : Live} {mayWait : Bool} {request : Request} {outcome : Outcome}
  {owed : List Signal} {log : List Log.Event}

/-- **How a call of a pipeline ends**, if it waits and does not find the queue closed when it
sends. -/
theorem Turn.answered (h : live.Turn mayWait request (.leave outcome owed log) live')
    (hfault : (Finished.mk request outcome).isFaulted = false)
    (hbuffer : ∀ buffer, request ≠ .receiveInto buffer)
    (hwait : request ≠ .close → mayWait = true)
    (hopen : request.awaits = some .notFull → live.contents.closed = false) :
    Pipeline.Answered live.config ⟨request, outcome⟩ := by
  have hreceive (hrequest : request.awaits = some .notEmpty) : request = .receive := by
    obtain h | ⟨buffer, h⟩ := Request.awaits_eq_notEmpty_iff.mp hrequest
    · exact h
    · exact absurd h (hbuffer buffer)
  cases h with
  | oversized hsize => exact .oversized hsize
  | sendClosed _ hclosed => simp [hopen rfl] at hclosed
  | sendFull _ _ _ hnot => simp [hwait (by simp)] at hnot
  | sent hsize _ _ _ => exact .accepted hsize
  | sendAborted _ _ _ _ => simp [Finished.isFaulted] at hfault
  | received hrequest _ _ _ =>
      rw [hreceive hrequest]
      exact .delivered
  | receiveAborted _ _ _ _ => simp [Finished.isFaulted] at hfault
  | tooSmall _ _ => exact absurd rfl (hbuffer _)
  | drained hrequest _ _ =>
      rw [hreceive hrequest]
      exact .drained
  | receiveEmpty hrequest _ _ hnot =>
      rw [hreceive hrequest] at hwait
      simp [hwait (by simp)] at hnot
  | closes _ => exact .closed
  | closedBefore _ => exact .closed

/-- A receiver who is told that the queue is closed has found it closed and empty, and leaves it
so. -/
theorem Turn.of_drained (h : live.Turn mayWait .receive (.leave outcome owed log) live')
    (hclosed : outcome.result = .error (.refused .closed)) :
    live'.contents.closed = true ∧ live'.contents.heap.len = 0 := by
  cases h with
  | received _ _ _ _ => simp [Request.delivery] at hclosed
  | drained _ hempty hclosed' => exact ⟨hclosed', hempty⟩
  | _ => simp at hclosed

end Live

namespace Pipeline

/-- The threads of a pipeline are served by its queue. -/
structure Served (history : List (Visit × Outcome)) (state : State) (live : Live) : Prop where
  /-- The queue has been created. -/
  queue : state.monitor.queue = .created live
  /-- Heap and slot pool agree. -/
  consistent : live.contents.Consistent live.config
  /-- The telemetry is up to date. -/
  published : live.Published
  /-- Nobody else closes the queue. -/
  isOpen : state.closed = false → live.contents.closed = false
  /-- Who closes the queue has done so, or is about to. -/
  closing : state.closed = true → live.contents.closed = true ∨
    ∃ visit ∈ state.monitor.calls, visit.request = .close
  /-- All calls end the way they should. -/
  answered : ∀ call ∈ Monitor.finished history, Answered live.config call
  /-- Once a receiver has been told so, the queue is closed and empty. -/
  drained : ⟨.receive, .refused .receive .closed⟩ ∈ Monitor.finished history →
    live.contents.closed = true ∧ live.contents.heap.len = 0

variable {first : List Worker} {history ended : List (Visit × Outcome)} {state after : State}
  {live live' : Live} {monitor : Monitor}

/-- What a thread asks for is a send or a receive without a buffer. -/
theorem Worker.next?_cases {worker : Worker} {request : Request}
    (h : worker.next? = some request) :
    (worker.isSending = true ∧ request.awaits = some .notFull) ∨ request = .receive := by
  cases worker with
  | sender pending results =>
      cases pending with
      | nil => simp [next?] at h
      | cons message pending =>
          obtain rfl : .send message.1 message.2 = request := by simpa [next?] using h
          exact .inl ⟨rfl, rfl⟩
  | receiver taken final =>
      cases final with
      | none => exact .inr (by simpa [next?] using h.symm)
      | some error => simp [next?] at h

/-- No thread closes the queue. -/
theorem Orderly.closed_of_close {idle : List Nat} (h : Orderly first idle history state)
    {visit : Visit} (hvisit : visit ∈ state.monitor.calls) (hclose : visit.request = .close) :
    state.closed = true := by
  rcases h.calls visit hvisit with ⟨hasks, -⟩ | ⟨-, -, hclosed⟩
  · obtain ⟨worker, -, hnext⟩ := State.exists_worker_of_asks hasks
    rcases Worker.next?_cases hnext with ⟨-, hawaits⟩ | hreceive
    · simp [hclose, Request.awaits] at hawaits
    · simp [hclose] at hreceive
  · exact hclosed

/-- **How the call of a thread ends.** -/
theorem Served.answered_of_turn (h : Served history state live)
    (horderly : Orderly first [] history state) {visit : Visit} {now : Nat} {outcome : Outcome}
    {owed : List Signal} {log : List Log.Event} (hvisit : visit.fresh ∈ state.monitor.calls)
    (hturn : live.Turn (visit.deadline.allows now) visit.request (.leave outcome owed log) live')
    (hfault : (Finished.mk visit.request outcome).isFaulted = false) :
    Answered live.config ⟨visit.request, outcome⟩ := by
  rcases horderly.calls visit.fresh hvisit with ⟨hasks, hnever⟩ | ⟨-, hclose, -⟩
  · have hnever' : visit.deadline = .never := hnever
    obtain ⟨worker, hworker, hnext⟩ := State.exists_worker_of_asks hasks
    have hnext' : worker.next? = some visit.request := hnext
    refine hturn.answered hfault ?_ (fun _ => by rw [hnever']; rfl) ?_
    · intro buffer hbuffer
      rcases Worker.next?_cases hnext' with ⟨-, hawaits⟩ | hreceive
      · simp [hbuffer, Request.awaits] at hawaits
      · simp [hbuffer] at hreceive
    · intro hawaits
      refine h.isOpen ?_
      rcases Worker.next?_cases hnext' with ⟨hsending, -⟩ | hreceive
      · -- The queue is not closed while a thread still has messages to send.
        by_contra hclosed
        have hsent := horderly.sent (Bool.eq_true_of_not_eq_false hclosed) worker
          (List.mem_of_getElem? hworker)
        simp [hsending] at hsent
      · simp [hreceive, Request.awaits] at hawaits
  · have hclose' : visit.request = .close := hclose
    refine hturn.answered hfault ?_ ?_ ?_
    · simp [hclose']
    · simp [hclose']
    · simp [hclose', Request.awaits]

/-- What does not concern the queue and ends no call keeps the threads served. -/
theorem Served.keep (h : Served history state live)
    (hqueue : after.monitor.queue = state.monitor.queue) (hclosed : after.closed = state.closed)
    (hcalls : state.monitor.calls ⊆ after.monitor.calls) : Served history after live := by
  refine ⟨hqueue.trans h.queue, h.consistent, h.published, ?_, ?_, h.answered, h.drained⟩
  · rw [hclosed]
    exact h.isOpen
  · rw [hclosed]
    intro hclosed'
    refine (h.closing hclosed').imp_right ?_
    rintro ⟨visit, hvisit, hclose⟩
    exact ⟨visit, hcalls hvisit, hclose⟩

/-- The end of a call keeps the threads served. -/
theorem Served.ends (h : Served history state live) (horderly : Orderly first [] history state)
    {visit : Visit} {now : Nat} {outcome : Outcome} {owed : List Signal} {log : List Log.Event}
    (hturn : live.Turn (visit.deadline.allows now) visit.request (.leave outcome owed log) live')
    (hfault : (Finished.mk visit.request outcome).isFaulted = false)
    (hqueue : monitor.queue = .created live')
    (hcalls : state.monitor.calls.Perm (visit.fresh :: monitor.calls)) :
    Served (history ++ [(visit, outcome)]) { state with monitor } live' := by
  have hvisit : visit.fresh ∈ state.monitor.calls := hcalls.mem_iff.mpr List.mem_cons_self
  have hanswered := h.answered_of_turn horderly hvisit hturn hfault
  obtain ⟨-, hconfig⟩ := hturn.config_eq
  refine ⟨hqueue, hturn.consistent h.consistent, hturn.published h.consistent h.published hfault,
    ?_, ?_, ?_, ?_⟩
  · intro hopen
    by_contra hclosed
    obtain ⟨hclose, -⟩ := hturn.announces (h.isOpen hopen) (Bool.eq_true_of_not_eq_false hclosed)
    exact Bool.false_ne_true (hopen.symm.trans (horderly.closed_of_close hvisit hclose))
  · intro hclosed
    rcases h.closing hclosed with hlive | ⟨closer, hcloser, hclose⟩
    · exact .inl (hturn.conclusive hlive).1
    · rcases List.mem_cons.mp (hcalls.mem_iff.mp hcloser) with rfl | hother
      · have hclose' : visit.request = .close := hclose
        rw [hclose'] at hturn
        exact .inl hturn.of_close.2
      · exact .inr ⟨closer, hother, hclose⟩
  · intro call hcall
    rw [Monitor.finished_append] at hcall
    rw [hconfig]
    rcases List.mem_append.mp hcall with hold | hnew
    · exact h.answered call hold
    · rw [List.mem_singleton.mp hnew]
      exact hanswered
  · intro hmem
    rw [Monitor.finished_append] at hmem
    rcases List.mem_append.mp hmem with hold | hnew
    · obtain ⟨hclosed, hempty⟩ := h.drained hold
      have hle := hturn.len_le_of_closed hclosed
      exact ⟨(hturn.conclusive hclosed).1, by omega⟩
    · obtain ⟨hrequest, houtcome⟩ := Finished.mk.inj (List.mem_singleton.mp hnew)
      rw [← hrequest] at hturn
      exact hturn.of_drained (congrArg Outcome.result houtcome).symm

/-- **A step keeps the threads served**, as long as numbers are left for the messages. -/
theorem Served.step (h : Served history state live) (horderly : Orderly first [] history state)
    (hstep : Step state ended after) (hsound : live.contents.Sound live.config)
    (hnext : live.contents.nextSequence.toNat < 2 ^ 63) :
    ∃ live', live'.config = live.config ∧ Served (history ++ ended) after live' := by
  obtain ⟨rfl, monitor, rfl, hqueue, -, hcalls⟩ |
    ⟨visit, now, outcome, owed, log, live', monitor, hturn, rfl, rfl, hqueue, -, hcalls⟩ |
    ⟨rfl, call, returned, -, rfl⟩ | ⟨rfl, -, -, rfl⟩ := hstep.cases h.queue h.consistent
  · rw [List.append_nil]
    exact ⟨live, rfl, h.keep (hqueue.trans h.queue.symm) rfl hcalls.symm.subset⟩
  · have hfault := hturn.not_faulted hsound hnext
    exact ⟨live', hturn.config_eq.2, h.ends horderly hturn hfault hqueue hcalls⟩
  · rw [List.append_nil]
    have hcalls := (state.withReturned returned).calls_subset_goOn call
    exact ⟨live, rfl, h.keep (State.queue_goOn _ _) (State.closed_goOn _ _) hcalls⟩
  · rw [List.append_nil]
    refine ⟨live, rfl, h.queue, h.consistent, h.published, by simp [State.close], fun _ => .inr ?_,
      h.answered, h.drained⟩
    exact ⟨_, (Monitor.calls_arrive rfl).mem_iff.mpr List.mem_cons_self, rfl⟩

/-! ### Every schedule -/

variable {receivers : Nat} {messages : List (List Message)}

/-- The messages that a thread has still to send. -/
def Worker.pending : Worker → List Message
  | .sender pending _ => pending
  | .receiver .. => []

/-- The threads have to send the messages of the pipeline. -/
theorem flatMap_pending_threads (receivers : Nat) (messages : List (List Message)) :
    (threads receivers messages).flatMap Worker.pending = messages.flatten := by
  have hreceivers : (List.replicate receivers (Worker.receiver [] none)).flatMap
      Worker.pending = [] := by
    simp [List.flatMap_eq_nil_iff, Worker.pending]
  rw [threads, List.flatMap_append, hreceivers, List.nil_append, List.flatMap_map]
  exact List.flatMap_id

/-- A thread that knows what it has heard has heard how all its calls have ended, even if it has not
taken note of the last one. -/
theorem Informed.exists_converses {start worker : Worker} {calls : List Finished}
    {returned : List (Nat × Outcome)} {token : Nat}
    (h : Informed start calls returned token worker) :
    ∃ later, start.Converses calls later := by
  cases h with
  | heard hcalls _ => exact ⟨worker, hcalls⟩
  | unheard hlast hearlier hnext _ => exact ⟨_, hlast ▸ hearlier.step hnext⟩

/-- Only threads get messages accepted. -/
theorem Orderly.accepted?_eq_none {idle : List Nat} (h : Orderly first idle history state) :
    ∀ ending ∈ history, first.length ≤ ending.1.token →
      accepted? ⟨ending.1.request, ending.2⟩ = none := by
  intro ending hending hlength
  rw [h.known ending hending hlength]
  rfl

/-- **No more messages are accepted than there are.** -/
theorem Orderly.acceptedCount_le {config : Config} {idle : List Nat}
    (h : Orderly (threads receivers messages) idle history state)
    (hanswered : ∀ call ∈ Monitor.finished history, Answered config call) :
    acceptedCount (Monitor.finished history) ≤ messages.flatten.length := by
  rw [← length_filterMap_accepted?, ← (flatMap_callsOf_perm h.accepted?_eq_none).length_eq,
    ← flatMap_pending_threads receivers messages]
  refine flatMap_range_rel (R := fun a b => a.length ≤ b.length) (Nat.le_refl _) ?_ ?_
  · intro a b c d hab hcd
    rw [List.length_append, List.length_append]
    exact Nat.add_le_add hab hcd
  intro token start hstart
  obtain ⟨worker, hworker⟩ : ∃ worker, state.workers[token]? = some worker := by
    have hlt := (List.getElem?_eq_some_iff.mp hstart).1
    rw [← h.length_eq] at hlt
    exact ⟨_, List.getElem?_eq_getElem hlt⟩
  obtain ⟨same, hsame, hinformed⟩ := h.informed token worker hworker
  obtain rfl : start = same := Option.some.inj (hstart.symm.trans hsame)
  obtain ⟨later, hconverses⟩ := hinformed.exists_converses
  have hanswered' : ∀ call ∈ callsOf token history, Answered config call :=
    fun call hcall => hanswered call (callsOf_subset token history hcall)
  have hstart' := List.mem_of_getElem? hstart
  rw [threads, List.mem_append, List.mem_map] at hstart'
  rcases hstart' with hreceiver | ⟨pending, -, rfl⟩
  · obtain rfl := List.eq_of_mem_replicate hreceiver
    obtain ⟨taken, final, -, -, hnone, -⟩ := hconverses.receiver hanswered'
    rw [hnone]
    exact Nat.zero_le _
  · obtain ⟨settled, rest, rfl, -, haccepted, -⟩ := hconverses.sender hanswered'
    rw [haccepted, Worker.pending, List.length_append]
    exact (List.length_filter_le _ _).trans (Nat.le_add_right _ _)

/-- Threads that make their first calls do not touch the queue. -/
theorem start_eq (queue : Queue) (receivers : Nat) (messages : List (List Message)) :
    (start queue receivers messages).monitor.queue = queue ∧
      (start queue receivers messages).closed = false := by
  have hresume (state : State) (tokens : List Nat) :
      (tokens.foldl State.resume state).monitor.queue = state.monitor.queue ∧
        (tokens.foldl State.resume state).closed = state.closed := by
    induction tokens generalizing state with
    | nil => exact ⟨rfl, rfl⟩
    | cons token tokens ih =>
        obtain ⟨hqueue, hclosed⟩ := ih (state.resume token)
        exact ⟨hqueue.trans (state.queue_resume token), hclosed.trans (state.closed_resume token)⟩
  exact hresume _ _

/-- What is in the queue of a pipeline is what the ledger says. -/
theorem Run.represents {config : Config} {host host' : Host} {queue : Queue}
    (hbuild : (Queue.build config).runOn host = (.ok queue, host'))
    (hrun : Run (start queue receivers messages) history state)
    (haccepted : acceptedCount (Monitor.finished history) < 2 ^ 63)
    (hqueue : state.monitor.queue = .created live) :
    Monitor.finished history = (Ledger.run config {} (Monitor.requests history)).1 ∧
      live.Represents (Ledger.run config {} (Monitor.requests history)).2 := by
  obtain ⟨returned, hmonitor⟩ := hrun.exists_monitorRun
  exact hmonitor.represents_of_queue hbuild haccepted hqueue

/-- **The invariants of every schedule.** Whatever the threads do, in whatever order: they are in
order, and their queue serves them. -/
theorem Run.served {config : Config} {host host' : Host} {queue : Queue}
    (hbuild : (Queue.build config).runOn host = (.ok queue, host'))
    (htotal : messages.flatten.length < 2 ^ 63)
    (hrun : Run (start queue receivers messages) history state) :
    Orderly (threads receivers messages) [] history state ∧
      ∃ live, live.config = config ∧ Served history state live := by
  induction hrun with
  | refl =>
      refine ⟨.start queue receivers messages, ?_⟩
      obtain ⟨-, id, contents, hnew, rfl⟩ := Queue.of_create hbuild
      obtain ⟨hconsistent, -, -, hopen⟩ := Contents.Consistent.new hnew
      obtain ⟨hqueue, hnotyet⟩ := start_eq (.created { id, config, contents, telemetry := {} })
        receivers messages
      exact ⟨_, rfl, hqueue, hconsistent, .new hnew, fun _ => hopen, by simp [hnotyet],
        by simp [Monitor.finished], by simp [Monitor.finished]⟩
  | @step history ended state after hrun hstep ih =>
      obtain ⟨horderly, live, hconfig, hserved⟩ := ih
      have haccepted := horderly.acceptedCount_le hserved.answered
      obtain ⟨hfinished, hrepresents⟩ := hrun.represents hbuild (by omega) hserved.queue
      have hnext : live.contents.nextSequence.toNat < 2 ^ 63 := by
        rw [hrepresents.nextSequence, Ledger.arrivals_run, ← hfinished, Nat.zero_add]
        omega
      obtain ⟨live', hconfig', hserved'⟩ :=
        hserved.step horderly hstep hrepresents.sound hnext
      exact ⟨horderly.step hstep hserved.queue hserved.consistent, live',
        hconfig'.trans hconfig, hserved'⟩

end Pipeline

end StableQueue
