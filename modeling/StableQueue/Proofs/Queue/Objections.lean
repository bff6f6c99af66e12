import StableQueue.Proofs.Queue.Refinement

/-!
# Why a Queue Refuses a Request

`Queue.Objects` lists the reasons for which a queue cannot carry out a request as it is, with all
that must hold for each of them; which reason goes before which is part of that. An objection that
waiting may remove is put forward only to a caller who waits no longer. Who may still wait parks
instead. Either way the queue stays as it is.

What is said here of a pass holds whoever else is at the queue, and what is said of a call is about
a caller who is alone.

## Main results

* `Queue.WellFormed.attempt_of_objects`, `Queue.WellFormed.attempt_of_not_objects`: a pass through
  the lock.
* `Queue.Objects.unique`: a queue has at most one objection to a request.
* `Queue.WellFormed.perform_of_objects`, `Queue.WellFormed.perform_of_not_objects`: a whole call.
* `Queue.WellFormed.attempt_cases`, `Queue.WellFormed.perform_cases`: the ways in which either can
  go.
-/

namespace StableQueue

namespace Queue

/-- The queue cannot carry out a request as it is, and this is why. -/
inductive Objects : Queue → Request → Refusal → Prop
  /-- A queue that has not been created can do nothing. -/
  | uncreated {request : Request} : Objects .uncreated request .uninitialized
  /-- The payload is larger than any message, be the queue open or closed, full or not. -/
  | oversized {live : Live} {payload : ByteArray} {priority : Int}
      (hsize : live.config.messageSize < payload.size) :
      Objects (.created live) (.send payload priority)
        (.oversized payload.size live.config.messageSize)
  /-- The payload fits, and the queue is closed. -/
  | sendClosed {live : Live} {payload : ByteArray} {priority : Int}
      (hsize : payload.size ≤ live.config.messageSize) (hclosed : live.contents.closed = true) :
      Objects (.created live) (.send payload priority) .closed
  /-- The payload fits, the queue is open, and no slot is free. -/
  | full {live : Live} {payload : ByteArray} {priority : Int}
      (hsize : payload.size ≤ live.config.messageSize) (hopen : live.contents.closed = false)
      (hfull : live.contents.pool.freeCount = 0) :
      Objects (.created live) (.send payload priority) .full
  /-- The buffer cannot hold the next message, be the queue open or closed. -/
  | tooSmall {live : Live} {buffer : ByteArray} {root : Entry}
      (hroot : live.contents.heap.peekMax = some root)
      (hroom : buffer.size < (live.contents.message root).payload.size) :
      Objects (.created live) (.receiveInto buffer)
        (.bufferTooSmall (live.contents.message root).payload.size buffer.size)
  /-- No message is queued, and the queue is closed. -/
  | drained {live : Live} {request : Request} (hrequest : request.awaits = some .notEmpty)
      (hempty : live.contents.messages = []) (hclosed : live.contents.closed = true) :
      Objects (.created live) request .closed
  /-- No message is queued, and the queue is open. -/
  | empty {live : Live} {request : Request} (hrequest : request.awaits = some .notEmpty)
      (hempty : live.contents.messages = []) (hopen : live.contents.closed = false) :
      Objects (.created live) request .empty

/-- The contents of the queue are consistent, if it has been created. -/
def WellFormed (queue : Queue) : Prop :=
  ∀ live, queue = created live → live.contents.Consistent live.config

/-- The records that a refused call writes: a payload that can never be sent is worth a warning. -/
def warnings (queue : Queue) : Refusal → List Log.Event
  | .oversized len max => queue.name?.toList.map fun name => .oversized name len max
  | _ => []

end Queue

/-- The wake-ups that a refused call owes. Only who leaves a message behind owes one. -/
def Refusal.owed : Refusal → List Signal
  | .bufferTooSmall .. => [.one .notEmpty]
  | _ => []

/-! ### Passes of a created queue -/

namespace Live

variable {live live' : Live} {request : Request} {mayWait : Bool} {outcome : Outcome}
  {owed : List Signal} {log : List Log.Event}

/-- Whether a sender may wait does not matter if it need not. -/
theorem send_eq (h : live.contents.closed = true ∨ live.contents.hasSpace = true)
    (payload : ByteArray) (priority : Int) (mayWait : Bool) :
    live.send payload priority mayWait = live.send payload priority false := by
  rw [send, send]
  rcases h with hclosed | hspace
  · simp only [hclosed, ↓reduceIte]
  · simp only [hspace, ↓reduceIte]

/-- Whether a receiver may wait does not matter if it need not. -/
theorem receive_eq (h : live.contents.closed = true ∨ live.contents.heap.isEmpty = false)
    (request : Request) (take : Action Exchange Reply) (mayWait : Bool) :
    live.receive request take mayWait = live.receive request take false := by
  rw [receive, receive]
  rcases h with hclosed | hsome
  · simp only [hclosed, ↓reduceIte]
  · simp only [hsome, Bool.not_false, ↓reduceIte]

/-- A pass of a receiver who finds nothing. -/
theorem attempt_of_empty (hrequest : request.awaits = some .notEmpty)
    (hempty : live.contents.messages = []) (mayWait : Bool) :
    live.attempt request mayWait =
      (if live.contents.closed then .refuse request .closed []
        else if mayWait then .park .notEmpty else .refuse request .empty [], live) := by
  have hnone : live.contents.heap.isEmpty = true := by
    simpa [Heap.isEmpty] using Contents.messages_eq_nil_iff.mp hempty
  have hreceive (take : Action Exchange Reply) : live.receive request take mayWait =
      (if live.contents.closed then .refuse request .closed []
        else if mayWait then .park .notEmpty else .refuse request .empty [], live) := by
    rw [receive, hnone]
    simp only [Bool.not_true, Bool.false_eq_true, ↓reduceIte]
    split_ifs <;> rfl
  obtain rfl | ⟨buffer, rfl⟩ := Request.awaits_eq_notEmpty_iff.mp hrequest
  · rw [attempt]
    exact hreceive _
  · rw [attempt]
    exact hreceive _

/-- A pass that is not refused has found no objection. -/
theorem Turn.objects (h : live.Turn mayWait request (.leave outcome owed log) live')
    (hnone : ∀ cause, ¬ (Queue.created live).Objects request cause) (cause : Refusal) :
    outcome.result ≠ .error (.refused cause) := by
  cases h with
  | oversized hsize => exact absurd (.oversized hsize) (hnone _)
  | sendClosed hsize hclosed => exact absurd (.sendClosed hsize hclosed) (hnone _)
  | sendFull hsize hopen hfull _ => exact absurd (.full hsize hopen hfull) (hnone _)
  | received _ _ _ _ => cases request <;> simp [Request.delivery]
  | tooSmall hroot hroom => exact absurd (.tooSmall hroot hroom) (hnone _)
  | drained hrequest hempty hclosed =>
      exact absurd (.drained hrequest (Contents.messages_eq_nil_iff.mpr hempty) hclosed) (hnone _)
  | receiveEmpty hrequest hempty hopen _ =>
      exact absurd (.empty hrequest (Contents.messages_eq_nil_iff.mpr hempty) hopen) (hnone _)
  | _ => simp

/-- Who finds no objection need not wait. -/
theorem attempt_eq (hnone : ∀ cause, ¬ (Queue.created live).Objects request cause)
    (mayWait : Bool) : live.attempt request mayWait = live.attempt request false := by
  have hreceive (hrequest : request.awaits = some .notEmpty) (take : Action Exchange Reply) :
      live.receive request take mayWait = live.receive request take false := by
    refine receive_eq ?_ request take mayWait
    by_contra! hnot
    have hempty : live.contents.messages = [] := by
      rw [Contents.messages_eq_nil_iff]
      simpa [Heap.isEmpty] using hnot.2
    exact hnone _ (.empty hrequest hempty (by simpa using hnot.1))
  cases request with
  | send payload priority =>
      rw [attempt, attempt]
      split
      · rfl
      · rename_i hsize
        refine send_eq ?_ payload priority mayWait
        by_contra! hnot
        refine hnone _ (.full (Nat.not_lt.mp hsize) (by simpa using hnot.1) ?_)
        simpa [Contents.hasSpace] using hnot.2
  | receive =>
      rw [attempt, attempt]
      exact hreceive rfl _
  | receiveInto buffer =>
      rw [attempt, attempt]
      exact hreceive rfl _
  | close => rfl

end Live

namespace Queue

variable {queue : Queue} {request : Request} {cause : Refusal}

/-! ### Passes -/

/-- A created queue is well-formed if its contents are consistent. -/
theorem WellFormed.of_created {live : Live} (hqueue : queue = created live)
    (hlive : live.contents.Consistent live.config) : queue.WellFormed := by
  rintro same rfl
  obtain rfl := created.inj hqueue
  exact hlive

/-- **A pass that meets an objection.** If waiting may remove the objection and the caller may wait,
it parks; otherwise it is refused. The queue stays as it is. -/
theorem WellFormed.attempt_of_objects (h : queue.WellFormed)
    (hobjects : queue.Objects request cause) :
    (∀ mayWait, (cause.isTransient = true → mayWait = false) → queue.attempt request mayWait =
      (.leave (.refused request cause) cause.owed (queue.warnings cause), queue)) ∧
    (cause.isTransient = true → ∃ condition, request.awaits = some condition ∧
      queue.attempt request true = (.park condition, queue)) := by
  cases hobjects with
  | uncreated => exact ⟨fun _ _ => rfl, by simp [Refusal.isTransient]⟩
  | oversized hsize =>
      refine ⟨fun mayWait _ => ?_, by simp [Refusal.isTransient]⟩
      rw [attempt, Live.attempt, if_pos hsize]
      rfl
  | sendClosed hsize hclosed =>
      refine ⟨fun mayWait _ => ?_, by simp [Refusal.isTransient]⟩
      rw [attempt, Live.attempt, if_neg (Nat.not_lt.mpr hsize), Live.send, if_pos hclosed]
      rfl
  | @full live payload priority hsize hopen hfull =>
      have hspace : live.contents.hasSpace = false := by simp [Contents.hasSpace, hfull]
      have hsend (mayWait : Bool) : live.attempt (.send payload priority) mayWait =
          (if mayWait then .park .notFull else .refuse (.send payload priority) .full [],
            live) := by
        rw [Live.attempt, if_neg (Nat.not_lt.mpr hsize), Live.send]
        simp only [hopen, hspace, Bool.false_eq_true, ↓reduceIte]
        split_ifs <;> rfl
      refine ⟨fun mayWait hwait => ?_, fun _ => ⟨.notFull, rfl, ?_⟩⟩
      · rw [attempt, hsend, hwait rfl]
        rfl
      · rw [attempt, hsend]
        rfl
  | @tooSmall live buffer root hroot hroom =>
      have hsome : live.contents.heap.isEmpty = false := by
        simpa [Heap.isEmpty, Nat.pos_iff_ne_zero] using (Heap.peekMax_eq_some_iff.mp hroot).1
      refine ⟨fun mayWait _ => ?_, by simp [Refusal.isTransient]⟩
      rw [attempt, Live.attempt, Live.receive]
      simp only [hsome, Request.buffer, Exchange.runOn_takeInto_of_lt (h live rfl) hroot hroom]
      rfl
  | drained hrequest hempty hclosed =>
      refine ⟨fun mayWait _ => ?_, by simp [Refusal.isTransient]⟩
      rw [attempt, Live.attempt_of_empty hrequest hempty, if_pos hclosed]
      rfl
  | empty hrequest hempty hopen =>
      refine ⟨fun mayWait hwait => ?_, fun _ => ⟨.notEmpty, hrequest, ?_⟩⟩
      · rw [attempt, Live.attempt_of_empty hrequest hempty, hopen, hwait rfl]
        rfl
      · rw [attempt, Live.attempt_of_empty hrequest hempty, hopen]
        rfl

/-- **A queue has at most one objection to a request.** -/
theorem Objects.unique (h : queue.WellFormed) {other : Refusal}
    (hobjects : queue.Objects request cause) (hother : queue.Objects request other) :
    other = cause := by
  have hrefused := (h.attempt_of_objects hobjects).1 false fun _ => rfl
  rw [(h.attempt_of_objects hother).1 false fun _ => rfl] at hrefused
  simp only [Outcome.refused, Prod.mk.injEq, Pass.leave.injEq, Outcome.mk.injEq,
    Except.error.injEq, Failure.refused.injEq] at hrefused
  exact hrefused.1.1.1

/-- **A pass that meets no objection** ends the call, and does not refuse it. It makes no difference
whether the caller may wait. -/
theorem WellFormed.attempt_of_not_objects (h : queue.WellFormed)
    (hnone : ∀ cause, ¬ queue.Objects request cause) :
    ∃ outcome owed log after,
      (∀ mayWait, queue.attempt request mayWait = (.leave outcome owed log, after)) ∧
      (∀ cause, outcome.result ≠ .error (.refused cause)) ∧ after.WellFormed := by
  cases queue with
  | uncreated => exact absurd .uncreated (hnone .uninitialized)
  | created live =>
      obtain ⟨outcome, owed, log, live', hleave⟩ :=
        exists_leave_of_impatient (h live rfl) request
      have hturn := Live.attempt_turn (h live rfl) request false
      rw [hleave] at hturn
      refine ⟨outcome, owed, log, created live', fun mayWait => ?_, hturn.objects hnone,
        .of_created rfl (hturn.consistent (h live rfl))⟩
      rw [attempt, Live.attempt_eq hnone, hleave]

/-- **The ways in which a pass can go.** -/
theorem WellFormed.attempt_cases (h : queue.WellFormed) {mayWait : Bool} {pass : Pass}
    {after : Queue} (hattempt : queue.attempt request mayWait = (pass, after)) :
    (∃ cause, queue.Objects request cause ∧ (cause.isTransient = true → mayWait = false) ∧
      pass = .leave (.refused request cause) cause.owed (queue.warnings cause) ∧ after = queue) ∨
    (∃ cause condition, queue.Objects request cause ∧ cause.isTransient = true ∧ mayWait = true ∧
      pass = .park condition ∧ after = queue) ∨
    ((∀ cause, ¬ queue.Objects request cause) ∧ ∃ outcome owed log,
      pass = .leave outcome owed log ∧ ∀ cause, outcome.result ≠ .error (.refused cause)) := by
  by_cases hobjects : ∃ cause, queue.Objects request cause
  · obtain ⟨cause, hobjects⟩ := hobjects
    obtain ⟨hrefused, hparks⟩ := h.attempt_of_objects hobjects
    by_cases hwait : cause.isTransient = true → mayWait = false
    · obtain ⟨rfl, rfl⟩ := Prod.mk.inj (hattempt.symm.trans (hrefused mayWait hwait))
      exact .inl ⟨cause, hobjects, hwait, rfl, rfl⟩
    · obtain ⟨htransient, hmay⟩ := Classical.not_imp.mp hwait
      obtain rfl := Bool.eq_true_of_not_eq_false hmay
      obtain ⟨condition, -, hpark⟩ := hparks htransient
      obtain ⟨rfl, rfl⟩ := Prod.mk.inj (hattempt.symm.trans hpark)
      exact .inr (.inl ⟨cause, condition, hobjects, htransient, rfl, rfl, rfl⟩)
  · have hnone := not_exists.mp hobjects
    obtain ⟨outcome, owed, log, _, hleave, hresult, -⟩ := h.attempt_of_not_objects hnone
    obtain ⟨rfl, rfl⟩ := Prod.mk.inj (hattempt.symm.trans (hleave mayWait))
    exact .inr (.inr ⟨hnone, outcome, owed, log, rfl, hresult⟩)

/-! ### Calls of a caller who is alone -/

/-- **A call that meets an objection.** If waiting may remove the objection and the caller waits for
ever, it never returns; otherwise it is refused. The queue stays as it is. -/
theorem WellFormed.perform_of_objects (h : queue.WellFormed)
    (hobjects : queue.Objects request cause) (now : Nat) (patience : Patience) :
    ((cause.isTransient = true → patience.deadline now ≠ .never) →
      queue.perform now request patience =
        some (.refused request cause, queue.warnings cause, queue)) ∧
    (cause.isTransient = true → patience.deadline now = .never →
      queue.perform now request patience = none) := by
  obtain ⟨hrefused, hparks⟩ := h.attempt_of_objects hobjects
  by_cases hwait : cause.isTransient = true → (patience.deadline now).allows now = false
  · refine ⟨fun _ => by rw [perform, hrefused _ hwait], fun htransient hnever => ?_⟩
    simp [hnever, Deadline.allows, htransient] at hwait
  · obtain ⟨htransient, hallows⟩ := Classical.not_imp.mp hwait
    obtain ⟨condition, -, hpark⟩ := hparks htransient
    rw [perform, Bool.eq_true_of_not_eq_false hallows, hpark]
    cases hdeadline : patience.deadline now with
    | immediate => simp [hdeadline, Deadline.allows] at hallows
    | never => simp [htransient]
    | instant time => simp [hrefused false fun _ => rfl]

/-- **A call that meets no objection** returns and is not refused, however patient its caller is. -/
theorem WellFormed.perform_of_not_objects (h : queue.WellFormed)
    (hnone : ∀ cause, ¬ queue.Objects request cause) :
    ∃ outcome log after,
      (∀ now patience, queue.perform now request patience = some (outcome, log, after)) ∧
      (∀ cause, outcome.result ≠ .error (.refused cause)) ∧ after.WellFormed := by
  obtain ⟨outcome, owed, log, after, hleave, hresult, hafter⟩ := h.attempt_of_not_objects hnone
  refine ⟨outcome, log, after, fun now patience => ?_, hresult, hafter⟩
  rw [perform, hleave]

/-- **The ways in which a call can end.** -/
theorem WellFormed.perform_cases (h : queue.WellFormed) {now : Nat} {patience : Patience}
    {outcome : Outcome} {log : List Log.Event} {after : Queue}
    (hperform : queue.perform now request patience = some (outcome, log, after)) :
    (∃ cause, queue.Objects request cause ∧
      (cause.isTransient = true → patience.deadline now ≠ .never) ∧
      outcome = .refused request cause ∧ log = queue.warnings cause ∧ after = queue) ∨
    ((∀ cause, ¬ queue.Objects request cause) ∧
      (∀ cause, outcome.result ≠ .error (.refused cause)) ∧ after.WellFormed) := by
  by_cases hobjects : ∃ cause, queue.Objects request cause
  · obtain ⟨cause, hobjects⟩ := hobjects
    obtain ⟨hrefused, hendless⟩ := h.perform_of_objects hobjects now patience
    have hreturns : cause.isTransient = true → patience.deadline now ≠ .never := by
      intro htransient hnever
      rw [hendless htransient hnever] at hperform
      contradiction
    rw [hrefused hreturns, Option.some.injEq, Prod.mk.injEq, Prod.mk.injEq] at hperform
    obtain ⟨rfl, rfl, rfl⟩ := hperform
    exact .inl ⟨cause, hobjects, hreturns, rfl, rfl, rfl⟩
  · have hnone := not_exists.mp hobjects
    obtain ⟨_, _, _, hreturns, hresult, hafter⟩ := h.perform_of_not_objects hnone
    rw [hreturns, Option.some.injEq, Prod.mk.injEq, Prod.mk.injEq] at hperform
    obtain ⟨rfl, rfl, rfl⟩ := hperform
    exact .inr ⟨hnone, hresult, hafter⟩

end Queue

end StableQueue
