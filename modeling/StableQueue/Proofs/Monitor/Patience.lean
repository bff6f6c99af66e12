import StableQueue.Proofs.Monitor.Receiving

/-!
# Patience

How patient a caller is makes a difference only while the queue is not ready for it, that is, while
a sender finds it full or a receiver finds it empty. `Queue.pursue` is the call of a caller who is
alone: it passes through the lock again and again, whenever it wakes, until its call is over. It may
wake before its deadline, any number of times and for no reason; about the clock nothing is needed
but that it shows the deadline, or something later, at one of the passes.

## Main results

* `Queue.perform_eq_pursue`: `Queue.perform` is the case in which the caller sleeps until its
  deadline.
* `Queue.WellFormed.pursue_of_objects`, `Queue.pursue_of_leave`: how such a call goes.
* `Queue.patience_matters_only_while_waiting`: every call compared with the one that does not wait.
-/

namespace StableQueue

/-- Nobody is woken from a call with this deadline: there is none. -/
def Patience.IsEndless (patience : Patience) (now : Nat) : Prop :=
  patience = .unlimited ∨ ∃ timeout, patience = .limited timeout ∧ Clock.lastInstant < now + timeout

/-- A call without a deadline the clock can show has none. -/
theorem Patience.IsEndless.deadline_eq {patience : Patience} {now : Nat}
    (h : patience.IsEndless now) : patience.deadline now = .never := by
  obtain rfl | ⟨timeout, rfl, hlast⟩ := h
  · rfl
  · rw [deadline, if_neg (Nat.not_le.mpr hlast)]

/-- The longest timeout is as good as none, at whatever time the call is made. -/
theorem Patience.isEndless_longestTimeout (now : Nat) :
    (limited Clock.longestTimeout).IsEndless now := by
  refine .inr ⟨_, rfl, ?_⟩
  have : Clock.lastInstant < Clock.longestTimeout := by decide
  omega

/-- The call was ended because the queue was full or empty. -/
def Outcome.IsTransient (outcome : Outcome) : Prop :=
  outcome.result = .error (.refused .full) ∨ outcome.result = .error (.refused .empty)

namespace Queue

variable {queue : Queue} {request : Request} {cause : Refusal}

/-- The call of a caller who is alone, after passes through the lock at these times: how it has
ended, with the records it has written, and the queue. There is no end as long as the caller is
parked. -/
def pursue (queue : Queue) (request : Request) (deadline : Deadline) :
    List Nat → Option (Outcome × List Log.Event) × Queue
  | [] => (none, queue)
  | time :: times =>
    match queue.attempt request (deadline.allows time) with
    | (.leave outcome _ log, queue) => (some (outcome, log), queue)
    | (.park _, queue) => queue.pursue request deadline times

/-- A call as it is performed: the caller makes one pass when it comes, and if it parks, another one
when its deadline comes. -/
theorem perform_eq_pursue (queue : Queue) (now : Nat) (request : Request) (patience : Patience) :
    queue.perform now request patience =
      let deadline := patience.deadline now
      let call := queue.pursue request deadline (now :: deadline.time?.toList)
      call.1.map fun ended => (ended.1, ended.2, call.2) := by
  simp only [perform, pursue]
  split
  · simp_all
  · rename_i parked hattempt
    cases hdeadline : patience.deadline now with
    | immediate => simp_all [Deadline.time?, pursue]
    | never => simp_all [Deadline.time?, pursue]
    | instant time =>
        have hpast : (Deadline.instant time).allows time = false := by simp [Deadline.allows]
        simp only [Deadline.time?, Option.toList_some, pursue, hpast]
        split <;> simp_all

/-- **A call that meets an objection**, pass by pass. If waiting may remove the objection, the call
is over with the first pass at which the caller may not wait; otherwise with the first one. -/
theorem WellFormed.pursue_of_objects (h : queue.WellFormed)
    (hobjects : queue.Objects request cause) (deadline : Deadline) (times : List Nat) :
    ((∃ time ∈ times, cause.isTransient = true → deadline.allows time = false) →
      queue.pursue request deadline times =
        (some (.refused request cause, queue.warnings cause), queue)) ∧
    ((∀ time ∈ times, cause.isTransient = true ∧ deadline.allows time = true) →
      queue.pursue request deadline times = (none, queue)) := by
  obtain ⟨hrefused, hparks⟩ := h.attempt_of_objects hobjects
  induction times with
  | nil => exact ⟨by simp, fun _ => rfl⟩
  | cons time times ih =>
      by_cases hwait : cause.isTransient = true → deadline.allows time = false
      · refine ⟨fun _ => by rw [pursue, hrefused _ hwait], fun hall => ?_⟩
        obtain ⟨htransient, hallows⟩ := hall time List.mem_cons_self
        simp [hwait htransient] at hallows
      · -- The caller parks, and the call goes on as if this pass had not been.
        obtain ⟨htransient, hallows⟩ := Classical.not_imp.mp hwait
        obtain ⟨condition, -, hpark⟩ := hparks htransient
        rw [pursue, Bool.eq_true_of_not_eq_false hallows, hpark]
        refine ⟨fun hsome => ih.1 ?_, fun hall => ih.2 fun other hother => ?_⟩
        · obtain ⟨other, hother, hover⟩ := hsome
          rcases List.mem_cons.mp hother with rfl | hother
          · exact absurd hover hwait
          · exact ⟨other, hother, hover⟩
        · exact hall other (List.mem_cons_of_mem _ hother)

/-- A call whose passes all leave is over with the first one. -/
theorem pursue_of_leave {outcome : Outcome} {owed : List Signal} {log : List Log.Event}
    {after : Queue}
    (hleave : ∀ mayWait, queue.attempt request mayWait = (.leave outcome owed log, after))
    (deadline : Deadline) {times : List Nat} (htimes : times ≠ []) :
    queue.pursue request deadline times = (some (outcome, log), after) := by
  obtain ⟨time, times, rfl⟩ := List.exists_cons_of_ne_nil htimes
  rw [pursue, hleave]

/-! ### Every call compared with the one that does not wait -/

/-- How the calls of a request compare with the one that does not wait, which ends with this outcome
and these records, and leaves this queue behind. -/
structure Unhurried (queue : Queue) (now : Nat) (request : Request) (outcome : Outcome)
    (log : List Log.Event) (after : Queue) : Prop where
  /-- A call with a deadline that the clock can show ends in the same way, whenever its caller wakes
  on the way. The deadline may be the time of the call. -/
  limited (timeout : Nat) : now + timeout ≤ Clock.lastInstant →
    queue.perform now request (.limited timeout) = some (outcome, log, after) ∧
      ∀ times : List Nat, (∃ time ∈ times, now + timeout ≤ time) →
        queue.pursue request ((Patience.limited timeout).deadline now) times =
          (some (outcome, log), after)
  /-- A call without such a deadline ends in the same way, with its first pass, unless the call that
  does not wait ends because the queue is full or empty. -/
  unlimited (patience : Patience) : patience.IsEndless now → ¬ outcome.IsTransient →
    queue.perform now request patience = some (outcome, log, after) ∧
      ∀ times, times ≠ [] →
        queue.pursue request (patience.deadline now) times = (some (outcome, log), after)
  /-- In that case its caller parks, as often as it wakes, and nothing changes. -/
  parks (patience : Patience) : patience.IsEndless now → outcome.IsTransient →
    queue.perform now request patience = none ∧
      (∃ condition, request.awaits = some condition ∧
        queue.attempt request true = (.park condition, queue)) ∧
      ∀ times, queue.pursue request (patience.deadline now) times = (none, queue)
  /-- On the way nothing has changed. -/
  midway (deadline : Deadline) (times : List Nat) :
    queue.pursue request deadline times = (some (outcome, log), after) ∨
      queue.pursue request deadline times = (none, queue)
  /-- Whoever else is at the queue: who takes the lock finds what it waits for if it is there, be
  the deadline past or not, and whether the caller has just come or has been woken. -/
  ready (monitor : Monitor) (visit : Visit) (time : Nat) : monitor.queue = queue →
    visit.request = request → ¬ outcome.IsTransient →
      monitor.endings time visit = [(visit, outcome)] ∧ (monitor.enter time visit).queue = after
  /-- Whoever else is at the queue: who is told that it is full or empty has just found it so with
  the lock taken, and its deadline is past. -/
  notReady (monitor : Monitor) (visit : Visit) (time : Nat) (cause : Refusal) :
    monitor.queue = queue → visit.request = request → cause.isTransient = true →
      ∀ ending ∈ monitor.endings time visit, ending.2.result = .error (.refused cause) →
        queue.Objects request cause ∧ visit.deadline.allows time = false ∧
          (monitor.enter time visit).queue = queue

/-- The transient refusals are those because the queue is full or empty. -/
theorem isTransient_refused_iff : (Outcome.refused request cause).IsTransient ↔
    cause.isTransient = true := by
  cases cause <;> simp [Outcome.IsTransient, Outcome.refused, Refusal.isTransient]

/-- Calls that meet an objection. -/
theorem WellFormed.unhurried_of_objects (h : queue.WellFormed)
    (hobjects : queue.Objects request cause) (now : Nat) :
    queue.Unhurried now request (.refused request cause) (queue.warnings cause) queue where
  limited timeout hlast := by
    have hdeadline : (Patience.limited timeout).deadline now = .instant (now + timeout) :=
      if_pos hlast
    refine ⟨(h.perform_of_objects hobjects now _).1 (by simp [hdeadline]), ?_⟩
    rintro times ⟨time, htime, hpast⟩
    refine (h.pursue_of_objects hobjects _ times).1 ⟨time, htime, fun _ => ?_⟩
    simpa [hdeadline, Deadline.allows] using hpast
  unlimited patience hendless hready := by
    rw [isTransient_refused_iff] at hready
    refine ⟨(h.perform_of_objects hobjects now _).1 (absurd · hready), fun times htimes => ?_⟩
    obtain ⟨time, htime⟩ := List.exists_mem_of_ne_nil times htimes
    exact (h.pursue_of_objects hobjects _ times).1 ⟨time, htime, (absurd · hready)⟩
  parks patience hendless htransient := by
    rw [isTransient_refused_iff] at htransient
    refine ⟨(h.perform_of_objects hobjects now _).2 htransient hendless.deadline_eq,
      (h.attempt_of_objects hobjects).2 htransient, fun times => ?_⟩
    refine (h.pursue_of_objects hobjects _ times).2 fun time _ => ⟨htransient, ?_⟩
    rw [hendless.deadline_eq, Deadline.allows]
  midway deadline times := by
    obtain ⟨hrefused, hparks⟩ := h.pursue_of_objects hobjects deadline times
    by_cases hover : ∃ time ∈ times, cause.isTransient = true → deadline.allows time = false
    · exact .inl (hrefused hover)
    · refine .inr (hparks fun time htime => ?_)
      simpa [htime] using not_exists.mp hover time
  ready monitor visit time hqueue hrequest hready := by
    rw [isTransient_refused_iff] at hready
    have hrefused := (h.attempt_of_objects hobjects).1 (visit.deadline.allows time)
      (absurd · hready)
    rw [Monitor.endings, Monitor.enter, hqueue, hrequest, hrefused]
    exact ⟨rfl, rfl⟩
  notReady monitor visit time other hqueue hrequest htransient ending hending hresult := by
    by_cases hwait : cause.isTransient = true → visit.deadline.allows time = false
    · have hrefused := (h.attempt_of_objects hobjects).1 (visit.deadline.allows time) hwait
      rw [Monitor.endings, hqueue, hrequest, hrefused, List.mem_singleton] at hending
      rw [hending, Outcome.refused, Except.error.injEq, Failure.refused.injEq] at hresult
      subst hresult
      refine ⟨hobjects, hwait htransient, ?_⟩
      rw [Monitor.enter, hqueue, hrequest, hrefused]
    · -- The caller parks, so no call ends.
      obtain ⟨hwaits, hallows⟩ := Classical.not_imp.mp hwait
      obtain ⟨condition, -, hpark⟩ := (h.attempt_of_objects hobjects).2 hwaits
      rw [Monitor.endings, hqueue, hrequest, Bool.eq_true_of_not_eq_false hallows, hpark] at hending
      contradiction

/-- Calls that meet no objection. -/
theorem unhurried_of_leave {outcome : Outcome} {owed : List Signal} {log : List Log.Event}
    {after : Queue}
    (hleave : ∀ mayWait, queue.attempt request mayWait = (.leave outcome owed log, after))
    (hresult : ∀ cause, outcome.result ≠ .error (.refused cause)) (now : Nat) :
    queue.Unhurried now request outcome log after := by
  have hperform (patience : Patience) :
      queue.perform now request patience = some (outcome, log, after) := by
    rw [perform, hleave]
  have hready : ¬ outcome.IsTransient := by simp [Outcome.IsTransient, hresult]
  refine ⟨fun timeout _ => ⟨hperform _, ?_⟩, fun patience _ _ => ⟨hperform _, ?_⟩,
    fun _ _ htransient => absurd htransient hready, fun deadline times => ?_, ?_, ?_⟩
  · rintro times ⟨time, htime, -⟩
    exact pursue_of_leave hleave _ (List.ne_nil_of_mem htime)
  · exact fun times htimes => pursue_of_leave hleave _ htimes
  · cases times with
    | nil => exact .inr rfl
    | cons time times => exact .inl (pursue_of_leave hleave _ (List.cons_ne_nil time times))
  · intro monitor visit time hqueue hrequest _
    rw [Monitor.endings, Monitor.enter, hqueue, hrequest, hleave]
    exact ⟨rfl, rfl⟩
  · intro monitor visit time cause hqueue hrequest _ ending hending hrefused
    rw [Monitor.endings, hqueue, hrequest, hleave, List.mem_singleton] at hending
    rw [hending] at hrefused
    exact absurd hrefused (hresult cause)

/-- **Patience matters only while the queue is not ready.** At every queue that can be reached, all
calls of a request compare with the one that does not wait. -/
theorem patience_matters_only_while_waiting {history : List Finished} {queue : Queue}
    (hqueue : queue.Reached history) (now : Nat) (request : Request) :
    ∃ outcome log after, queue.perform now request .impatient = some (outcome, log, after) ∧
      queue.Unhurried now request outcome log after := by
  by_cases hobjects : ∃ cause, queue.Objects request cause
  · obtain ⟨cause, hobjects⟩ := hobjects
    refine ⟨_, _, _, (hqueue.wellFormed.perform_of_objects hobjects now .impatient).1 ?_,
      hqueue.wellFormed.unhurried_of_objects hobjects now⟩
    simp [Patience.deadline]
  · obtain ⟨outcome, owed, log, after, hleave, hresult, -⟩ :=
      hqueue.wellFormed.attempt_of_not_objects (not_exists.mp hobjects)
    refine ⟨outcome, log, after, ?_, unhurried_of_leave hleave hresult now⟩
    rw [perform, hleave]

/-- At the sample, while it is empty, who asks for the longest timeout never returns. The others are
told what the impatient one is told. -/
theorem patience_matters_only_while_waiting_sample :
    (created .sample).Reached [] ∧
      (created .sample).Unhurried 5 .receive (.refused .receive .empty) [] (created .sample) ∧
      (created .sample).perform 5 .receive (.limited Clock.longestTimeout) = none := by
  have hreached : (created .sample).Reached [] := .created create_sample .refl
  obtain ⟨outcome, log, after, hperform, hunhurried⟩ :=
    patience_matters_only_while_waiting hreached 5 .receive
  have hempty : (created .sample).perform 5 .receive .impatient =
      some (.refused .receive .empty, [], created .sample) := rfl
  rw [hempty, Option.some.injEq, Prod.mk.injEq, Prod.mk.injEq] at hperform
  obtain ⟨rfl, rfl, rfl⟩ := hperform
  have hendless := Patience.isEndless_longestTimeout 5
  exact ⟨hreached, hunhurried, (hunhurried.parks _ hendless (.inr rfl)).1⟩

end Queue

end StableQueue
