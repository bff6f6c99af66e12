import StableQueue.Queue.Basic

/-!
# Callers at a Queue

A `Monitor` is a queue together with the callers who are at it: those about to take its lock, those
parked on a condition, and the wake-ups that are still owed. It makes progress one turn at a time.
A turn either delivers a wake-up, which moves parked callers back to those about to take the lock,
or lets a caller pass through the lock, which ends in parking or in leaving.

`settle` takes turns until nothing can happen any more without a new caller or the passing of time.
Wake-ups go first, callers take the lock in the order in which they came, and a wake-up for one
goes to the caller who has been parked longest.
-/

namespace StableQueue

/-- A call that is under way. -/
structure Visit where
  /-- Tells the callers apart. -/
  token : Nat
  /-- What is asked of the queue. -/
  request : Request
  /-- Up to when the caller may park. -/
  deadline : Deadline
  /-- The condition on which the caller was parked until it was woken; none if it has just come. -/
  wokenFrom : Option Condition := none

/-- A queue and the callers at it. -/
structure Monitor where
  /-- The queue. -/
  queue : Queue
  /-- The callers about to take the lock. -/
  active : List Visit := []
  /-- The callers parked on a condition, the one who came first in front. -/
  parked : List (Visit × Condition) := []
  /-- The wake-ups still to be delivered. -/
  owed : List Signal := []
  /-- The calls that are over and have not been collected. -/
  returned : List (Nat × Outcome) := []
  /-- The records written so far. -/
  log : List Log.Event := []

namespace Monitor

/-- A new caller comes to the queue. -/
def arrive (monitor : Monitor) (visit : Visit) : Monitor :=
  { monitor with active := monitor.active ++ [visit] }

/-- Split off the first parked caller that satisfies a test. -/
def takeFirst (test : Visit × Condition → Bool) :
    List (Visit × Condition) → Option ((Visit × Condition) × List (Visit × Condition))
  | [] => none
  | caller :: others =>
    if test caller then some (caller, others)
    else (takeFirst test others).map fun found => (found.1, caller :: found.2)

/-- Splitting off a caller leaves one caller less. -/
theorem length_takeFirst {test : Visit × Condition → Bool} {parked : List (Visit × Condition)}
    {found : (Visit × Condition) × List (Visit × Condition)}
    (h : takeFirst test parked = some found) :
    found.2.length + 1 = parked.length := by
  induction parked generalizing found with
  | nil => simp [takeFirst] at h
  | cons caller others ih =>
    rw [takeFirst] at h
    split at h
    · cases h
      rfl
    · obtain ⟨found', h', rfl⟩ := Option.map_eq_some_iff.mp h
      simp [ih h']

/-- A parked caller as it is once it has been woken. -/
def wake (caller : Visit × Condition) : Visit := { caller.1 with wokenFrom := some caller.2 }

/-- Wake the first parked caller that satisfies a test. -/
def wakeFirst (monitor : Monitor) (test : Visit × Condition → Bool) : Monitor :=
  match takeFirst test monitor.parked with
  | none => monitor
  | some (caller, parked) => { monitor with active := monitor.active ++ [wake caller], parked }

/-- Deliver a wake-up. -/
def deliver (monitor : Monitor) : Signal → Monitor
  | .one condition => monitor.wakeFirst (·.2 = condition)
  | .all condition =>
    let woken := monitor.parked.filter (·.2 = condition)
    { monitor with
      active := monitor.active ++ woken.map wake
      parked := monitor.parked.filter fun caller => !(caller.2 = condition) }

/-- Let a caller pass through the lock at time `now`. -/
def enter (monitor : Monitor) (now : Nat) (visit : Visit) : Monitor :=
  match monitor.queue.attempt visit.request (visit.deadline.allows now) with
  | (.park condition, queue) =>
    { monitor with queue, parked := monitor.parked ++ [(visit, condition)] }
  | (.leave outcome owed log, queue) =>
    { monitor with
      queue
      owed := monitor.owed ++ owed
      returned := monitor.returned ++ [(visit.token, outcome)]
      log := monitor.log ++ log }

/-- The number of callers at the queue. -/
def callers (monitor : Monitor) : Nat := monitor.active.length + monitor.parked.length

/-- Waking a caller does not change the number of callers. -/
@[simp] theorem callers_wakeFirst (monitor : Monitor) (test : Visit × Condition → Bool) :
    (monitor.wakeFirst test).callers = monitor.callers := by
  rw [wakeFirst]
  split
  · rfl
  · rename_i h
    have := length_takeFirst h
    simp [callers] at this ⊢
    omega

/-- Delivering a wake-up does not change the number of callers. -/
@[simp] theorem callers_deliver (monitor : Monitor) (signal : Signal) :
    (monitor.deliver signal).callers = monitor.callers := by
  cases signal with
  | one condition => simp [deliver]
  | all condition =>
    have := List.length_eq_countP_add_countP (fun c : Visit × Condition => c.2 = condition)
      (l := monitor.parked)
    simp [callers, deliver, List.countP_eq_length_filter] at this ⊢
    omega

/-- Delivering a wake-up makes no new one due. -/
@[simp] theorem owed_deliver (monitor : Monitor) (signal : Signal) :
    (monitor.deliver signal).owed = monitor.owed := by
  cases signal with
  | one condition =>
    simp only [deliver, wakeFirst]
    split <;> rfl
  | all condition => rfl

/-- Take turns at time `now` until nothing more can happen. -/
def settle (monitor : Monitor) (now : Nat) : Monitor :=
  match _howed : monitor.owed with
  | signal :: owed => settle ({ monitor with owed }.deliver signal) now
  | [] =>
    match _hactive : monitor.active with
    | visit :: active => settle ({ monitor with active }.enter now visit) now
    | [] => monitor
termination_by (monitor.callers, monitor.owed.length, monitor.active.length)
decreasing_by
  · apply Prod.Lex.right'
    · exact Nat.le_of_eq (callers_deliver ..)
    · apply Prod.Lex.left
      simp [_howed]
  · rw [enter]
    split
    · apply Prod.Lex.right'
      · simp [callers, _hactive]
        omega
      · apply Prod.Lex.right'
        · simp
        · simp [_hactive]
    · apply Prod.Lex.left
      simp [callers, _hactive]

/-! ### Time -/

/-- The parked caller that wakes first by itself, and when. -/
def nextToWake? (monitor : Monitor) : Option (Nat × Nat) :=
  monitor.parked.foldl (fun earliest caller =>
    match caller.1.deadline.time?, earliest with
    | none, _ => earliest
    | some time, none => some (time, caller.1.token)
    | some time, some (least, token) =>
      if time < least then some (time, caller.1.token) else some (least, token)) none

/-- A parked caller wakes by itself. -/
def expire (monitor : Monitor) (token : Nat) : Monitor :=
  monitor.wakeFirst (·.1.token = token)

/-- The outcome of a call that is over. -/
def outcome? (monitor : Monitor) (token : Nat) : Option Outcome := monitor.returned.lookup token

end Monitor

end StableQueue
