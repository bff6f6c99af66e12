import StableQueue.Proofs.Monitor.Run

/-!
# The Calls Under Way at a Queue

Parking and waking move a caller about, but its call stays the same. `Monitor.calls` lists the calls
under way, wherever their callers are. A step of the callers adds a call, ends one, or leaves them
as they are; and it does not depend on which of the calls that are over have been collected.

## Main results

* `Monitor.Step.calls_cases`: what a step does to the calls under way.
* `Monitor.Run.withReturned`: runs do not depend on the calls that are over.
-/

namespace StableQueue

/-- A call as it came, before its caller was parked for the first time. -/
def Visit.fresh (visit : Visit) : Visit := { visit with wokenFrom := none }

namespace Monitor

/-- The calls under way, as they came. -/
def calls (monitor : Monitor) : List Visit :=
  (monitor.active ++ monitor.parked.map Prod.fst).map Visit.fresh

variable {monitor after : Monitor} {live : Live} {ended : List (Visit × Outcome)} {visit : Visit}

/-- A new call joins those under way. -/
theorem calls_arrive (hnew : visit.wokenFrom = none) :
    (monitor.arrive visit).calls.Perm (visit :: monitor.calls) := by
  have hfresh : visit.fresh = visit := by
    rw [Visit.fresh, ← hnew]
  simp only [calls, arrive, List.append_assoc, List.map_append, List.map_cons,
    List.singleton_append, hfresh]
  exact List.perm_middle

/-- Callers who are woken, or have not been, make the same calls. -/
theorem calls_wake_perm (woken : List (Visit × Condition)) {parked : List (Visit × Condition)}
    {owed : List Signal} (hparked : monitor.parked.Perm (woken ++ parked)) :
    (calls { monitor with active := monitor.active ++ woken.map wake, parked, owed }).Perm
      monitor.calls := by
  have hwoken : (woken.map wake).map Visit.fresh = (woken.map Prod.fst).map Visit.fresh := by
    simp only [List.map_map]
    rfl
  have hfirst := ((hparked.map Prod.fst).map Visit.fresh).symm
  simp only [List.map_append] at hfirst
  simp only [calls, List.map_append, hwoken, List.append_assoc]
  exact hfirst.append_left _

/-- **What a step does to the calls under way.** A new one comes, none begins or ends, or one of
them ends with a turn of the queue. -/
theorem Step.calls_cases (hstep : Step monitor ended after)
    (hqueue : monitor.queue = .created live)
    (hlive : live.contents.Consistent live.config) :
    (∃ visit, after = monitor.arrive visit) ∨
    (ended = [] ∧ after.queue = .created live ∧ after.returned = monitor.returned ∧
      after.calls.Perm monitor.calls) ∨
    (∃ visit now outcome owed log live',
      live.Turn (visit.deadline.allows now) visit.request (.leave outcome owed log) live' ∧
      ended = [(visit, outcome)] ∧ after.queue = .created live' ∧
      after.returned = monitor.returned ++ [(visit.token, outcome)] ∧
      monitor.calls.Perm (visit.fresh :: after.calls)) := by
  cases hstep with
  | @arrive visit _ => exact .inl ⟨visit, rfl⟩
  | @enter visit active hactive now =>
      have hqueue' : ({ monitor with active } : Monitor).queue = .created live := hqueue
      have hcalls : monitor.calls.Perm
          (visit.fresh :: ({ monitor with active } : Monitor).calls) :=
        (hactive.append_right _).map Visit.fresh
      obtain ⟨condition, -, hended, hafter⟩ | ⟨outcome, owed, log, live', hturn, hended, hafter⟩ :=
        enter_cases hqueue' hlive now visit
      · refine .inr (.inl ⟨hended, ?_, ?_, ?_⟩)
        · rw [hafter]
          exact hqueue
        · rw [hafter]
        · rw [hafter]
          refine List.Perm.trans ?_ hcalls.symm
          simp only [calls, List.map_append, List.map_cons, List.map_nil, ← List.append_assoc]
          exact List.perm_append_singleton _ _
      · refine .inr (.inr ⟨visit, now, outcome, owed, log, live', hturn, hended, ?_, ?_, ?_⟩)
        · rw [hafter]
        · rw [hafter]
        · rw [hafter]
          exact hcalls
  | wakeOne _ hparked =>
      exact .inr (.inl ⟨rfl, hqueue, rfl, calls_wake_perm [_] hparked⟩)
  | wakeNone _ _ => exact .inr (.inl ⟨rfl, hqueue, rfl, .refl _⟩)
  | @wakeAll condition owed _ =>
      have hsplit := List.filter_append_perm (fun caller : Visit × Condition =>
        decide (caller.2 = condition)) monitor.parked
      exact .inr (.inl ⟨rfl, hqueue, rfl, calls_wake_perm _ hsplit.symm⟩)
  | unpark hparked =>
      exact .inr (.inl ⟨rfl, hqueue, rfl, calls_wake_perm [_] hparked⟩)

/-- A passage through the lock does not depend on the calls that are over. -/
theorem enter_withReturned (now : Nat) (visit : Visit) (returned : List (Nat × Outcome)) :
    ({ monitor with returned } : Monitor).enter now visit =
      { monitor.enter now visit with
        returned := returned ++ (monitor.endings now visit).map fun ending =>
          (ending.1.token, ending.2) } := by
  rw [enter, enter, endings]
  split
  · rename_i heq
    simp [heq]
  · rename_i heq
    simp [heq]

/-- **Steps do not depend on the calls that are over.** -/
theorem Step.withReturned (hstep : Step monitor ended after) (returned : List (Nat × Outcome)) :
    Step { monitor with returned } ended
      { after with
        returned := returned ++ ended.map fun ending => (ending.1.token, ending.2) } := by
  have hnone : returned ++ ([] : List (Visit × Outcome)).map
      (fun ending => (ending.1.token, ending.2)) = returned := List.append_nil _
  cases hstep with
  | arrive hnew =>
      rw [hnone]
      exact .arrive hnew
  | @enter visit active hactive now =>
      have hsame := @enter_withReturned { monitor with active } now visit returned
      exact hsame ▸ @Step.enter { monitor with returned } visit active hactive now
  | wakeOne howed hparked =>
      rw [hnone]
      exact @Step.wakeOne { monitor with returned } _ _ _ _ howed hparked
  | wakeNone howed hparked =>
      rw [hnone]
      exact @Step.wakeNone { monitor with returned } _ _ howed hparked
  | wakeAll howed =>
      rw [hnone]
      exact @Step.wakeAll { monitor with returned } _ _ howed
  | unpark hparked =>
      rw [hnone]
      exact @Step.unpark { monitor with returned } _ _ hparked

/-- Runs do not depend on the calls that are over. -/
theorem Run.withReturned {start : Monitor} {history : List (Visit × Outcome)}
    (hrun : Run start history monitor) (returned : List (Nat × Outcome)) :
    ∃ returned', Run { start with returned } history { monitor with returned := returned' } := by
  induction hrun with
  | refl => exact ⟨returned, .refl⟩
  | step _ hstep ih =>
      obtain ⟨returned', hrun'⟩ := ih
      exact ⟨_, hrun'.step (hstep.withReturned returned')⟩

end Monitor

end StableQueue
