import StableQueue.Monitor
import StableQueue.Proofs.Queue.Refinement

/-!
# Runs of a Monitor

`Monitor.Step` is one step of the callers at a queue, in whatever order they may come. A step is a
new caller, the passage of a caller through the lock, the delivery of one owed wake-up, or a parked
caller waking by itself, because its deadline has come or for no reason at all. Nothing is said
about who is next: any caller about to take the lock may take it, any owed wake-up may be delivered,
and a wake-up for one caller goes to any of those parked on its condition. `Monitor.Run` is any
number of such steps, and lists the calls that have ended on the way, in the order of the passes
that ended them.

Callers come with any request and any deadline, at any time. So the runs include those of any number
of threads, each of which makes the calls of its program one after the other, and every interleaving
of them.

## Main results

* `Monitor.run_settle`, `Monitor.run_expire`: the turns the program takes are steps.
* `Monitor.enter_cases`: a passage through the lock is a turn of the queue.
* `Monitor.Run.exists_live_of_turns`: what every turn preserves holds after a run.
* `Monitor.Run.exists_live`: a created queue stays created and consistent.
-/

namespace StableQueue.Monitor

/-- The call that ends when a caller passes through the lock; none if the caller parks. -/
def endings (monitor : Monitor) (now : Nat) (visit : Visit) : List (Visit × Outcome) :=
  match (monitor.queue.attempt visit.request (visit.deadline.allows now)).1 with
  | .park _ => []
  | .leave outcome _ _ => [(visit, outcome)]

/-- One step of the callers at a queue, and the calls that end with it. -/
inductive Step : Monitor → List (Visit × Outcome) → Monitor → Prop
  /-- A new caller comes. -/
  | arrive {monitor : Monitor} {visit : Visit} (hnew : visit.wokenFrom = none) :
      Step monitor [] (monitor.arrive visit)
  /-- One of those about to take the lock passes through it. -/
  | enter {monitor : Monitor} {visit : Visit} {active : List Visit}
      (hactive : monitor.active.Perm (visit :: active)) (now : Nat) :
      Step monitor (monitor.endings now visit) ({ monitor with active }.enter now visit)
  /-- A wake-up for one is delivered to one of those parked on its condition. -/
  | wakeOne {monitor : Monitor} {condition : Condition} {owed : List Signal} {visit : Visit}
      {parked : List (Visit × Condition)}
      (howed : monitor.owed.Perm (.one condition :: owed))
      (hparked : monitor.parked.Perm ((visit, condition) :: parked)) :
      Step monitor []
        { monitor with active := monitor.active ++ [wake (visit, condition)], parked, owed }
  /-- A wake-up for one is lost if nobody is parked on its condition. -/
  | wakeNone {monitor : Monitor} {condition : Condition} {owed : List Signal}
      (howed : monitor.owed.Perm (.one condition :: owed))
      (hparked : ∀ caller ∈ monitor.parked, caller.2 ≠ condition) :
      Step monitor [] { monitor with owed }
  /-- A wake-up for all is delivered to all that are parked on its condition. -/
  | wakeAll {monitor : Monitor} {condition : Condition} {owed : List Signal}
      (howed : monitor.owed.Perm (.all condition :: owed)) :
      Step monitor [] ({ monitor with owed }.deliver (.all condition))
  /-- A parked caller wakes by itself. -/
  | unpark {monitor : Monitor} {caller : Visit × Condition} {parked : List (Visit × Condition)}
      (hparked : monitor.parked.Perm (caller :: parked)) :
      Step monitor [] { monitor with active := monitor.active ++ [wake caller], parked }

/-- Any number of steps, and the calls that end with them, in order. -/
inductive Run (start : Monitor) : List (Visit × Outcome) → Monitor → Prop
  /-- Nothing has happened yet. -/
  | refl : Run start [] start
  /-- One step more. -/
  | step {history ended : List (Visit × Outcome)} {monitor after : Monitor}
      (hrun : Run start history monitor) (hstep : Step monitor ended after) :
      Run start (history ++ ended) after

/-- The calls that have ended: what was asked and how it ended. -/
def finished (history : List (Visit × Outcome)) : List Finished :=
  history.map fun ending => ⟨ending.1.request, ending.2⟩

/-- What was asked by the calls that have ended. -/
def requests (history : List (Visit × Outcome)) : List Request :=
  history.map fun ending => ending.1.request

variable {monitor after : Monitor} {history : List (Visit × Outcome)}

/-- Calls that have ended one after the other. -/
theorem finished_append (history later : List (Visit × Outcome)) :
    finished (history ++ later) = finished history ++ finished later :=
  List.map_append

/-- What was asked by calls that have ended one after the other. -/
theorem requests_append (history later : List (Visit × Outcome)) :
    requests (history ++ later) = requests history ++ requests later :=
  List.map_append

/-- A single step is a run. -/
theorem Run.single {ended : List (Visit × Outcome)} (h : Step monitor ended after) :
    Run monitor ended after := by
  simpa using Run.refl.step h

/-- A run can be continued by another one. -/
theorem Run.trans {start : Monitor} {later : List (Visit × Outcome)}
    (h : Run start history monitor) (hlater : Run monitor later after) :
    Run start (history ++ later) after := by
  induction hlater with
  | refl => simpa using h
  | step _ hstep ih =>
      rw [← List.append_assoc]
      exact ih.step hstep

/-! ### The turns the program takes -/

/-- Who is split off was parked and satisfies the test. -/
theorem takeFirst_eq_some {test : Visit × Condition → Bool} {parked : List (Visit × Condition)}
    {found : (Visit × Condition) × List (Visit × Condition)}
    (h : takeFirst test parked = some found) :
    parked.Perm (found.1 :: found.2) ∧ test found.1 = true := by
  induction parked generalizing found with
  | nil => simp [takeFirst] at h
  | cons caller others ih =>
      rw [takeFirst] at h
      split at h
      · rename_i htest
        cases h
        exact ⟨.refl _, htest⟩
      · obtain ⟨found', h', rfl⟩ := Option.map_eq_some_iff.mp h
        obtain ⟨hperm, htest⟩ := ih h'
        exact ⟨(hperm.cons caller).trans (.swap _ _ _), htest⟩

/-- If nobody can be split off, nobody parked satisfies the test. -/
theorem takeFirst_eq_none {test : Visit × Condition → Bool} {parked : List (Visit × Condition)}
    (h : takeFirst test parked = none) : ∀ caller ∈ parked, test caller = false := by
  induction parked with
  | nil => simp
  | cons caller others ih =>
      rw [takeFirst] at h
      split at h
      · contradiction
      · rename_i htest
        intro other hother
        rcases List.mem_cons.mp hother with rfl | hother
        · simpa using htest
        · exact ih (Option.map_eq_none_iff.mp h) other hother

/-- A caller whose deadline has come wakes in one step, if it is parked. -/
theorem run_expire (monitor : Monitor) (token : Nat) : Run monitor [] (monitor.expire token) := by
  rw [expire, wakeFirst]
  split
  · exact .refl
  · rename_i hfound
    exact .single (.unpark (takeFirst_eq_some hfound).1)

/-- The wake-up in front is delivered in one step. -/
theorem step_deliver {signal : Signal} {owed : List Signal}
    (howed : monitor.owed = signal :: owed) :
    Step monitor [] ({ monitor with owed }.deliver signal) := by
  have hperm : monitor.owed.Perm (signal :: owed) := .of_eq howed
  cases signal with
  | all condition => exact .wakeAll hperm
  | one condition =>
      simp only [deliver, wakeFirst]
      split
      · rename_i hnone
        refine .wakeNone hperm fun caller hcaller => ?_
        simpa using takeFirst_eq_none hnone caller hcaller
      · rename_i caller parked hfound
        obtain ⟨hparked, htest⟩ := takeFirst_eq_some hfound
        obtain ⟨visit, condition'⟩ := caller
        obtain rfl : condition' = condition := by simpa using htest
        exact .wakeOne hperm hparked

/-- Owed wake-ups go first. -/
theorem settle_of_owed {signal : Signal} {owed : List Signal} (now : Nat)
    (howed : monitor.owed = signal :: owed) :
    monitor.settle now = ({ monitor with owed }.deliver signal).settle now := by
  rw [settle]
  split
  · rename_i heq
    rw [howed] at heq
    cases heq
    rfl
  · rename_i heq
    rw [howed] at heq
    contradiction

/-- If no wake-up is owed, the caller in front takes the lock. -/
theorem settle_of_active {visit : Visit} {active : List Visit} (now : Nat)
    (howed : monitor.owed = []) (hactive : monitor.active = visit :: active) :
    monitor.settle now = ({ monitor with active }.enter now visit).settle now := by
  rw [settle]
  split
  · rename_i heq
    rw [howed] at heq
    contradiction
  · split
    · rename_i heq
      rw [hactive] at heq
      cases heq
      rfl
    · rename_i heq
      rw [hactive] at heq
      contradiction

/-- If no wake-up is owed and nobody is about to take the lock, nothing happens. -/
theorem settle_of_nil (now : Nat) (howed : monitor.owed = []) (hactive : monitor.active = []) :
    monitor.settle now = monitor := by
  rw [settle]
  split
  · rename_i heq
    rw [howed] at heq
    contradiction
  · split
    · rename_i heq
      rw [hactive] at heq
      contradiction
    · rfl

/-- **Settling is a run.** -/
theorem run_settle (monitor : Monitor) (now : Nat) :
    ∃ history, Run monitor history (monitor.settle now) := by
  induction monitor using settle.induct now with
  | case1 monitor signal owed howed ih =>
      obtain ⟨history, hrun⟩ := ih
      rw [settle_of_owed now howed]
      exact ⟨_, (Run.single (step_deliver howed)).trans hrun⟩
  | case2 monitor howed visit active hactive ih =>
      obtain ⟨history, hrun⟩ := ih
      rw [settle_of_active now howed hactive]
      exact ⟨_, (Run.single (.enter (.of_eq hactive) now)).trans hrun⟩
  | case3 monitor howed hactive =>
      rw [settle_of_nil now howed hactive]
      exact ⟨[], .refl⟩

/-! ### Passing through the lock -/

variable {live : Live}

/-- Who passes through the lock does not change who else is about to. -/
@[simp] theorem active_enter (now : Nat) (visit : Visit) :
    (monitor.enter now visit).active = monitor.active := by
  rw [enter]
  split <;> rfl

/-- **A passage through the lock is a turn of the queue.** Either the caller parks, and the queue is
as it was, or the call ends. -/
theorem enter_cases (hqueue : monitor.queue = .created live)
    (hlive : live.contents.Consistent live.config) (now : Nat) (visit : Visit) :
    (∃ condition,
      live.Turn (visit.deadline.allows now) visit.request (.park condition) live ∧
      monitor.endings now visit = [] ∧
      monitor.enter now visit =
        { monitor with parked := monitor.parked ++ [(visit, condition)] }) ∨
    (∃ outcome owed log live',
      live.Turn (visit.deadline.allows now) visit.request (.leave outcome owed log) live' ∧
      monitor.endings now visit = [(visit, outcome)] ∧
      monitor.enter now visit =
        { monitor with
          queue := .created live'
          owed := monitor.owed ++ owed
          returned := monitor.returned ++ [(visit.token, outcome)]
          log := monitor.log ++ log }) := by
  have hturn := Live.attempt_turn hlive visit.request (visit.deadline.allows now)
  simp only [endings, enter, hqueue, Queue.attempt]
  cases hattempt : live.attempt visit.request (visit.deadline.allows now) with
  | mk pass live' =>
      rw [hattempt] at hturn
      cases pass with
      | park condition =>
          obtain ⟨rfl, -⟩ := hturn.eq_of_park
          refine .inl ⟨condition, hturn, rfl, ?_⟩
          rw [← hqueue]
      | leave outcome owed log => exact .inr ⟨outcome, owed, log, live', hturn, rfl, rfl⟩

/-- **Only the last pass of a call counts.** A step leaves the queue as it is, or it is the turn
that ends the one call that ends with it. -/
theorem Step.eq_or_turn {ended : List (Visit × Outcome)} (hstep : Step monitor ended after)
    (hqueue : monitor.queue = .created live)
    (hlive : live.contents.Consistent live.config) :
    (ended = [] ∧ after.queue = .created live ∧ after.returned = monitor.returned) ∨
    (∃ visit mayWait outcome owed log live',
      live.Turn mayWait visit.request (.leave outcome owed log) live' ∧
      ended = [(visit, outcome)] ∧ after.queue = .created live' ∧
      after.returned = monitor.returned ++ [(visit.token, outcome)]) := by
  cases hstep with
  | @enter visit active hactive now =>
      have hqueue' : ({ monitor with active } : Monitor).queue = .created live := hqueue
      obtain ⟨condition, -, hended, hafter⟩ | ⟨outcome, owed, log, live', hturn, hended, hafter⟩ :=
        enter_cases hqueue' hlive now visit
      · rw [hafter]
        exact .inl ⟨hended, hqueue, rfl⟩
      · rw [hafter]
        exact .inr ⟨visit, _, outcome, owed, log, live', hturn, hended, rfl, rfl⟩
  | _ => exact .inl ⟨rfl, hqueue, rfl⟩

/-- **What turns preserve, runs preserve.** A created queue stays created, with the same
configuration and with consistent contents, and whatever holds of the calls that have ended and the
queue they have left behind holds after a run, if it does after every turn that ends a call. -/
theorem Run.exists_live_of_turns {start : Monitor}
    {motive : List (Visit × Outcome) → Live → Prop} (hrun : Run start history monitor)
    (hqueue : start.queue = .created live) (hlive : live.contents.Consistent live.config)
    (hstart : motive [] live)
    (hturns : ∀ (history : List (Visit × Outcome)) (live live' : Live) (visit : Visit)
      (mayWait : Bool) (outcome : Outcome) (owed : List Signal) (log : List Log.Event),
      live.contents.Consistent live.config →
      live.Turn mayWait visit.request (.leave outcome owed log) live' →
      motive history live → motive (history ++ [(visit, outcome)]) live') :
    ∃ live', monitor.queue = .created live' ∧ live'.config = live.config ∧
      live'.contents.Consistent live'.config ∧ motive history live' := by
  induction hrun with
  | refl => exact ⟨live, hqueue, rfl, hlive, hstart⟩
  | step hrun hstep ih =>
      obtain ⟨live', hqueue', hconfig, hlive', hmotive⟩ := ih
      obtain ⟨rfl, hafter, -⟩ | ⟨visit, mayWait, outcome, owed, log, live'', hturn, rfl, hafter,
        -⟩ := hstep.eq_or_turn hqueue' hlive'
      · rw [List.append_nil]
        exact ⟨live', hafter, hconfig, hlive', hmotive⟩
      · exact ⟨live'', hafter, hturn.config_eq.2.trans hconfig, hturn.consistent hlive',
          hturns _ _ _ _ _ _ _ _ hlive' hturn hmotive⟩

/-- **A created queue stays created**, with the same configuration and with consistent contents. -/
theorem Run.exists_live {start : Monitor} (hrun : Run start history monitor)
    (hqueue : start.queue = .created live) (hlive : live.contents.Consistent live.config) :
    ∃ live', monitor.queue = .created live' ∧ live'.config = live.config ∧
      live'.contents.Consistent live'.config := by
  obtain ⟨live', hqueue', hconfig, hlive', -⟩ := hrun.exists_live_of_turns
    (motive := fun _ _ => True) hqueue hlive trivial fun _ _ _ _ _ _ _ _ _ _ _ => trivial
  exact ⟨live', hqueue', hconfig, hlive'⟩

/-- The calls that have ended are the ones that have returned, in the same order. -/
theorem Run.returned_eq {start : Monitor} (hrun : Run start history monitor)
    (hqueue : start.queue = .created live) (hlive : live.contents.Consistent live.config) :
    monitor.returned =
      start.returned ++ history.map fun ending => (ending.1.token, ending.2) := by
  induction hrun with
  | refl => simp
  | step hrun hstep ih =>
      obtain ⟨live', hqueue', -, hlive'⟩ := hrun.exists_live hqueue hlive
      obtain ⟨rfl, -, hreturned⟩ | ⟨visit, mayWait, outcome, owed, log, live'', -, rfl, -,
        hreturned⟩ := hstep.eq_or_turn hqueue' hlive'
      · rw [hreturned, ih, List.append_nil]
      · rw [hreturned, ih, List.map_append, List.append_assoc]
        rfl

/-! ### A receiver who waits for a sender -/

/-- A receiver who waits for as long as it takes. -/
def sampleReceiver : Visit := { token := 0, request := .receive, deadline := .never }

/-- A sender who does not wait. -/
def sampleSender : Visit := { token := 1, request := .send ⟨#[7]⟩ 3, deadline := .immediate }

/-- The receiver has come to the sample and is parked. -/
def sampleParked : Monitor :=
  { ({ queue := .created .sample } : Monitor).arrive sampleReceiver with
    active := [] }.enter 0 sampleReceiver

/-- The sender has come and has sent. The receiver is parked, and its wake-up is owed. -/
def sampleSent : Monitor :=
  { sampleParked.arrive sampleSender with active := [] }.enter 0 sampleSender

/-- The call of the sender has ended. -/
def sampleHistory : List (Visit × Outcome) := sampleParked.endings 0 sampleSender

/-- One after the other, the receiver and the sender make a run. -/
theorem sample_run : Run { queue := .created .sample } sampleHistory sampleSent := by
  have hcomes : Run { queue := .created .sample } [] (.arrive _ sampleReceiver) :=
    .single (.arrive rfl)
  have hparks : Run { queue := .created .sample } [] sampleParked :=
    hcomes.step (@Step.enter _ sampleReceiver [] (.refl _) 0)
  exact (hparks.step (.arrive rfl)).step (@Step.enter _ sampleSender [] (.refl _) 0)

end StableQueue.Monitor
