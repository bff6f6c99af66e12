import StableQueue.Proofs.Queue.Refinement

/-!
# What Can Be Read Without the Lock

The telemetry of a queue is brought up to date by every pass that changes the number of messages,
while the lock is still held. So whenever nobody holds the lock it says how many messages are
queued; `Live.Published` is that invariant, together with the bounds of the high-water mark. Passes
that are aborted do not bring it up to date.

## Main results

* `Live.Published.new`, `Live.Turn.published`: new queues, and one pass.
* `Live.Turn.telemetry_closed`: whether the queue is closed, also after an aborted pass.
-/

namespace StableQueue.Live

/-- The telemetry is up to date. -/
structure Published (live : Live) : Prop where
  /-- The number of messages is the one that is shown. -/
  occupancy : live.telemetry.occupancy = live.contents.occupancy
  /-- There have never been fewer messages than there are now. -/
  le_highWater : live.contents.occupancy ≤ live.telemetry.highWater
  /-- There have never been more messages than there is room for. -/
  highWater_le : live.telemetry.highWater ≤ live.config.depth
  /-- A closed queue is shown to be closed. -/
  closed : live.telemetry.closed = live.contents.closed

variable {live live' : Live} {mayWait : Bool} {request : Request} {pass : Pass}
  {outcome : Outcome} {owed : List Signal} {log : List Log.Event} {contents : Contents}

/-- The telemetry of a new queue is up to date. -/
theorem Published.new {id : Nat} {config : Config} (hnew : Contents.new config = .ok contents) :
    Published { id, config, contents, telemetry := {} } := by
  obtain ⟨-, hlen, -, hopen⟩ := Contents.Consistent.new hnew
  exact ⟨hlen.symm, Nat.le_of_eq hlen, Nat.zero_le _, hopen.symm⟩

/-- It is brought up to date when messages have been added or taken out. -/
theorem Published.update (h : live.Published) (hlive : contents.Consistent live.config)
    (hclosed : contents.closed = live.contents.closed) : (live.update contents).Published := by
  exact ⟨rfl, le_max_right _ _, max_le h.highWater_le hlive.occupancy_le,
    h.closed.trans hclosed.symm⟩

/-- Whether a queue is closed can be read without its lock. -/
theorem Turn.telemetry_closed (h : live.Turn mayWait request pass live')
    (hlive : live.telemetry.closed = live.contents.closed) :
    live'.telemetry.closed = live'.contents.closed := by
  cases h with
  | closes _ => rfl
  | _ => exact hlive

/-- **A pass that is not aborted leaves the telemetry up to date.** -/
theorem Turn.published (h : live.Turn mayWait request (.leave outcome owed log) live')
    (hlive : live.contents.Consistent live.config) (hpublished : live.Published)
    (hfault : (Finished.mk request outcome).isFaulted = false) : live'.Published := by
  cases h with
  | sent hsize _ hfree _ => exact hpublished.update (hlive.afterEnqueue hfree hsize _) rfl
  | sendAborted _ _ _ _ => simp [Finished.isFaulted] at hfault
  | received _ hroot _ _ => exact hpublished.update (hlive.afterDequeue hroot) rfl
  | receiveAborted _ _ _ _ => simp [Finished.isFaulted] at hfault
  | closes _ =>
      exact ⟨hpublished.occupancy, hpublished.le_highWater, hpublished.highWater_le, rfl⟩
  | _ => exact hpublished

end StableQueue.Live
