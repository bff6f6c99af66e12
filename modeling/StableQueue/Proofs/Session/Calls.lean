import StableQueue.Proofs.Session.Kept

/-!
# Calls, Threads and Holders

A call lets time pass, and while time passes, calls come to an end everywhere: threads come back,
let go of their queues, and queues may go. None of this breaks the invariant of holders and numbers.

Waiting for a thread is the one thing that needs a condition. A thread that never comes back is
forgotten while it still holds its queue; but then the caller has not come back either.

## Main results

* `Session.Kept.happen`: whatever happens at a queue keeps the invariant.
* `Session.Kept.call`, `Session.Kept.start`, `Session.Kept.join`: so do calls and threads.
-/

namespace StableQueue

open Registry

/-- The step that has this report has come to an end. -/
def Report.returns : Report → Bool
  | .error .neverReturns => false
  | _ => true

namespace Session

variable {session : Session} {history : List Notice} {loose : Option Nat} {key : Nat}

/-! ### Calls and time -/

/-- Records do not touch the invariant. -/
theorem Kept.emitAll (h : session.Kept history loose) (events : List Log.Event) :
    (session.emitAll events).Kept history loose :=
  { h with }

/-- Collecting the calls that are over keeps the invariant. -/
theorem Kept.collect (h : session.Kept history none) (key : Nat) :
    (session.collect key).Kept history none := by
  rw [Session.collect]
  split
  · exact h
  · rename_i monitor hmonitor
    refine Kept.release (Kept.emitAll (Kept.changeMonitor (h.finish ?_ ?_) key ?_) _)
    · intro thread _
      refine .inl ?_
      repeat' split
      all_goals rfl
    · intro thread _
      split
      · exact .inl rfl
      · rename_i call hcalling
        split
        · rename_i hkey
          split
          · exact .inl rfl
          · refine .inr ⟨rfl, fun other hother => ?_⟩
            simp only [Thread.call?, hcalling, Option.some.injEq] at hother
            rw [← hother, hkey]
        · exact .inl rfl
    · exact fun _ _ => rfl

/-- Whatever happens at a queue keeps the invariant, if the queue keeps its number. -/
theorem Kept.happen (h : session.Kept history none) (key : Nat) {event : Monitor → Monitor}
    (hid : ∀ monitor, (event monitor).queue.id? = monitor.queue.id?) :
    (session.happen key event).Kept history none := by
  refine (h.changeMonitor key fun monitor _ => ?_).collect key
  rw [Monitor.id?_settle, hid]

/-- Time that passes keeps the invariant. -/
theorem Kept.passTime? (h : session.Kept history none) {limit : Option Nat} {after : Session}
    (hpass : session.passTime? limit = some after) : after.Kept history none := by
  rw [Session.passTime?] at hpass
  split at hpass
  · contradiction
  · rename_i time key token _
    split at hpass
    · contradiction
    · cases hpass
      have hlater : { session with now := max session.now time }.Kept history none := { h with }
      exact hlater.happen key fun monitor => monitor.id?_expire token

/-- Waiting keeps the invariant. -/
theorem Kept.waitFor (h : session.Kept history none) (finished : Session → Bool) (fuel : Nat) :
    (Session.waitFor finished fuel session).Kept history none := by
  induction fuel generalizing session with
  | zero => exact h
  | succ fuel ih =>
      rw [Session.waitFor]
      split
      · exact h
      · split
        · exact h
        · rename_i hpass
          exact ih (h.passTime? hpass)

/-- Sleeping until some time keeps the invariant. -/
theorem Kept.sleepUntil (h : session.Kept history none) (limit fuel : Nat) :
    (Session.sleepUntil limit fuel session).Kept history none := by
  induction fuel generalizing session with
  | zero => exact { h with }
  | succ fuel ih =>
      rw [Session.sleepUntil]
      split
      · exact { h with }
      · rename_i hpass
        exact ih (h.passTime? hpass)

/-- A call keeps the invariant. -/
theorem Kept.call (h : session.Kept history none) (key : Nat) (request : Request)
    (patience : Patience) : (session.call key request patience).2.Kept history none := by
  rw [Session.call]
  split
  · dsimp only
    refine Kept.changeMonitor (Kept.waitFor (h.happen key ?_) _ _) key ?_
    · exact fun _ => rfl
    · exact fun _ _ => rfl
  · split
    · exact h
    · rename_i monitor hmonitor
      split
      · exact h
      · rename_i hperform
        refine (h.changeMonitor key fun other hother => ?_).emitAll _
        obtain rfl := Option.some.inj (hmonitor.symm.trans hother)
        exact Queue.id?_of_perform hperform

/-! ### Threads -/

/-- Taking a name from a thread keeps the invariant. -/
theorem Kept.disown (h : session.Kept history none) (name : String) :
    (session.disown name).Kept history none := by
  refine h.finish (fun thread _ => ?_) (fun thread _ => .inl ?_)
  · split
    · exact .inr rfl
    · exact .inl rfl
  · split <;> rfl

/-- A name that has been taken from its thread is no longer in use. -/
theorem name_ne_of_mem_disown {thread : Thread} {name : String}
    (hmem : thread ∈ (session.disown name).threads) : thread.name ≠ some name := by
  obtain ⟨other, -, rfl⟩ := List.mem_map.mp hmem
  split
  · exact nofun
  · rename_i hne
    exact hne

/-- Starting a thread at a queue that is there keeps the invariant. -/
theorem Kept.start (h : session.Kept history none) (name : String) (target : Target)
    (errand : Errand) (hsome : (session.monitor? key).isSome = true) :
    (session.start name key target errand).Kept history none := by
  have hdisown := h.disown name
  cases errand with
  | query query =>
      refine Kept.sleepUntil (hdisown.addThread ?_ ?_) _ _
      · exact fun other hother => name_ne_of_mem_disown hother
      · exact nofun
  | task task =>
      let thread : Thread := ⟨some name, .calling ⟨session.nextToken, key, target, task⟩⟩
      have hadd : { session.disown name with
          threads := (session.disown name).threads ++ [thread] }.Kept history none := by
        refine hdisown.addThread (fun other hother => name_ne_of_mem_disown hother) ?_
        intro call hcall
        cases hcall
        exact hsome
      refine Kept.sleepUntil (Kept.happen ?_ key ?_) _ _
      · exact { hadd with }
      · exact fun _ => rfl

/-- Waiting for a thread keeps the invariant, if the wait comes to an end: the thread that is
forgotten then has let go of its queue. -/
theorem Kept.join (h : session.Kept history none) (name : String)
    (hreturns : (session.join name).1.returns = true) :
    (session.join name).2.Kept history none := by
  have hwaited := h.waitFor (fun session => ((session.thread? name).bind Thread.report?).isSome)
    session.parkedCount
  rw [Session.join] at hreturns ⊢
  dsimp only at hreturns ⊢
  generalize Session.waitFor _ _ _ = waited at hreturns hwaited ⊢
  refine hwaited.forget fun thread hmem htest => ?_
  have hname : thread.name = some name := by simpa using htest
  cases hfound : waited.thread? name with
  | none =>
      have := List.find?_eq_none.mp hfound thread hmem
      simp [hname] at this
  | some found =>
      rw [hfound] at hreturns
      have hfoundName : found.name = some name := by
        simpa using List.find?_some hfound
      -- No other thread has the name, so the one that is forgotten is the one that has come back.
      have hsame : thread = found := by
        by_contra hne
        have hapart := hwaited.names_apart.forall hmem (List.mem_of_find?_eq_some hfound) hne
        simp [Thread.Apart, hname, hfoundName] at hapart
      subst hsame
      cases hprogress : thread.progress with
      | calling call => simp [Thread.report?, hprogress, Report.returns] at hreturns
      | done report => simp [Thread.call?, hprogress]

/-- Waiting for several threads keeps the invariant, if each wait comes to an end. -/
theorem Kept.joinAll (h : session.Kept history none) (names : List String)
    (hreturns : (session.joinAll names).1.all Report.returns = true) :
    (session.joinAll names).2.Kept history none := by
  induction names generalizing session with
  | nil => exact h
  | cons name names ih =>
      simp only [Session.joinAll, List.all_cons, Bool.and_eq_true] at hreturns
      exact ih (h.join name hreturns.1) hreturns.2

end Session

end StableQueue
