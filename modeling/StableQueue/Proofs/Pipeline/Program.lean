import StableQueue.Proofs.Pipeline.Serving

/-!
# The Schedule of the Program

The program lets the threads take turns round by round: the queue settles, then all threads whose
calls have returned take note of that, and then they make their next calls. Since no two of these
calls are of one thread, this comes to the same as if each thread had gone on by itself. So what
holds of every schedule holds of the one the program follows.

## Main results

* `Pipeline.foldl_resume_foldl_accept`: threads that go on together, and one by one.
* `Pipeline.run_run`: the program follows a schedule.
-/

namespace StableQueue.Pipeline

variable {state : State} {token : Nat}

/-- Settling is a run. -/
theorem run_settle (state : State) (now : Nat) :
    ∃ history, Run state history { state with monitor := state.monitor.settle now } := by
  obtain ⟨monitor, workers, closed⟩ := state
  induction monitor using Monitor.settle.induct now with
  | case1 monitor signal owed howed ih =>
      obtain ⟨history, hrun⟩ := ih
      have hless : ({ monitor with owed } : Monitor).owed.length < monitor.owed.length := by
        rw [howed]
        exact Nat.lt_succ_self _
      have hturn : Advance ⟨monitor, workers, closed⟩ [] _ :=
        .turn (Monitor.step_deliver howed) (.inl (by rwa [Monitor.owed_deliver]))
      rw [Monitor.settle_of_owed now howed]
      exact ⟨_, (Run.single hturn).trans hrun⟩
  | case2 monitor howed visit active hactive ih =>
      obtain ⟨history, hrun⟩ := ih
      have hturn : Advance ⟨monitor, workers, closed⟩ (monitor.endings now visit) _ :=
        .turn (.enter (.of_eq hactive) now) (.inr (by rw [Monitor.active_enter, hactive]; simp))
      rw [Monitor.settle_of_active now howed hactive]
      exact ⟨_, (Run.single hturn).trans hrun⟩
  | case3 monitor howed hactive =>
      rw [Monitor.settle_of_nil now howed hactive]
      exact ⟨[], .refl⟩

/-! ### Going on together -/

/-- A thread makes the same call whether another one has taken note of the end of its call or
not. -/
theorem resume_accept {call : Nat × Outcome} (htoken : call.1 ≠ token) :
    (state.accept call).resume token = (state.resume token).accept call := by
  have hasks : (state.accept call).asks token = state.asks token :=
    State.asks_accept_of_ne htoken.symm
  cases hnext : state.asks token with
  | none =>
      rw [State.resume_of_none hnext, State.resume_of_none (hasks.trans hnext)]
  | some request =>
      rw [State.resume_of_some hnext, State.resume_of_some (hasks.trans hnext),
        State.accept_eq, State.accept_eq]

/-- So it does if several others have. -/
theorem resume_foldl_accept {calls : List (Nat × Outcome)} (htoken : token ∉ calls.map Prod.fst) :
    (calls.foldl State.accept state).resume token =
      calls.foldl State.accept (state.resume token) := by
  induction calls generalizing state with
  | nil => rfl
  | cons call calls ih =>
      rw [List.map_cons, List.mem_cons, not_or] at htoken
      rw [List.foldl_cons, ih htoken.2, resume_accept (Ne.symm htoken.1), List.foldl_cons]

/-- **Threads that go on together go on like one by one.** -/
theorem foldl_resume_foldl_accept {calls : List (Nat × Outcome)}
    (hnodup : (calls.map Prod.fst).Nodup) :
    (calls.map Prod.fst).foldl State.resume (calls.foldl State.accept state) =
      calls.foldl State.goOn state := by
  induction calls generalizing state with
  | nil => rfl
  | cons call calls ih =>
      rw [List.map_cons, List.nodup_cons] at hnodup
      rw [List.map_cons, List.foldl_cons, List.foldl_cons, List.foldl_cons,
        resume_foldl_accept hnodup.1, ih hnodup.2]
      rfl

/-- Whoever goes on does not look at the calls that are over, and adds none. -/
theorem goOn_withReturned (state : State) (call : Nat × Outcome)
    (returned : List (Nat × Outcome)) :
    (state.withReturned returned).goOn call = (state.goOn call).withReturned returned := by
  rw [State.goOn, State.goOn, State.accept_eq, State.accept_eq]
  generalize hworkers : state.workers.modify call.1 (·.hear call.2) = workers
  have hsame : (state.withReturned returned).workers = state.workers := rfl
  rw [hsame, hworkers]
  cases hnext : (workers[call.1]?).bind Worker.next? with
  | none =>
      rw [State.resume_of_none (by exact hnext), State.resume_of_none (by exact hnext)]
      rfl
  | some request =>
      rw [State.resume_of_some (by exact hnext), State.resume_of_some (by exact hnext)]
      rfl

/-- Threads whose calls are over go on, one after the other. -/
theorem run_goOn (state : State) (returned : List (Nat × Outcome)) :
    Run (state.withReturned returned) [] (returned.foldl State.goOn (state.withReturned [])) := by
  induction returned generalizing state with
  | nil => exact .refl
  | cons call returned ih =>
      have hfirst : Advance (state.withReturned (call :: returned)) []
          ((state.withReturned returned).goOn call) := .accept (.refl _)
      have hothers := ih (state.goOn call)
      rw [← goOn_withReturned, ← goOn_withReturned] at hothers
      exact (Run.single hfirst).trans hothers

/-- **The program follows a schedule.** -/
theorem run_run {config : Config} {host host' : Host} {queue : Queue} {receivers : Nat}
    {messages : List (List Message)} {history : List (Visit × Outcome)}
    (hbuild : (Queue.build config).runOn host = (.ok queue, host'))
    (htotal : messages.flatten.length < 2 ^ 63)
    (hrun : Run (start queue receivers messages) history state) (fuel : Nat) :
    ∃ history', Run (start queue receivers messages) history' (state.run fuel) := by
  induction fuel generalizing state history with
  | zero => exact ⟨history, hrun⟩
  | succ fuel ih =>
      obtain ⟨later, hsettles⟩ := run_settle state 0
      have hsettled := hrun.trans hsettles
      simp only [State.run]
      split
      · rename_i hempty
        have hnone := List.isEmpty_iff.mp hempty
        have hsame : State.mk { state.monitor.settle 0 with returned := [] } state.workers
            state.closed = { state with monitor := state.monitor.settle 0 } := by
          rw [← hnone]
        split
        · rw [hsame]
          exact ⟨_, hsettled⟩
        · rename_i hgoing
          rw [Bool.or_eq_true, not_or, Bool.not_eq_true, Bool.not_eq_true] at hgoing
          rw [hsame]
          exact ih (hsettled.step (.advance (.close hgoing.1 hgoing.2)))
      · obtain ⟨horderly, -⟩ := hsettled.served hbuild htotal
        have hnodup := (List.nodup_append.mp (List.nodup_append.mp horderly.nodup).2.1).2.1
        rw [foldl_resume_foldl_accept hnodup]
        exact ih (hsettled.trans (run_goOn { state with monitor := state.monitor.settle 0 } _))

end StableQueue.Pipeline
