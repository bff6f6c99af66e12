import StableQueue.Proofs.Pipeline.Conversation

/-!
# Every Thread Makes One Call at a Time

`Pipeline.Orderly` is what holds of the threads of a pipeline and their calls in every schedule. A
thread that has not ended has exactly one call: it is under way, and then it is the one the thread
wanted to make, or it is over and the thread has not taken note of it. What the thread knows is what
it has heard in its calls. Besides the threads only the one who closes the queue makes a call.

## Main results

* `Pipeline.Orderly.start`: the threads when they have made their first calls.
* `Pipeline.Orderly.step`: a step keeps the threads orderly.
-/

namespace StableQueue.Pipeline

/-- The threads of a pipeline before their first calls, the receivers first. -/
def threads (receivers : Nat) (messages : List (List Message)) : List Worker :=
  List.replicate receivers (.receiver [] none) ++ messages.map (.sender · [])

/-- Who makes a call, or has not taken note of the end of one. -/
def State.tokens (state : State) : List Nat :=
  state.monitor.calls.map Visit.token ++ state.monitor.returned.map Prod.fst

/-- What a thread knows of its calls. -/
inductive Informed (first : Worker) (calls : List Finished) (returned : List (Nat × Outcome))
    (token : Nat) (worker : Worker) : Prop
  /-- It has taken note of all its calls that are over. -/
  | heard (hcalls : first.Converses calls worker) (hnone : token ∉ returned.map Prod.fst)
  /-- It has not taken note of the last one. -/
  | unheard {earlier : List Finished} {request : Request} {outcome : Outcome}
      (hcalls : calls = earlier ++ [⟨request, outcome⟩])
      (hearlier : first.Converses earlier worker) (hnext : worker.next? = some request)
      (hreturned : (token, outcome) ∈ returned)

namespace Informed

variable {first worker : Worker} {calls : List Finished} {returned returned' : List (Nat × Outcome)}
  {token : Nat}

/-- A thread whose call has ended has one call more to take note of. -/
theorem ends {request : Request} (h : Informed first calls returned token worker)
    (hbusy : token ∉ returned.map Prod.fst) (hnext : worker.next? = some request)
    (outcome : Outcome) :
    Informed first (calls ++ [⟨request, outcome⟩]) (returned ++ [(token, outcome)]) token
      worker := by
  cases h with
  | heard hheard _ => exact .unheard rfl hheard hnext (List.mem_append_right _ List.mem_cons_self)
  | unheard _ _ _ hmem => exact absurd (List.mem_map_of_mem hmem) hbusy

/-- The end of a call does not concern the other threads. -/
theorem ends_of_ne (h : Informed first calls returned token worker) {call : Nat × Outcome}
    (htoken : call.1 ≠ token) : Informed first calls (returned ++ [call]) token worker := by
  cases h with
  | heard hheard hnone =>
      refine .heard hheard ?_
      simpa [hnone] using htoken.symm
  | unheard heq hearlier hnext hmem =>
      exact .unheard heq hearlier hnext (List.mem_append_left _ hmem)

/-- A thread that has taken note of the end of its call knows what it has heard. -/
theorem accept {outcome : Outcome} (h : Informed first calls returned token worker)
    (hreturned : returned.Perm ((token, outcome) :: returned'))
    (honce : token ∉ returned'.map Prod.fst) :
    Informed first calls returned' token (worker.hear outcome) := by
  cases h with
  | heard _ hnone =>
      refine absurd ?_ hnone
      exact List.mem_map_of_mem (hreturned.mem_iff.mpr List.mem_cons_self)
  | unheard hlast hearlier hnext hmem =>
      rcases List.mem_cons.mp (hreturned.mem_iff.mp hmem) with heq | hrest
      · obtain ⟨-, rfl⟩ := Prod.mk.inj heq
        rw [hlast]
        exact .heard (hearlier.step hnext) honce
      · exact absurd (List.mem_map_of_mem hrest) honce

/-- That does not concern the other threads. -/
theorem accept_of_ne {call : Nat × Outcome} (h : Informed first calls returned token worker)
    (hreturned : returned.Perm (call :: returned')) (htoken : call.1 ≠ token) :
    Informed first calls returned' token worker := by
  cases h with
  | heard hheard hnone =>
      refine .heard hheard fun hmem => hnone ?_
      rw [(hreturned.map Prod.fst).mem_iff]
      exact List.mem_cons_of_mem _ hmem
  | unheard hlast hearlier hnext hmem =>
      refine .unheard hlast hearlier hnext ?_
      rcases List.mem_cons.mp (hreturned.mem_iff.mp hmem) with hcall | hrest
      · exact absurd (congrArg Prod.fst hcall).symm htoken
      · exact hrest

end Informed

/-- The threads of a pipeline, which were `first` at its start, are in order. Those listed as `idle`
are about to make their next calls. -/
structure Orderly (first : List Worker) (idle : List Nat) (history : List (Visit × Outcome))
    (state : State) : Prop where
  /-- They are as many as at the start. -/
  length_eq : state.workers.length = first.length
  /-- Nobody makes two calls at once. -/
  nodup : (idle ++ state.tokens).Nodup
  /-- The calls under way are those that their threads want to make, or the one that closes the
  queue. -/
  calls : ∀ visit ∈ state.monitor.calls,
    (state.asks visit.token = some visit.request ∧ visit.deadline = .never) ∨
      (visit.token = first.length ∧ visit.request = .close ∧ state.closed = true)
  /-- So were those that are over. -/
  returned : ∀ call ∈ state.monitor.returned,
    call.1 < first.length ∨ (call.1 = first.length ∧ state.closed = true)
  /-- Who has not ended makes a call. -/
  present : ∀ token request, state.asks token = some request → token ∈ idle ++ state.tokens
  /-- Before the queue is closed, every message has been sent. -/
  sent : state.closed = true → ∀ worker ∈ state.workers, worker.isSending = false
  /-- Every thread knows what it has heard. -/
  informed : ∀ token worker, state.workers[token]? = some worker →
    ∃ start, first[token]? = some start ∧
      Informed start (callsOf token history) state.monitor.returned token worker
  /-- There are no calls but those of the threads and the one that closes the queue. -/
  known : ∀ ending ∈ history, first.length ≤ ending.1.token → ending.1.request = .close

variable {first : List Worker} {idle : List Nat} {history : List (Visit × Outcome)}
  {state after : State} {monitor : Monitor} {worker : Worker} {visit : Visit} {token : Nat}
  {request : Request}

/-- A thread that wants to make a call is one of the threads. -/
theorem State.exists_worker_of_asks (h : state.asks token = some request) :
    ∃ worker, state.workers[token]? = some worker ∧ worker.next? = some request := by
  rw [asks, Option.bind_eq_some_iff] at h
  exact h

/-- A thread that wants to make a call has a position. -/
theorem State.exists_asks (hworker : worker ∈ state.workers)
    (hnext : worker.next? = some request) : ∃ token, state.asks token = some request := by
  obtain ⟨token, htoken⟩ := List.mem_iff_getElem?.mp hworker
  exact ⟨token, Option.bind_eq_some_iff.mpr ⟨worker, htoken, hnext⟩⟩

/-- The positions of the threads are those below their number. -/
theorem State.lt_of_asks (h : state.asks token = some request) :
    token < state.workers.length := by
  obtain ⟨worker, hworker, -⟩ := exists_worker_of_asks h
  exact (List.getElem?_eq_some_iff.mp hworker).1

/-- What others want to ask does not change when a thread takes note of the end of its call. -/
theorem State.asks_accept_of_ne {call : Nat × Outcome} (htoken : token ≠ call.1) :
    (state.accept call).asks token = state.asks token := by
  simp only [accept_eq, asks, List.getElem?_modify_ne _ _ htoken.symm]

/-- Only the thread that takes note of the end of its call changes. -/
theorem State.exists_worker_of_accept {call : Nat × Outcome}
    (hworker : (state.accept call).workers[token]? = some worker) :
    ∃ old, state.workers[token]? = some old ∧
      worker = if call.1 = token then old.hear call.2 else old := by
  simp only [accept_eq, List.getElem?_modify, Option.map_eq_map, Option.map_eq_some_iff] at hworker
  obtain ⟨old, hold, rfl⟩ := hworker
  exact ⟨old, hold, rfl⟩

namespace Orderly

/-- Moving callers about does not concern the threads. -/
theorem quiet (h : Orderly first idle history state)
    (hreturned : monitor.returned = state.monitor.returned)
    (hcalls : monitor.calls.Perm state.monitor.calls) :
    Orderly first idle history { state with monitor } := by
  have htokens : ({ state with monitor } : State).tokens.Perm state.tokens := by
    rw [State.tokens, hreturned]
    exact (hcalls.map Visit.token).append_right _
  have hall := htokens.append_left idle
  refine ⟨h.length_eq, hall.nodup_iff.mpr h.nodup, ?_, ?_, ?_, h.sent, ?_, h.known⟩
  · exact fun visit hvisit => h.calls visit (hcalls.mem_iff.mp hvisit)
  · rw [hreturned]
    exact h.returned
  · exact fun token request hasks => hall.mem_iff.mpr (h.present token request hasks)
  · rw [hreturned]
    exact h.informed

/-- Who makes a call has taken note of the ends of all others. -/
theorem not_mem_returned (h : Orderly first idle history state)
    (hvisit : visit ∈ state.monitor.calls) :
    visit.token ∉ state.monitor.returned.map Prod.fst := by
  have hnodup := (List.nodup_append.mp h.nodup).2.1
  rw [State.tokens, List.nodup_append] at hnodup
  exact fun hmem => hnodup.2.2 _ (List.mem_map_of_mem hvisit) _ hmem rfl

/-- The call of a thread is the one it wants to make. -/
theorem next?_of_call (h : Orderly first idle history state)
    (hvisit : visit ∈ state.monitor.calls) (hworker : state.workers[visit.token]? = some worker) :
    worker.next? = some visit.request := by
  rcases h.calls visit hvisit with ⟨hasks, -⟩ | ⟨hlast, -⟩
  · obtain ⟨same, hsame, hnext⟩ := State.exists_worker_of_asks hasks
    obtain rfl : worker = same := Option.some.inj (hworker.symm.trans hsame)
    exact hnext
  · have hlt := (List.getElem?_eq_some_iff.mp hworker).1
    rw [h.length_eq] at hlt
    omega

/-- A call that is not one of a thread closes the queue. -/
theorem close_of_call (h : Orderly first idle history state)
    (hvisit : visit ∈ state.monitor.calls) (hlength : first.length ≤ visit.token) :
    visit.request = .close := by
  rcases h.calls visit hvisit with ⟨hasks, -⟩ | ⟨-, hclose, -⟩
  · have hlt := State.lt_of_asks hasks
    rw [h.length_eq] at hlt
    exact absurd hlt (Nat.not_lt.mpr hlength)
  · exact hclose

/-- A thread whose call has ended has one call more to take note of. -/
theorem ends (h : Orderly first idle history state) {outcome : Outcome}
    (hreturned : monitor.returned = state.monitor.returned ++ [(visit.token, outcome)])
    (hcalls : state.monitor.calls.Perm (visit.fresh :: monitor.calls)) :
    Orderly first idle (history ++ [(visit, outcome)]) { state with monitor } := by
  have hvisit : visit.fresh ∈ state.monitor.calls := hcalls.mem_iff.mpr List.mem_cons_self
  have hbusy := h.not_mem_returned hvisit
  have htokens : state.tokens.Perm ({ state with monitor } : State).tokens := by
    rw [State.tokens, State.tokens, hreturned, List.map_append, ← List.append_assoc]
    refine ((hcalls.map Visit.token).append_right _).trans ?_
    exact (List.perm_append_singleton _ _).symm
  have hall := htokens.append_left idle
  refine ⟨h.length_eq, hall.nodup_iff.mp h.nodup, ?_, ?_, ?_, h.sent, ?_, ?_⟩
  · exact fun other hother => h.calls other (hcalls.mem_iff.mpr (List.mem_cons_of_mem _ hother))
  · intro call hcall
    rw [hreturned] at hcall
    rcases List.mem_append.mp hcall with hold | hnew
    · exact h.returned call hold
    · rw [List.mem_singleton.mp hnew]
      rcases h.calls visit.fresh hvisit with ⟨hasks, -⟩ | ⟨htoken, -, hclosed⟩
      · exact .inl (h.length_eq ▸ State.lt_of_asks hasks)
      · exact .inr ⟨htoken, hclosed⟩
  · exact fun token request hasks => hall.mem_iff.mp (h.present token request hasks)
  · intro token worker hworker
    obtain ⟨start, hstart, hinformed⟩ := h.informed token worker hworker
    refine ⟨start, hstart, ?_⟩
    rw [hreturned]
    by_cases htoken : visit.token = token
    · subst htoken
      rw [callsOf_append_self rfl]
      have hnext := h.next?_of_call hvisit hworker
      exact hinformed.ends hbusy hnext outcome
    · rw [callsOf_append_of_ne htoken]
      exact hinformed.ends_of_ne htoken
  · intro ending hending hlength
    rcases List.mem_append.mp hending with hold | hnew
    · exact h.known ending hold hlength
    · rw [List.mem_singleton.mp hnew] at hlength ⊢
      have hclose := h.close_of_call hvisit hlength
      exact hclose

/-- Nobody who is done with sending starts again. -/
theorem isSending_hear {outcome : Outcome} (h : worker.isSending = false) :
    (worker.hear outcome).isSending = false := by
  have hlearn (result : Except Refusal Reply) : (worker.learn result).isSending = false := by
    cases worker with
    | sender pending results =>
        obtain rfl : pending = [] := by simpa [Worker.isSending] using h
        rfl
    | receiver taken final =>
        rw [Worker.learn]
        split <;> rfl
  rw [Worker.hear]
  split
  · exact hlearn _
  · exact hlearn _
  · exact h

/-- A thread that takes note of the end of its call is idle instead of waiting. -/
theorem tokens_accept_perm {call : Nat × Outcome} {returned : List (Nat × Outcome)}
    (hreturned : state.monitor.returned.Perm (call :: returned)) :
    (idle ++ state.tokens).Perm
      (call.1 :: idle ++ ((state.withReturned returned).accept call).tokens) := by
  have hfirst := (hreturned.map Prod.fst).append_left (state.monitor.calls.map Visit.token)
  have hmonitor : ((state.withReturned returned).accept call).monitor =
      { state.monitor with returned } := State.monitor_accept _ _
  refine (hfirst.append_left idle).trans ?_
  rw [List.map_cons, ← List.append_assoc, List.cons_append, State.tokens, hmonitor,
    ← List.append_assoc]
  exact List.perm_middle

/-- A thread that takes note of the end of its call knows what it has heard, and is idle. -/
theorem accept (h : Orderly first idle history state) {call : Nat × Outcome}
    {returned : List (Nat × Outcome)} (hreturned : state.monitor.returned.Perm (call :: returned)) :
    Orderly first (call.1 :: idle) history ((state.withReturned returned).accept call) := by
  have hmonitor : ((state.withReturned returned).accept call).monitor =
      { state.monitor with returned } := State.monitor_accept _ _
  have hclosed : ((state.withReturned returned).accept call).closed = state.closed :=
    State.closed_accept _ _
  have hasks {token : Nat} (htoken : token ≠ call.1) :
      ((state.withReturned returned).accept call).asks token = state.asks token :=
    State.asks_accept_of_ne htoken
  have hperm : (idle ++ state.tokens).Perm
      (call.1 :: idle ++ ((state.withReturned returned).accept call).tokens) :=
    tokens_accept_perm hreturned
  have hnodup := hperm.nodup_iff.mp h.nodup
  have hfresh : call.1 ∉ idle ++ ((state.withReturned returned).accept call).tokens :=
    (List.nodup_cons.mp hnodup).1
  rw [State.tokens, hmonitor, List.mem_append, List.mem_append, not_or, not_or] at hfresh
  obtain ⟨-, hnocall, honce⟩ := hfresh
  refine ⟨?_, hnodup, ?_, ?_, ?_, ?_, ?_, h.known⟩
  · rw [State.accept_eq]
    exact (List.length_modify ..).trans h.length_eq
  · rw [hmonitor, hclosed]
    intro visit hvisit
    have htoken : visit.token ≠ call.1 := by
      intro heq
      exact hnocall (heq ▸ List.mem_map_of_mem hvisit)
    rw [hasks htoken]
    exact h.calls visit hvisit
  · rw [hmonitor, hclosed]
    intro other hother
    exact h.returned other (hreturned.mem_iff.mpr (List.mem_cons_of_mem _ hother))
  · intro token request htoken
    by_cases heq : token = call.1
    · rw [heq]
      exact List.mem_cons_self
    · rw [hasks heq] at htoken
      exact hperm.mem_iff.mp (h.present token request htoken)
  · rw [hclosed]
    intro hclosed' worker hworker
    obtain ⟨token, htoken⟩ := List.mem_iff_getElem?.mp hworker
    obtain ⟨old, hold, rfl⟩ := State.exists_worker_of_accept htoken
    have hsent := h.sent hclosed' old (List.mem_of_getElem? hold)
    split
    · exact isSending_hear hsent
    · exact hsent
  · rw [hmonitor]
    intro token worker hworker
    obtain ⟨old, hold, rfl⟩ := State.exists_worker_of_accept hworker
    obtain ⟨start, hstart, hinformed⟩ := h.informed token old hold
    refine ⟨start, hstart, ?_⟩
    by_cases heq : call.1 = token
    · subst heq
      rw [if_pos rfl]
      exact hinformed.accept hreturned honce
    · rw [if_neg heq]
      exact hinformed.accept_of_ne hreturned heq

/-- An idle thread makes its next call, unless it has ended. -/
theorem resume (h : Orderly first (token :: idle) history state) :
    Orderly first idle history (state.resume token) := by
  cases hasks : state.asks token with
  | none =>
      rw [State.resume_of_none hasks]
      refine ⟨h.length_eq, (List.nodup_cons.mp h.nodup).2, h.calls, h.returned, ?_, h.sent,
        h.informed, h.known⟩
      intro other request hother
      rcases List.mem_cons.mp (h.present other request hother) with rfl | hmem
      · simp [hasks] at hother
      · exact hmem
  | some request =>
      rw [State.resume_of_some hasks]
      let visit : Visit := { token, request, deadline := .never }
      have hcalls : (state.monitor.arrive visit).calls.Perm (visit :: state.monitor.calls) :=
        Monitor.calls_arrive rfl
      have hperm := (((hcalls.map Visit.token).append_right
        (state.monitor.returned.map Prod.fst)).append_left idle).trans List.perm_middle
      refine ⟨h.length_eq, hperm.nodup_iff.mpr h.nodup, ?_, h.returned, ?_, h.sent, h.informed,
        h.known⟩
      · intro visit hvisit
        rcases List.mem_cons.mp (hcalls.mem_iff.mp hvisit) with rfl | hold
        · exact .inl ⟨hasks, rfl⟩
        · exact h.calls visit hold
      · exact fun other request hother => hperm.mem_iff.mpr (h.present other request hother)

/-- Idle threads make their next calls. -/
theorem resumeAll {tokens : List Nat} (h : Orderly first (tokens ++ idle) history state) :
    Orderly first idle history (tokens.foldl State.resume state) := by
  induction tokens generalizing state with
  | nil => exact h
  | cons token tokens ih => exact ih h.resume

/-- Closing the queue is a call of nobody. -/
theorem close (h : Orderly first idle history state) (hidle : ∀ token ∈ idle, token < first.length)
    (hopen : state.closed = false) (hsent : state.workers.any Worker.isSending = false) :
    Orderly first idle history state.close := by
  let closer : Visit :=
    { token := state.workers.length, request := .close, deadline := .immediate }
  have hcalls : (state.monitor.arrive closer).calls.Perm (closer :: state.monitor.calls) :=
    Monitor.calls_arrive rfl
  have hperm := (((hcalls.map Visit.token).append_right
    (state.monitor.returned.map Prod.fst)).append_left idle).trans List.perm_middle
  have hnobody : state.workers.length ∉ idle ++ state.tokens := by
    rw [h.length_eq, State.tokens, List.mem_append, List.mem_append]
    rintro (hmem | hmem | hmem)
    · exact Nat.lt_irrefl _ (hidle _ hmem)
    · obtain ⟨visit, hvisit, htoken⟩ := List.mem_map.mp hmem
      rcases h.calls visit hvisit with ⟨hasks, -⟩ | ⟨-, -, hclosed⟩
      · have hlt := State.lt_of_asks hasks
        rw [h.length_eq] at hlt
        omega
      · simp [hopen] at hclosed
    · obtain ⟨call, hcall, htoken⟩ := List.mem_map.mp hmem
      rcases h.returned call hcall with hlt | ⟨-, hclosed⟩
      · omega
      · simp [hopen] at hclosed
  refine ⟨h.length_eq, hperm.nodup_iff.mpr (List.nodup_cons.mpr ⟨hnobody, h.nodup⟩), ?_, ?_, ?_, ?_,
    h.informed, h.known⟩
  · intro visit hvisit
    rcases List.mem_cons.mp (hcalls.mem_iff.mp hvisit) with rfl | hold
    · exact .inr ⟨h.length_eq, rfl, rfl⟩
    · refine (h.calls visit hold).imp_right fun hcloser => ?_
      exact ⟨hcloser.1, hcloser.2.1, rfl⟩
  · intro call hcall
    exact (h.returned call hcall).imp_right fun hcloser => ⟨hcloser.1, rfl⟩
  · intro token request hasks
    exact hperm.mem_iff.mpr (List.mem_cons_of_mem _ (h.present token request hasks))
  · intro _ worker hworker
    simpa using List.any_eq_false.mp hsent worker hworker

/-- **The threads at their start.** They have made their first calls. -/
theorem start (queue : Queue) (receivers : Nat) (messages : List (List Message)) :
    Orderly (threads receivers messages) [] [] (start queue receivers messages) := by
  refine resumeAll ?_
  rw [List.append_nil]
  refine ⟨rfl, ?_, ?_, ?_, ?_, ?_, ?_, ?_⟩
  · simpa [State.tokens, Monitor.calls] using List.nodup_range
  · simp [Monitor.calls]
  · simp
  · intro token request hasks
    have hlt := State.lt_of_asks hasks
    exact List.mem_append_left _ (List.mem_range.mpr hlt)
  · simp
  · intro token worker hworker
    exact ⟨worker, hworker, .heard .refl (by simp)⟩
  · simp

/-- **A step keeps the threads orderly.** -/
theorem step (h : Orderly first [] history state) {ended : List (Visit × Outcome)} {live : Live}
    (hstep : Step state ended after) (hqueue : state.monitor.queue = .created live)
    (hlive : live.contents.Consistent live.config) :
    Orderly first [] (history ++ ended) after := by
  obtain ⟨rfl, monitor, rfl, -, hreturned, hcalls⟩ |
    ⟨visit, now, outcome, owed, log, live', monitor, -, rfl, rfl, -, hreturned, hcalls⟩ |
    ⟨rfl, call, returned, hreturned, rfl⟩ | ⟨rfl, hopen, hsent, rfl⟩ := hstep.cases hqueue hlive
  · rw [List.append_nil]
    exact h.quiet hreturned hcalls
  · exact h.ends hreturned hcalls
  · rw [List.append_nil]
    exact (h.accept hreturned).resume
  · rw [List.append_nil]
    exact h.close (by simp) hopen hsent

end Orderly

end StableQueue.Pipeline
