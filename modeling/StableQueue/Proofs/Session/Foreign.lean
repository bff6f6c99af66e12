import StableQueue.Proofs.Monitor.Receiving
import StableQueue.Proofs.Session.Answers
import StableQueue.Proofs.Text.Utf8

/-!
# What a Foreign Caller Can Rely On

A foreign caller sees a number and its own memory. It is told less than other callers: one number
stands for several refusals, and only the memory tells a buffer that is too small from an argument
that makes no sense. So every call has to be passed on as it is, and nothing may be written to the
memory of the caller but what is documented.

`Session.Serves` is the documentation of a handle, and `Session.Refuses` that of a missing one. The
queue may be in any state that any number of callers can bring it to, and threads may be at it. In
that case others come to the queue before and after the last pass of a call; `Session.Meets` is
about this pass.

## Main results

* `Live.Turn.received_after`: what the end of a pass leaves in the memory of a receiver.
* `Session.passesOn_foreignCall`: a call through a handle is the call itself.
* `Session.foreign_simulates`: the documentation holds of every handle of every session.
-/

namespace StableQueue

/-! ### The documentation -/

namespace Foreign

/-- The number that is returned for the end of a call. -/
def documentedCode : Except Refusal Reply → Int
  | .ok _ => 0
  | .error .full => -1
  | .error .empty => -2
  | .error (.oversized ..) => -3
  | .error .uninitialized => -4
  | .error .closed => -5
  | .error _ => -6

/-- The memory of a receiver that has got a message. Of the buffer only the front has changed. -/
def Memory.holding (memory : Memory) (lent : Lent) (message : Message) : Memory where
  length := message.payload.size
  priority := if lent.priority then message.priority else memory.priority
  buffer := message.payload ++ memory.buffer.extract message.payload.size memory.buffer.size

/-- What a receiver finds in its memory, given the queue as the last pass of its call found it, and
how that pass has ended. -/
inductive Received (live : Live) (lent : Lent) (memory : Memory) :
    Except Refusal Reply → Memory → Prop
  /-- The first message of the queue has been received. -/
  | message {root : Entry} (hroot : live.contents.heap.peekMax = some root)
      (hroom : (live.contents.message root).payload.size ≤ memory.buffer.size) :
      Received live lent memory (.ok (.filled (live.contents.message root).header))
        (memory.holding lent (live.contents.message root))
  /-- The first message of the queue does not fit. Only its length is stored. -/
  | tooSmall {root : Entry} (hroot : live.contents.heap.peekMax = some root)
      (hroom : memory.buffer.size < (live.contents.message root).payload.size) :
      Received live lent memory
        (.error (.bufferTooSmall (live.contents.message root).payload.size memory.buffer.size))
        { memory with length := (live.contents.message root).payload.size }
  /-- For every other refusal nothing is stored. -/
  | refused {cause : Refusal} (hcause : ∀ len capacity, cause ≠ .bufferTooSmall len capacity) :
      Received live lent memory (.error cause) memory

/-- What a caller is told, given the outcome of the call that has been passed on. -/
inductive Told (answers : Except Refusal Reply → ByteArray → Answer → Prop) :
    Option Outcome → Report → Prop
  /-- The call has been carried out. -/
  | carriedOut {reply : Reply} {buffer : ByteArray} {answer : Answer}
      (hanswer : answers (.ok reply) buffer answer) :
      Told answers (some ⟨.ok reply, buffer⟩) (.ok answer)
  /-- The call has been refused. -/
  | refused {cause : Refusal} {buffer : ByteArray} {answer : Answer}
      (hanswer : answers (.error cause) buffer answer) :
      Told answers (some ⟨.error (.refused cause), buffer⟩) (.ok answer)
  /-- The call has been aborted. -/
  | aborted {fault : Fault} {buffer : ByteArray} :
      Told answers (some ⟨.error (.faulted fault), buffer⟩) (.error (.faulted fault))
  /-- The call never returns. -/
  | endless : Told answers none (.error .neverReturns)

end Foreign

namespace Session

open Foreign

/-- A step makes this call and nothing else: it leaves the session as the call does, and the caller
is told what the call has come to. -/
def PassesOn (session : Session) (key : Nat) (request : Request) (blocking : Bool)
    (command : Command) (answers : Except Refusal Reply → ByteArray → Answer → Prop) : Prop :=
  ∃ report,
    session.step command = (.single report,
      (session.call key request (if blocking then .unlimited else .impatient)).2) ∧
    Told answers (session.call key request (if blocking then .unlimited else .impatient)).1 report

/-- The answer is the number of a status. -/
def IsStatus (result : Except Refusal Reply) (_ : ByteArray) (answer : Answer) : Prop :=
  ∃ status, answer = .status status ∧ status.code = documentedCode result

/-- The answer is the number of a status, and the memory of the caller, whose buffer is the one that
the call has left. -/
def IsReceived (live : Live) (lent : Lent) (memory : Memory) (result : Except Refusal Reply)
    (buffer : ByteArray) (answer : Answer) : Prop :=
  ∃ status after, answer = .foreignMessage status after ∧ status.code = documentedCode result ∧
    Received live lent memory result after ∧ after.buffer = buffer

/-- The last pass of a call meets the queue in the state `live`. Before the call the queue was in
the state `start`. -/
structure Meets (session : Session) (key : Nat) (request : Request) (patience : Patience)
    (start live : Live) : Prop where
  /-- It is the same queue. -/
  same : live.id = start.id ∧ live.config = start.config
  /-- The callers who have come before have brought the queue to this state. -/
  reaches : start.Reaches live
  /-- If no thread is at a queue, nobody has come before. -/
  alone : session.isBusy = false → live = start
  /-- If the call returns, this pass has ended it. The callers who come afterwards bring the queue
  from the state in which the pass leaves it to the one in which the call does. -/
  passes (outcome : Outcome) : (session.call key request patience).1 = some outcome →
    ∃ live' finish monitor, live.Passes request outcome live' ∧ live'.Reaches finish ∧
      (session.call key request patience).2.monitor? key = some monitor ∧
      monitor.queue = .created finish

/-- What a caller can rely on who has no handle: nothing happens, neither in the session nor in the
memory of the caller. -/
structure Refuses (session : Session) (handle : String) : Prop where
  /-- Nothing is sent. -/
  send (data : Option ByteArray) (len : Nat) (priority : Int) (blocking : Bool) :
    ∃ status, status.code = -4 ∧
      session.step (.foreignSend handle data len priority blocking) =
        (.single (.ok (.status status)), session)
  /-- Nothing is closed. -/
  close : ∃ status, status.code = -4 ∧
    session.step (.foreignClose handle) = (.single (.ok (.status status)), session)
  /-- Nothing is received. -/
  receive (lent : Lent) (memory : Memory) (blocking : Bool) :
    ∃ status, status.code = -4 ∧
      session.step (.foreignReceive handle lent memory blocking) =
        (.single (.ok (.foreignMessage status memory)), session)
  /-- Nothing is queued. -/
  occupancy : session.step (.foreignOccupancy handle) = (.single (.ok (.number 0)), session)
  /-- Nothing can be queued. -/
  capacity : session.step (.foreignCapacity handle) = (.single (.ok (.number 0)), session)

/-- What a caller can rely on whose handle holds the queue with this key, which is in the state
`start`. So many messages have been `accepted` so far. -/
structure Serves (session : Session) (handle : String) (key : Nat) (start : Live)
    (accepted : Nat) : Prop where
  /-- Data that are there, or whose length is zero, are sent. -/
  send (data : Option ByteArray) (len : Nat) (priority : Int) (blocking : Bool) :
    data.isSome = true ∨ len = 0 →
      session.PassesOn key (.send ((data.getD .empty).extract 0 len) priority) blocking
        (.foreignSend handle data len priority blocking) IsStatus
  /-- Data that are missing and whose length is not zero make no sense. -/
  sendNothing (len : Nat) (priority : Int) (blocking : Bool) : len ≠ 0 →
    ∃ status, status.code = -6 ∧
      session.step (.foreignSend handle none len priority blocking) =
        (.single (.ok (.status status)), session)
  /-- The queue is closed. -/
  close : session.PassesOn key .close false (.foreignClose handle) IsStatus
  /-- A message is received if there is a place for its length, and a buffer or no need for one. -/
  receive (lent : Lent) (memory : Memory) (blocking : Bool) : lent.length = true →
    lent.buffer = true ∨ memory.buffer.size = 0 →
      ∃ live, session.Meets key (.receiveInto memory.buffer)
          (if blocking then .unlimited else .impatient) start live ∧
        session.PassesOn key (.receiveInto memory.buffer) blocking
          (.foreignReceive handle lent memory blocking) (IsReceived live lent memory)
  /-- Without a place for the length, or without a buffer that is said to have a size, receiving
  makes no sense. -/
  receiveNowhere (lent : Lent) (memory : Memory) (blocking : Bool) :
    lent.length = false ∨ (lent.buffer = false ∧ memory.buffer.size ≠ 0) →
      ∃ status, status.code = -6 ∧
        session.step (.foreignReceive handle lent memory blocking) =
          (.single (.ok (.foreignMessage status memory)), session)
  /-- If no thread is at a queue, the call is that of a caller who is alone with the queue. -/
  alone (request : Request) (patience : Patience) : session.isBusy = false →
    (∀ outcome log queue,
      (Queue.created start).perform session.now request patience = some (outcome, log, queue) →
        session.call key request patience = (some outcome,
          (session.changeMonitor key fun monitor => { monitor with queue }).emitAll log)) ∧
    ((Queue.created start).perform session.now request patience = none →
      session.call key request patience = (none, session))
  /-- The same call through an object that holds the same queue leaves the session in the same
  state. -/
  sameThroughObject (target : Target) (task : Task) : session.key? target = some key →
    (session.step (.run target (.task task))).2 = (session.call key task.request task.patience).2
  /-- Who has been told the length of a message that did not fit, and tries again with a buffer of
  that size, receives the message, if nobody else is at a queue. -/
  retry (lent lent' : Lent) (memory memory' after : Memory) (status : Status)
      (blocking blocking' : Bool) : session.isBusy = false → accepted < 2 ^ 63 →
    (session.step (.foreignReceive handle lent memory blocking)).1 =
      .single (.ok (.foreignMessage status after)) →
    status.code = -6 → lent.length = true → lent.buffer = true ∨ memory.buffer.size = 0 →
    lent'.length = true → lent'.buffer = true → after.length ≤ memory'.buffer.size →
      ∃ root, start.contents.heap.peekMax = some root ∧
        after.length = (start.contents.message root).payload.size ∧
        ((session.step (.foreignReceive handle lent memory blocking)).2.step
          (.foreignReceive handle lent' memory' blocking')).1 =
            .single (.ok (.foreignMessage .ok
              (memory'.holding lent' (start.contents.message root))))

end Session

/-! ### The end of a call -/

/-- The numbers that are returned are the documented ones. -/
theorem Foreign.code_status (result : Except Refusal Reply) :
    (Foreign.status result).code = documentedCode result := by
  cases result with
  | ok reply => rfl
  | error cause => cases cause <;> rfl

/-- The buffer of the caller is the one that the call has left. -/
theorem Foreign.Memory.buffer_after (memory : Memory) (lent : Lent) (result : Except Refusal Reply)
    (buffer : ByteArray) : (memory.after lent result buffer).buffer = buffer := by
  rw [Memory.after.eq_def]
  split <;> rfl

/-- **What the end of a pass of a receiver leaves in the memory of the caller.** -/
theorem Live.Turn.received_after {live live' : Live} {mayWait : Bool} {memory : Foreign.Memory}
    {outcome : Outcome} {owed : List Signal} {log : List Log.Event}
    (h : live.Turn mayWait (.receiveInto memory.buffer) (.leave outcome owed log) live')
    (lent : Foreign.Lent) {result : Except Refusal Reply}
    (hresult : outcome.result = result.mapError Failure.refused) :
    Foreign.Received live lent memory result (memory.after lent result outcome.buffer) := by
  cases h with
  | received _ hroot hroom _ =>
      cases result with
      | error cause => contradiction
      | ok reply =>
          obtain rfl := Except.ok.inj hresult
          exact .message hroot (by simpa [Request.hasRoom] using hroom)
  | receiveAborted _ _ _ _ => cases result <;> simp [Except.mapError] at hresult
  | tooSmall hroot hroom =>
      cases result with
      | ok reply => contradiction
      | error cause =>
          obtain rfl := Failure.refused.inj (Except.error.inj hresult)
          exact .tooSmall hroot hroom
  | drained _ _ _ =>
      cases result with
      | ok reply => contradiction
      | error cause =>
          obtain rfl := Failure.refused.inj (Except.error.inj hresult)
          exact .refused (by simp)
  | receiveEmpty _ _ _ _ =>
      cases result with
      | ok reply => contradiction
      | error cause =>
          obtain rfl := Failure.refused.inj (Except.error.inj hresult)
          exact .refused (by simp)

namespace Session

variable {session : Session} {handle : String} {key : Nat} {request : Request} {blocking : Bool}

/-- **A call through a handle is the call itself**, and what the caller is told is read off its
outcome. -/
theorem passesOn_foreignCall {command : Command}
    {answers : Except Refusal Reply → ByteArray → Answer → Prop}
    {early : Foreign.Status → Report} {late : Except Refusal Reply → ByteArray → Report}
    (hhandle : session.handles.lookup handle = some key)
    (hstep : session.step command =
      single (session.foreignCall handle (.ok request) blocking early late))
    (hlate : ∀ outcome,
      (session.call key request (if blocking then .unlimited else .impatient)).1 = some outcome →
      ∀ result, outcome.result = result.mapError Failure.refused →
        ∃ answer, late result outcome.buffer = .ok answer ∧ answers result outcome.buffer answer) :
    session.PassesOn key request blocking command answers := by
  rw [PassesOn, hstep, foreignCall.eq_def]
  simp only [hhandle, Foreign.patience]
  generalize session.call key request _ = called at hlate
  obtain ⟨outcome?, after⟩ := called
  cases outcome? with
  | none => exact ⟨_, rfl, .endless⟩
  | some outcome =>
      obtain ⟨result, buffer⟩ := outcome
      cases result with
      | ok reply =>
          obtain ⟨answer, hanswer, hanswers⟩ := hlate _ rfl (.ok reply) rfl
          refine ⟨.ok answer, ?_, .carriedOut hanswers⟩
          rw [← hanswer]
          rfl
      | error failure =>
          cases failure with
          | refused cause =>
              obtain ⟨answer, hanswer, hanswers⟩ := hlate _ rfl (.error cause) rfl
              refine ⟨.ok answer, ?_, .refused hanswers⟩
              rw [← hanswer]
              rfl
          | faulted fault => exact ⟨_, rfl, .aborted⟩

/-- Without a handle nothing happens. -/
theorem refuses_of_lookup_eq_none (hnone : session.handles.lookup handle = none) :
    session.Refuses handle where
  send data len priority blocking :=
    ⟨.uninitialized, rfl, by rw [step, foreignCall.eq_def, hnone]; rfl⟩
  close := ⟨.uninitialized, rfl, by rw [step, foreignCall.eq_def, hnone]; rfl⟩
  receive lent memory blocking :=
    ⟨.uninitialized, rfl, by rw [step, foreignCall.eq_def, hnone]; rfl⟩
  occupancy := by rw [step, foreignQueue?, hnone]; rfl
  capacity := by rw [step, foreignQueue?, hnone]; rfl

/-! ### Handles -/

variable {present : Monitor} {start : Live} {accepted : Nat}

/-- **The last pass of a call meets the queue in some state.** -/
theorem exists_meets (hpresent : session.monitor? key = some present)
    (hqueue : present.queue = .created start) (hstart : start.contents.Consistent start.config)
    (hfree : session.isBusy = true → present.Unattended) (request : Request)
    (patience : Patience) : ∃ live, session.Meets key request patience start live := by
  cases hbusy : session.isBusy with
  | false =>
      refine ⟨start, ⟨rfl, rfl⟩, .refl, fun _ => rfl, fun outcome hcall => ?_⟩
      obtain ⟨finish, hafter, hpass⟩ := passes_of_call hbusy hpresent hqueue hstart hcall
      exact ⟨finish, finish, _, hpass, .refl, hafter, rfl⟩
  | true =>
      have hnot : ¬session.isBusy = false := by simp [hbusy]
      cases hcall : (session.call key request patience).1 with
      | none =>
          refine ⟨start, ⟨rfl, rfl⟩, .refl, fun _ => rfl, fun outcome hother => ?_⟩
          rw [hcall] at hother
          contradiction
      | some outcome =>
          obtain ⟨monitor, finish, hafter, hfinish, live, live', hreaches, hpass, hleft⟩ :=
            ends_of_call hpresent hqueue hstart hfree hcall
          refine ⟨live, hreaches.config_eq, hreaches, (absurd · hnot), fun other hother => ?_⟩
          obtain rfl := Option.some.inj (hcall.symm.trans hother)
          exact ⟨live', finish, monitor, hpass, hleft, hafter, hfinish⟩

/-- Arguments that make sense are passed on to the queue. -/
theorem receive_eq_ok {lent : Foreign.Lent} {memory : Foreign.Memory} (hlength : lent.length = true)
    (hbuffer : lent.buffer = true ∨ memory.buffer.size = 0) :
    Foreign.receive lent memory = .ok (.receiveInto memory.buffer) := by
  rw [Foreign.receive, hlength]
  rcases hbuffer with hbuffer | hbuffer <;> simp [hbuffer]

/-- A call of `receive` that is carried out or refused. -/
theorem step_foreignReceive (hhandle : session.handles.lookup handle = some key)
    {lent : Foreign.Lent} {memory : Foreign.Memory} (hlength : lent.length = true)
    (hbuffer : lent.buffer = true ∨ memory.buffer.size = 0) {outcome : Outcome} {after : Session}
    {result : Except Refusal Reply} (hresult : outcome.result = result.mapError Failure.refused)
    (hcall : session.call key (.receiveInto memory.buffer) (Foreign.patience blocking) =
      (some outcome, after)) :
    session.step (.foreignReceive handle lent memory blocking) =
      (.single (.ok (.foreignMessage (Foreign.status result)
        (memory.after lent result outcome.buffer))), after) := by
  simp only [step, receive_eq_ok hlength hbuffer, foreignCall.eq_def, hhandle, hcall, hresult]
  cases result <;> rfl

/-- Only a refusal has the last of the numbers. -/
theorem exists_refused_of_code (hhandle : session.handles.lookup handle = some key)
    {lent : Foreign.Lent} {memory memory' : Foreign.Memory} {status : Foreign.Status}
    (hlength : lent.length = true) (hbuffer : lent.buffer = true ∨ memory.buffer.size = 0)
    {outcome? : Option Outcome} {after : Session}
    (hcall : session.call key (.receiveInto memory.buffer) (Foreign.patience blocking) =
      (outcome?, after))
    (hstep : (session.step (.foreignReceive handle lent memory blocking)).1 =
      .single (.ok (.foreignMessage status memory')))
    (hcode : status.code = -6) :
    ∃ cause buffer, outcome? = some ⟨.error (.refused cause), buffer⟩ := by
  simp only [step, receive_eq_ok hlength hbuffer, foreignCall.eq_def, hhandle, hcall] at hstep
  rcases outcome? with _ | ⟨(cause | fault) | reply, buffer⟩
  · simp [single] at hstep
  · exact ⟨cause, buffer, rfl⟩
  · simp [single] at hstep
  · simp only [single, Result.single.injEq, Except.ok.injEq, Answer.foreignMessage.injEq] at hstep
    rw [← hstep.1] at hcode
    contradiction

/-- Of the refusals of a receiver, only that of a buffer that is too small has this number. The
message stays. -/
theorem tooSmall_of_code {live live' : Live} {mayWait : Bool} {buffer lentBuffer : ByteArray}
    {cause : Refusal} {owed : List Signal} {log : List Log.Event}
    (h : live.Turn mayWait (.receiveInto buffer)
      (.leave ⟨.error (.refused cause), lentBuffer⟩ owed log) live')
    (hcode : Foreign.documentedCode (.error cause) = -6) :
    live' = live ∧ ∃ root, live.contents.heap.peekMax = some root ∧
      cause = .bufferTooSmall (live.contents.message root).payload.size buffer.size := by
  cases h with
  | tooSmall hroot _ => exact ⟨rfl, _, hroot, rfl⟩
  | drained _ _ _ => simp [Foreign.documentedCode] at hcode
  | receiveEmpty _ _ _ _ => simp [Foreign.documentedCode] at hcode

/-- A message is received by a caller who is alone and has room for it. -/
theorem receive_of_room (hhandle : session.handles.lookup handle = some key)
    (hidle : session.isBusy = false) (hpresent : session.monitor? key = some present)
    (hqueue : present.queue = .created start) (hsound : start.contents.Sound start.config)
    {root : Entry} (hroot : start.contents.heap.peekMax = some root) {lent : Foreign.Lent}
    {memory : Foreign.Memory} (hlength : lent.length = true) (hbuffer : lent.buffer = true)
    (hroom : (start.contents.message root).payload.size ≤ memory.buffer.size) :
    (session.step (.foreignReceive handle lent memory blocking)).1 =
      .single (.ok (.foreignMessage .ok (memory.holding lent (start.contents.message root)))) := by
  have hturn := Live.attempt_turn hsound.toConsistent (.receiveInto memory.buffer)
    (((Foreign.patience blocking).deadline session.now).allows session.now)
  have hattempt := hturn.of_root rfl hroot (by simpa [Request.hasRoom] using hroom)
  rw [if_pos (hsound.afterDequeue hroot).isOrdered] at hattempt
  have hperform : (Queue.created start).perform session.now (.receiveInto memory.buffer)
      (Foreign.patience blocking) = some (_, _, _) := Queue.perform_of_leave hattempt
  rw [← hqueue] at hperform
  have hresult :
      ((Request.receiveInto memory.buffer).delivery (start.contents.message root)).result =
        (Except.ok (.filled (start.contents.message root).header)).mapError Failure.refused := rfl
  rw [step_foreignReceive hhandle hlength (.inl hbuffer) hresult
    (call_of_perform hidle hpresent hperform)]
  rfl

/-- **Who tries again with a larger buffer receives the message.** -/
theorem receive_again (hhandle : session.handles.lookup handle = some key)
    (hidle : session.isBusy = false) (hpresent : session.monitor? key = some present)
    (hqueue : present.queue = .created start) (hsound : start.contents.Sound start.config)
    {lent' : Foreign.Lent} {memory memory' : Foreign.Memory} {after : Session}
    {cause : Refusal} {buffer : ByteArray} {blocking' : Bool}
    (hcall : session.call key (.receiveInto memory.buffer) (Foreign.patience blocking) =
      (some ⟨.error (.refused cause), buffer⟩, after))
    (hcode : Foreign.documentedCode (.error cause) = -6) (hlength' : lent'.length = true)
    (hbuffer' : lent'.buffer = true)
    (hroom : ∀ len capacity, cause = .bufferTooSmall len capacity → len ≤ memory'.buffer.size) :
    ∃ root, start.contents.heap.peekMax = some root ∧
      cause = .bufferTooSmall (start.contents.message root).payload.size memory.buffer.size ∧
      (after.step (.foreignReceive handle lent' memory' blocking')).1 =
        .single (.ok (.foreignMessage .ok
          (memory'.holding lent' (start.contents.message root)))) := by
  obtain ⟨log, queue, hperform⟩ := exists_perform_of_call hidle hpresent (congrArg Prod.fst hcall)
  have hafter := (Prod.mk.inj (hcall.symm.trans (call_of_perform hidle hpresent hperform))).2
  rw [hqueue] at hperform
  obtain ⟨mayWait, owed, live', rfl, hturn⟩ :=
    Queue.exists_turn_of_perform hsound.toConsistent hperform
  obtain ⟨rfl, root, hroot, rfl⟩ := tooSmall_of_code hturn hcode
  refine ⟨root, hroot, rfl, ?_⟩
  have hpresent' : after.monitor? key = some { present with queue := .created live' } := by
    rw [hafter, monitor?_emitAll, monitor?_changeMonitor, if_pos rfl, hpresent]
    rfl
  have hhandle' : after.handles.lookup handle = some key := by
    rw [hafter]
    exact hhandle
  have hidle' : after.isBusy = false := by
    rw [hafter]
    exact hidle
  exact receive_of_room hhandle' hidle' hpresent' rfl hsound hroot hlength' hbuffer'
    (hroom _ _ rfl)

/-- Data that are there, or whose length is zero, are sent. -/
theorem passesOn_send (hhandle : session.handles.lookup handle = some key)
    {data : Option ByteArray} {len : Nat} (hdata : data.isSome = true ∨ len = 0) (priority : Int)
    (blocking : Bool) :
    session.PassesOn key (.send ((data.getD .empty).extract 0 len) priority) blocking
      (.foreignSend handle data len priority blocking) IsStatus := by
  have hsend : Foreign.send data len priority =
      .ok (.send ((data.getD .empty).extract 0 len) priority) := by
    rw [Foreign.send, if_neg]
    rcases hdata with hdata | rfl
    · simp [Option.isNone_eq_false_iff.mpr hdata]
    · simp
  have hstep : session.step (.foreignSend handle data len priority blocking) =
      single (session.foreignCall handle
        (.ok (.send ((data.getD .empty).extract 0 len) priority)) blocking .ofStatus
        fun result _ => .ofStatus (Foreign.status result)) := by
    simp only [step, hsend]
  exact passesOn_foreignCall hhandle hstep fun _ _ result _ =>
    ⟨_, rfl, _, rfl, Foreign.code_status result⟩

/-- A queue is closed. -/
theorem passesOn_close (hhandle : session.handles.lookup handle = some key) :
    session.PassesOn key .close false (.foreignClose handle) IsStatus := by
  have hstep : session.step (.foreignClose handle) =
      single (session.foreignCall handle (.ok .close) false .ofStatus
        fun result _ => .ofStatus (Foreign.status result)) := by
    simp only [step]
  exact passesOn_foreignCall hhandle hstep fun _ _ result _ =>
    ⟨_, rfl, _, rfl, Foreign.code_status result⟩

/-- A message is received if there is a place for its length, and a buffer or no need for one. -/
theorem passesOn_receive (hhandle : session.handles.lookup handle = some key)
    {lent : Foreign.Lent} {memory : Foreign.Memory} {live : Live} (hlength : lent.length = true)
    (hbuffer : lent.buffer = true ∨ memory.buffer.size = 0)
    (hmeets : session.Meets key (.receiveInto memory.buffer)
      (if blocking then .unlimited else .impatient) start live) :
    session.PassesOn key (.receiveInto memory.buffer) blocking
      (.foreignReceive handle lent memory blocking) (IsReceived live lent memory) := by
  have hstep : session.step (.foreignReceive handle lent memory blocking) =
      single (session.foreignCall handle (.ok (.receiveInto memory.buffer)) blocking
        (fun status => .ok (.foreignMessage status memory)) fun result buffer =>
          .ok (.foreignMessage (Foreign.status result) (memory.after lent result buffer))) := by
    simp only [step, receive_eq_ok hlength hbuffer]
  refine passesOn_foreignCall hhandle hstep fun outcome hcall result hresult => ?_
  obtain ⟨_, _, _, ⟨_, _, _, hturn⟩, -⟩ := hmeets.passes outcome hcall
  exact ⟨_, rfl, _, _, rfl, Foreign.code_status result, hturn.received_after lent hresult,
    memory.buffer_after lent result outcome.buffer⟩

/-- Without a place for the length, or without a buffer that is said to have a size, receiving makes
no sense. -/
theorem receive_eq_error {lent : Foreign.Lent} {memory : Foreign.Memory}
    (hnowhere : lent.length = false ∨ (lent.buffer = false ∧ memory.buffer.size ≠ 0)) :
    Foreign.receive lent memory = .error .invalidArgument := by
  rw [Foreign.receive, if_pos]
  rcases hnowhere with hlength | ⟨hbuffer, hsize⟩
  · simp [hlength]
  · simp [hbuffer, hsize]

/-- **Who has been told a length and lends a buffer of that size receives the message.** -/
theorem receive_retry (hhandle : session.handles.lookup handle = some key)
    (hidle : session.isBusy = false) (hpresent : session.monitor? key = some present)
    (hqueue : present.queue = .created start) (hsound : start.contents.Sound start.config)
    {lent lent' : Foreign.Lent} {memory memory' after : Foreign.Memory} {status : Foreign.Status}
    {blocking' : Bool}
    (hstep : (session.step (.foreignReceive handle lent memory blocking)).1 =
      .single (.ok (.foreignMessage status after)))
    (hcode : status.code = -6) (hlength : lent.length = true)
    (hbuffer : lent.buffer = true ∨ memory.buffer.size = 0) (hlength' : lent'.length = true)
    (hbuffer' : lent'.buffer = true) (hroom : after.length ≤ memory'.buffer.size) :
    ∃ root, start.contents.heap.peekMax = some root ∧
      after.length = (start.contents.message root).payload.size ∧
      ((session.step (.foreignReceive handle lent memory blocking)).2.step
        (.foreignReceive handle lent' memory' blocking')).1 =
          .single (.ok (.foreignMessage .ok
            (memory'.holding lent' (start.contents.message root)))) := by
  cases hcall : session.call key (.receiveInto memory.buffer) (Foreign.patience blocking) with
  | mk outcome? session' =>
      obtain ⟨cause, buffer, rfl⟩ :=
        exists_refused_of_code hhandle hlength hbuffer hcall hstep hcode
      have hresult : (Except.error (.refused cause) : Except Failure Reply) =
          (Except.error cause).mapError Failure.refused := rfl
      have hrefused := step_foreignReceive hhandle hlength hbuffer hresult hcall
      rw [hrefused] at hstep
      obtain ⟨rfl, rfl⟩ := Answer.foreignMessage.inj (Except.ok.inj (Result.single.inj hstep))
      rw [Foreign.code_status] at hcode
      obtain ⟨root, hroot, rfl, hagain⟩ := receive_again hhandle hidle hpresent hqueue hsound hcall
        hcode hlength' hbuffer' fun len capacity hcause => by
          rw [hcause] at hroom
          exact hroom
      rw [hrefused]
      exact ⟨root, hroot, rfl, hagain⟩

/-- **The documentation of a handle**, given the queue that it holds. -/
theorem serves (hhandle : session.handles.lookup handle = some key)
    (hpresent : session.monitor? key = some present) (hqueue : present.queue = .created start)
    (hstart : start.contents.Consistent start.config)
    (hsound : accepted < 2 ^ 63 → start.contents.Sound start.config)
    (hfree : session.isBusy = true → present.Unattended) :
    session.Serves handle key start accepted where
  send _ _ priority blocking hdata := passesOn_send hhandle hdata priority blocking
  sendNothing len priority blocking hlen := by
    refine ⟨.invalidArgument, rfl, ?_⟩
    simp [step, Foreign.send, hlen, foreignCall.eq_def, hhandle, single, Report.ofStatus]
  close := passesOn_close hhandle
  receive lent memory blocking hlength hbuffer := by
    obtain ⟨live, hmeets⟩ := exists_meets hpresent hqueue hstart hfree
      (.receiveInto memory.buffer) (if blocking then .unlimited else .impatient)
    exact ⟨live, hmeets, passesOn_receive hhandle hlength hbuffer hmeets⟩
  receiveNowhere lent memory blocking hnowhere := by
    refine ⟨.invalidArgument, rfl, ?_⟩
    simp [step, receive_eq_error hnowhere, foreignCall.eq_def, hhandle, single]
  alone request patience hidle := by
    rw [← hqueue]
    exact ⟨fun _ _ _ hperform => call_of_perform hidle hpresent hperform,
      fun hnone => call_of_perform_eq_none hidle hpresent hnone⟩
  sameThroughObject target task hkey := by
    simp only [step, run, withKey, hkey, single]
    split <;> simp_all
  retry lent lent' memory memory' after status blocking blocking' hidle haccepted hstep hcode
      hlength hbuffer hlength' hbuffer' hroom :=
    receive_retry hhandle hidle hpresent hqueue (hsound haccepted) hstep hcode hlength hbuffer
      hlength' hbuffer' hroom

/-- A foreign caller gets a queue as everybody else does. -/
theorem create_of_foreignBuild {name : Option ByteArray} {depth messageSize : Nat}
    {host host' : Host} {queue : Queue}
    (hnew : (Foreign.build name depth messageSize).runOn host = (.ok (some queue), host')) :
    (Queue.uncreated.create (Foreign.config name depth messageSize)).runOn host =
      (.ok queue, host') := by
  rw [Action.runOn, Foreign.build] at hnew
  change (Queue.build _).runOn host = _
  generalize (Queue.build (Foreign.config name depth messageSize)).runOn host = built at hnew ⊢
  obtain ⟨(cause | fault) | built, after⟩ := built
  · simp at hnew
  · simp at hnew
  · simpa using hnew

/-- **The documentation holds of every handle of every session**, and of missing handles. The handle
has been made for a foreign caller, and since then any number of callers have come to its queue, in
any order. Threads may be at this queue and at others; the caller itself is not, since it makes one
call after the other. -/
theorem foreign_simulates {name : Option ByteArray} {depth messageSize : Nat} {host host' : Host}
    {queue : Queue} {history : List (Visit × Outcome)} {monitor : Monitor}
    (hnew : (Foreign.build name depth messageSize).runOn host = (.ok (some queue), host'))
    (hrun : Monitor.Run { queue } history monitor)
    (hhandle : session.handles.lookup handle = some key)
    (hpresent : session.monitor? key = some present) (hqueue : present.queue = monitor.queue)
    (hfree : session.isBusy = true → present.Unattended) :
    (∀ missing, session.handles.lookup missing = none → session.Refuses missing) ∧
    ∃ start, monitor.queue = .created start ∧
      start.config = Foreign.config name depth messageSize ∧
      session.Serves handle key start (acceptedCount (Monitor.finished history)) := by
  have hcreate := create_of_foreignBuild hnew
  obtain ⟨new, rfl, hconfig, hcontents⟩ := Queue.exists_live_of_create hcreate
  obtain ⟨start, hstart, hconfig', hconsistent⟩ :=
    hrun.exists_live rfl (Contents.Consistent.new hcontents).1
  refine ⟨fun missing hnone => refuses_of_lookup_eq_none hnone, start, hstart,
    hconfig'.trans hconfig, ?_⟩
  refine serves hhandle hpresent (hqueue.trans hstart) hconsistent (fun hfew => ?_) hfree
  exact (hrun.represents_of_queue hcreate hfew hstart).2.sound

/-- A session with one handle. Its queue is the sample, with one message. -/
def sampleForeign : Session where
  queues := [(0, { queue := Monitor.sampleSent.queue })]
  nextKey := 1
  handles := [("h", 0)]

/-- The documentation holds of the handle of the sample, and of one that is missing. -/
theorem foreign_simulates_sampleForeign :
    sampleForeign.Refuses "g" ∧ ∃ start, Monitor.sampleSent.queue = .created start ∧
      start.config = Live.sample.config ∧ sampleForeign.Serves "h" 0 start 1 := by
  have hname : Foreign.nameOf ("sample".toUTF8 ++ .empty) = "sample" :=
    Foreign.nameOf_toUTF8_append (by decide) (by simp)
  have hconfig : Foreign.config (some "sample".toUTF8) 2 2 = Live.sample.config := by
    rw [ByteArray.append_empty] at hname
    rw [Foreign.config, hname]
    rfl
  have hnew : (Foreign.build (some "sample".toUTF8) 2 2).runOn {} =
      (.ok (some (.created .sample)),
        ((Queue.uncreated.create Live.sample.config).runOn {}).2) := by
    rw [Action.runOn, Foreign.build, hconfig]
    rfl
  have hone : acceptedCount (Monitor.finished Monitor.sampleHistory) = 1 := by decide +kernel
  have hfree : ({ queue := Monitor.sampleSent.queue } : Monitor).Unattended :=
    ⟨by simp [Monitor.calls], by simp⟩
  have hhandle : sampleForeign.handles.lookup "h" = some 0 := rfl
  obtain ⟨hmissing, start, hstart, hsame, hserves⟩ :=
    foreign_simulates hnew Monitor.sample_run hhandle rfl rfl fun _ => hfree
  rw [hone] at hserves
  exact ⟨hmissing "g" rfl, start, hstart, hsame.trans hconfig, hserves⟩

end Session

end StableQueue
