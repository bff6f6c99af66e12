import StableQueue.Proofs.Queue.Allocation
import StableQueue.Session.Step

/-!
# The Log Is Never Read

Whatever a session does, it only adds records to the log. What its steps report, which queues there
are and what becomes of them does not depend on the records written before. So a session goes on in
the same way whatever its log held at some time, and in the end the log holds that and, after it,
the records that have been written since.

`Session.preceded` puts records in front of all others. Every operation of a session commutes with
it.

## Main results

* `Queue.runOn_create_preceded`: creating a queue does not read the log.
* `Session.step_preceded`: no step does.
* `Session.stepAll_emitAll`: a session with and without some records in its log.
-/

namespace StableQueue

variable {earlier : List Log.Event}

namespace Host

/-- The same host, with records in its log that are older than all others. -/
def preceded (host : Host) (earlier : List Log.Event) : Host :=
  { host with log := earlier ++ host.log }

variable {host : Host}

/-- Older records do not touch the registry. -/
@[simp] theorem registry_preceded : (host.preceded earlier).registry = host.registry := rfl

/-- Writing a record does not read the log. -/
@[simp] theorem emit_preceded (event : Log.Event) :
    (host.preceded earlier).emit event = (host.emit event).preceded earlier := by
  simp [emit, preceded]

/-- Writing several records does not read the log. -/
@[simp] theorem emitAll_preceded (events : List Log.Event) :
    (host.preceded earlier).emitAll events = (host.emitAll events).preceded earlier := by
  simp [emitAll, preceded]

/-- Entering a name does not read the log. -/
theorem register_preceded (name : String) :
    (host.preceded earlier).register name =
      ((host.register name).1, (host.register name).2.preceded earlier) := by
  simp [register, emit, preceded]

/-- Taking a number out does not read the log. -/
theorem unregister_preceded (id : Nat) :
    (host.preceded earlier).unregister id = (host.unregister id).preceded earlier := by
  rw [unregister, unregister, registry_preceded]
  split
  · rfl
  · simp [emit, preceded]

end Host

/-! ### Queues -/

/-- Retiring a queue does not read the log. -/
theorem Queue.retire_preceded (queue : Queue) (host : Host) :
    queue.retire (host.preceded earlier) = (queue.retire host).preceded earlier := by
  cases queue with
  | uncreated => rfl
  | created live => exact Host.unregister_preceded live.id

/-- **Creating a queue does not read the log.** -/
theorem Queue.runOn_create_preceded (queue : Queue) (config : Config) (host : Host) :
    (queue.create config).runOn (host.preceded earlier) =
      (((queue.create config).runOn host).1,
        ((queue.create config).runOn host).2.preceded earlier) := by
  cases queue with
  | created live => rfl
  | uncreated =>
      cases hfailure : config.failure? with
      | some failure => rw [create_of_failure? hfailure, create_of_failure? hfailure]
      | none =>
          obtain ⟨contents, -, hcreate⟩ := create_of_fits hfailure
          simp only [hcreate, Host.registry_preceded, Host.register_preceded, Host.emit_preceded]

/-- Building a queue for a foreign caller does not read the log. -/
theorem Foreign.runOn_build_preceded (name : Option ByteArray) (depth messageSize : Nat)
    (host : Host) :
    (build name depth messageSize).runOn (host.preceded earlier) =
      (((build name depth messageSize).runOn host).1,
        ((build name depth messageSize).runOn host).2.preceded earlier) := by
  have hcreate : Queue.build (config name depth messageSize) (host.preceded earlier) =
      ((Queue.build (config name depth messageSize) host).1,
        (Queue.build (config name depth messageSize) host).2.preceded earlier) :=
    Queue.runOn_create_preceded .uncreated (config name depth messageSize) host
  simp only [Action.runOn, build, hcreate]
  rcases Queue.build (config name depth messageSize) host with ⟨(cause | fault) | queue, after⟩
  · simp
  · rfl
  · rfl

namespace Session

/-- The same session, with records in its log that are older than all others. -/
def preceded (session : Session) (earlier : List Log.Event) : Session :=
  { session with host := session.host.preceded earlier }

/-! ### Holding queues -/

/-- Changing a queue does not read the log. -/
@[simp] theorem changeMonitor_preceded (session : Session) (key : Nat)
    (change : Monitor → Monitor) : (session.preceded earlier).changeMonitor key change =
      (session.changeMonitor key change).preceded earlier := rfl

/-- Writing records does not read the log. -/
@[simp] theorem emitAll_preceded (session : Session) (events : List Log.Event) :
    (session.preceded earlier).emitAll events = (session.emitAll events).preceded earlier := by
  simp [emitAll, preceded]

/-- Letting go of a queue does not read the log. -/
@[simp] theorem release_preceded (session : Session) (key : Nat) :
    (session.preceded earlier).release key = (session.release key).preceded earlier := by
  have hheld : (session.preceded earlier).isHeld key = session.isHeld key := rfl
  have hmonitor : (session.preceded earlier).monitor? key = session.monitor? key := rfl
  rw [release, release, hheld, hmonitor]
  split
  · rfl
  · split
    · rfl
    · simp [preceded, Queue.retire_preceded]

/-- Letting go of a queue, if there is one, does not read the log. -/
@[simp] theorem release?_preceded (session : Session) (key? : Option Nat) :
    (session.preceded earlier).release? key? = (session.release? key?).preceded earlier := by
  cases key? with
  | none => rfl
  | some key => exact release_preceded session key

/-- Holding a queue by an object does not read the log. -/
@[simp] theorem hold_preceded (session : Session) (target : Target) (key : Nat) :
    (session.preceded earlier).hold target key = (session.hold target key).preceded earlier := by
  cases target with
  | queue name =>
      exact release?_preceded { session with queueNames := session.queueNames.assign name key } _
  | producer name =>
      exact release?_preceded { session with producers := session.producers.assign name key } _
  | consumer name =>
      exact release?_preceded { session with consumers := session.consumers.assign name key } _

/-- Letting go of an object does not read the log. -/
@[simp] theorem drop_preceded (session : Session) (target : Target) :
    (session.preceded earlier).drop target = (session.drop target).preceded earlier := by
  cases target with
  | queue name =>
      exact release?_preceded { session with queueNames := session.queueNames.without name } _
  | producer name =>
      exact release?_preceded { session with producers := session.producers.without name } _
  | consumer name =>
      exact release?_preceded { session with consumers := session.consumers.without name } _

/-- Holding a queue by a foreign handle does not read the log. -/
@[simp] theorem holdHandle_preceded (session : Session) (name : String) (key : Nat) :
    (session.preceded earlier).holdHandle name key =
      (session.holdHandle name key).preceded earlier :=
  release?_preceded { session with handles := session.handles.assign name key } _

/-- Letting go of a foreign handle does not read the log. -/
@[simp] theorem dropHandle_preceded (session : Session) (name : String) :
    (session.preceded earlier).dropHandle name = (session.dropHandle name).preceded earlier :=
  release?_preceded { session with handles := session.handles.without name } _

/-- Letting go of objects does not read the log. -/
theorem dropAll_preceded (session : Session) (targets : List Target) :
    targets.foldl drop (session.preceded earlier) =
      (targets.foldl drop session).preceded earlier := by
  induction targets generalizing session with
  | nil => rfl
  | cons target targets ih =>
      rw [List.foldl_cons, drop_preceded, ih]
      rfl

/-- Holding a queue by several objects does not read the log. -/
theorem holdAll_preceded (session : Session) (targets : List Target) (key : Nat) :
    targets.foldl (fun session target => session.hold target key) (session.preceded earlier) =
      (targets.foldl (fun session target => session.hold target key) session).preceded earlier := by
  induction targets generalizing session with
  | nil => rfl
  | cons target targets ih =>
      rw [List.foldl_cons, hold_preceded, ih]
      rfl

/-! ### Calls, threads and time -/

/-- Collecting the calls that are over does not read the log. -/
@[simp] theorem collect_preceded (session : Session) (key : Nat) :
    (session.preceded earlier).collect key = (session.collect key).preceded earlier := by
  have hmonitor : (session.preceded earlier).monitor? key = session.monitor? key := rfl
  rw [collect, collect, hmonitor]
  split
  · rfl
  · rw [← release_preceded, ← emitAll_preceded]
    rfl

/-- What happens at a queue does not read the log. -/
@[simp] theorem happen_preceded (session : Session) (key : Nat) (event : Monitor → Monitor) :
    (session.preceded earlier).happen key event = (session.happen key event).preceded earlier :=
  collect_preceded (session.changeMonitor key fun monitor => (event monitor).settle session.now) key

/-- The passing of time does not read the log. -/
theorem passTime?_preceded (session : Session) (limit : Option Nat) :
    (session.preceded earlier).passTime? limit =
      (session.passTime? limit).map (·.preceded earlier) := by
  have hnext : (session.preceded earlier).nextToWake? = session.nextToWake? := rfl
  rw [passTime?, passTime?, hnext]
  split
  · rfl
  · split
    · rfl
    · rename_i time key token _ _
      exact congrArg some
        (happen_preceded { session with now := max session.now time } key (·.expire token))

/-- Waiting does not read the log, if what is waited for does not. -/
theorem waitFor_preceded {finished : Session → Bool}
    (hfinished : ∀ session : Session, finished (session.preceded earlier) = finished session)
    (fuel : Nat) (session : Session) :
    waitFor finished fuel (session.preceded earlier) =
      (waitFor finished fuel session).preceded earlier := by
  induction fuel generalizing session with
  | zero => rfl
  | succ fuel ih =>
      rw [waitFor, waitFor, hfinished, passTime?_preceded]
      split
      · rfl
      · cases session.passTime? none with
        | none => rfl
        | some session => exact ih session

/-- Sleeping does not read the log. -/
theorem sleepUntil_preceded (limit fuel : Nat) (session : Session) :
    sleepUntil limit fuel (session.preceded earlier) =
      (sleepUntil limit fuel session).preceded earlier := by
  induction fuel generalizing session with
  | zero => rfl
  | succ fuel ih =>
      rw [sleepUntil, sleepUntil, passTime?_preceded]
      cases session.passTime? (some limit) with
      | none => rfl
      | some session => exact ih session

/-- A call does not read the log. -/
theorem call_preceded (session : Session) (key : Nat) (request : Request) (patience : Patience) :
    (session.preceded earlier).call key request patience =
      ((session.call key request patience).1,
        (session.call key request patience).2.preceded earlier) := by
  have hbusy : (session.preceded earlier).isBusy = session.isBusy := rfl
  have hnow : (session.preceded earlier).now = session.now := rfl
  have hmonitor : (session.preceded earlier).monitor? key = session.monitor? key := rfl
  have hparked (session : Session) :
      (session.preceded earlier).parkedCount = session.parkedCount := rfl
  have hown (session : Session) :
      (session.preceded earlier).ownOutcome? key = session.ownOutcome? key := rfl
  have hwait := @waitFor_preceded earlier (fun session => (session.ownOutcome? key).isSome)
    fun session => congrArg Option.isSome (hown session)
  rw [call, call, hbusy, hnow]
  split
  · simp only [happen_preceded, hparked, hwait, hown, changeMonitor_preceded]
  · rw [hmonitor]
    cases session.monitor? key with
    | none => rfl
    | some monitor =>
        dsimp only
        cases monitor.queue.perform session.now request patience with
        | none => rfl
        | some ended =>
            dsimp only
            rw [changeMonitor_preceded, emitAll_preceded]

/-- Starting a thread does not read the log. -/
theorem start_preceded (session : Session) (name : String) (key : Nat) (target : Target)
    (errand : Errand) :
    (session.preceded earlier).start name key target errand =
      (session.start name key target errand).preceded earlier := by
  have hsleep (session : Session) (duration : Nat) :
      (session.preceded earlier).sleep duration = (session.sleep duration).preceded earlier :=
    sleepUntil_preceded ..
  cases errand with
  | query query =>
      let session := session.disown name
      exact hsleep { session with
        threads := session.threads ++
          [{ name := some name, progress := .done (session.look target query) }] } _
  | task task =>
      let session := session.disown name
      let deadline := task.patience.deadline session.now
      let visit : Visit := { token := session.nextToken, request := task.request, deadline }
      let call : ThreadCall := { token := session.nextToken, key, target, task }
      let calling : Session := { session with
        threads := session.threads ++ [{ name := some name, progress := .calling call }]
        nextToken := session.nextToken + 1 }
      exact (congrArg (·.sleep startingTime) (happen_preceded calling key (·.arrive visit))).trans
        (hsleep _ _)

/-- Waiting for a thread does not read the log. -/
theorem join_preceded (session : Session) (name : String) :
    (session.preceded earlier).join name =
      ((session.join name).1, (session.join name).2.preceded earlier) := by
  have hparked : (session.preceded earlier).parkedCount = session.parkedCount := rfl
  have hthread (session : Session) :
      (session.preceded earlier).thread? name = session.thread? name := rfl
  have hwait := @waitFor_preceded earlier
    (fun session => ((session.thread? name).bind Thread.report?).isSome) fun _ => rfl
  simp only [join, hparked, hwait, hthread]
  rfl

/-- Waiting for several threads does not read the log. -/
theorem joinAll_preceded (session : Session) (names : List String) :
    (session.preceded earlier).joinAll names =
      ((session.joinAll names).1, (session.joinAll names).2.preceded earlier) := by
  induction names generalizing session with
  | nil => rfl
  | cons name names ih =>
      simp only [joinAll, join_preceded, ih]

/-! ### Steps -/

/-- An operation on what the queues share does not read the log, if it does not. -/
theorem onHost_preceded {α : Type} {action : Action Host α}
    (haction : ∀ host : Host, action.runOn (host.preceded earlier) =
      ((action.runOn host).1, (action.runOn host).2.preceded earlier)) (session : Session) :
    (session.preceded earlier).onHost action =
      ((session.onHost action).1, (session.onHost action).2.preceded earlier) := by
  rw [onHost, onHost]
  exact congrArg
    (fun ended : Except Failure α × Host => (ended.1, { session with host := ended.2 }))
    (haction session.host)

/-- Creating the queue of an object does not read the log. -/
theorem create_preceded (session : Session) (key : Nat) (config : Config) :
    (session.preceded earlier).create key config =
      ((session.create key config).1, (session.create key config).2.preceded earlier) := by
  have hmonitor : (session.preceded earlier).monitor? key = session.monitor? key := rfl
  rw [create, create, hmonitor]
  cases session.monitor? key with
  | none => rfl
  | some monitor =>
      dsimp only
      rw [onHost_preceded (Queue.runOn_create_preceded monitor.queue config)]
      rcases session.onHost (monitor.queue.create config) with ⟨_ | queue, after⟩
      · rfl
      · rfl

/-- Building a queue does not read the log. -/
theorem build_preceded (session : Session) (config : Config) (holders : List Target)
    (report : Failure → Report) :
    (session.preceded earlier).build config holders report =
      ((session.build config holders report).1,
        (session.build config holders report).2.preceded earlier) := by
  have hbuild : (session.preceded earlier).onHost (Queue.build config) = _ :=
    onHost_preceded (Queue.runOn_create_preceded .uncreated config) session
  rw [build, build, hbuild, Queue.build]
  rcases session.onHost (Queue.uncreated.create config) with ⟨_ | queue, after⟩
  · rfl
  · exact congrArg (Prod.mk _)
      (holdAll_preceded (after.takeIn queue).2 holders (after.takeIn queue).1)

/-- Building a queue for a foreign caller does not read the log. -/
theorem foreignNew_preceded (session : Session) (handle : String) (name : Option ByteArray)
    (depth messageSize : Nat) :
    (session.preceded earlier).foreignNew handle name depth messageSize =
      ((session.foreignNew handle name depth messageSize).1,
        (session.foreignNew handle name depth messageSize).2.preceded earlier) := by
  rw [foreignNew, foreignNew, onHost_preceded (Foreign.runOn_build_preceded name depth messageSize)]
  rcases session.onHost (Foreign.build name depth messageSize) with ⟨_ | _ | queue, after⟩
  · rfl
  · rfl
  · exact congrArg (Prod.mk _)
      (holdHandle_preceded (after.takeIn queue).2 handle (after.takeIn queue).1)

/-- A call through a foreign handle does not read the log. -/
theorem foreignCall_preceded (session : Session) (handle : String)
    (request : Except Foreign.Status Request) (blocking : Bool) (early : Foreign.Status → Report)
    (late : Except Refusal Reply → ByteArray → Report) :
    (session.preceded earlier).foreignCall handle request blocking early late =
      ((session.foreignCall handle request blocking early late).1,
        (session.foreignCall handle request blocking early late).2.preceded earlier) := by
  have hhandle : (session.preceded earlier).handles = session.handles := rfl
  simp only [foreignCall, hhandle]
  cases session.handles.lookup handle with
  | none => rfl
  | some key =>
      cases request with
      | error status => rfl
      | ok request =>
          dsimp only
          rw [call_preceded]
          rcases session.call key request (Foreign.patience blocking) with ⟨_ | outcome, after⟩
          · rfl
          · dsimp only
            rcases outcome.result with (_ | _) | _ <;> rfl

/-- Doing something with the queue of an object does not read the log, if that does not. -/
theorem withKey_preceded (session : Session) (target : Target)
    {act act' : Nat → Report × Session}
    (hact : ∀ key, act' key = ((act key).1, (act key).2.preceded earlier)) :
    (session.preceded earlier).withKey target act' =
      ((session.withKey target act).1, (session.withKey target act).2.preceded earlier) := by
  have hkey : (session.preceded earlier).key? target = session.key? target := by
    cases target <;> rfl
  rw [withKey, withKey, hkey]
  cases session.key? target with
  | none => rfl
  | some key => exact hact key

/-- Doing something through an object does not read the log. -/
theorem run_preceded (session : Session) (target : Target) (errand : Errand) :
    (session.preceded earlier).run target errand =
      ((session.run target errand).1, (session.run target errand).2.preceded earlier) := by
  cases errand with
  | query query =>
      have hqueue : (session.preceded earlier).queue? target = session.queue? target := by
        cases target <;> rfl
      simp only [run, look, hqueue]
  | task task =>
      refine withKey_preceded session target fun key => ?_
      rw [call_preceded]
      rcases session.call key task.request task.patience with ⟨_ | outcome, after⟩ <;> rfl

/-- **No step reads the log.** -/
theorem step_preceded (session : Session) (command : Command) :
    (session.preceded earlier).step command =
      ((session.step command).1, (session.step command).2.preceded earlier) := by
  cases command with
  | newQueue name =>
      let taken := session.takeIn .uncreated
      exact congrArg (fun after => single (.ok .nothing, after))
        (hold_preceded taken.2 (.queue name) taken.1)
  | create target config =>
      rw [step, step,
        withKey_preceded session target fun key => create_preceded session key config]
      rfl
  | build name config =>
      rw [step, step, build_preceded]
      rfl
  | buildPair producer consumer config =>
      rw [step, step, build_preceded]
      rfl
  | share target newcomer =>
      exact congrArg single (@withKey_preceded earlier session target
        (fun key => (.ok .nothing, session.hold newcomer key)) _
        fun key => congrArg (Prod.mk _) (hold_preceded session newcomer key))
  | drop targets =>
      rw [step, step, dropAll_preceded]
      rfl
  | names => rfl
  | count => rfl
  | register name =>
      exact congrArg (fun registered : Nat × Host =>
        single (.ok (.number registered.1), { session with host := registered.2 }))
        (Host.register_preceded name)
  | unregister id =>
      exact congrArg (fun host => single (.ok .nothing, { session with host }))
        (Host.unregister_preceded id)
  | run target errand =>
      rw [step, step, run_preceded]
      rfl
  | spawn thread target errand =>
      exact congrArg single (@withKey_preceded earlier session target
        (fun key => (.ok .nothing, session.start thread key target errand)) _
        fun key => congrArg (Prod.mk _) (start_preceded session thread key target errand))
  | join threads =>
      simp only [step, joinAll_preceded]
  | foreignNew handle name depth messageSize =>
      rw [step, step, foreignNew_preceded]
      rfl
  | foreignFree handle =>
      rw [step, step, dropHandle_preceded]
      rfl
  | foreignClose handle =>
      rw [step, step, foreignCall_preceded]
      rfl
  | foreignOccupancy handle => rfl
  | foreignCapacity handle => rfl
  | foreignSend handle data len priority blocking =>
      simp only [step, foreignCall_preceded]
      rfl
  | foreignReceive handle lent memory blocking =>
      simp only [step, foreignCall_preceded]
      rfl

/-! ### Any number of steps -/

/-- Steps made one after the other: what they report, and the session after them. -/
def stepAll (session : Session) : List Command → List Result × Session
  | [] => ([], session)
  | command :: commands =>
    let (result, session) := session.step command
    let (results, session) := session.stepAll commands
    (result :: results, session)

/-- No number of steps reads the log. -/
theorem stepAll_preceded (session : Session) (commands : List Command) :
    (session.preceded earlier).stepAll commands =
      ((session.stepAll commands).1, (session.stepAll commands).2.preceded earlier) := by
  induction commands generalizing session with
  | nil => rfl
  | cons command commands ih => simp only [stepAll, step_preceded, ih]

/-- The same session with nothing in its log. -/
def unrecorded (session : Session) : Session :=
  { session with host := { session.host with log := [] } }

/-- What steps report does not depend on the log, and what they write comes after it. -/
theorem stepAll_eq (session : Session) (commands : List Command) :
    session.stepAll commands = ((session.unrecorded.stepAll commands).1,
      (session.unrecorded.stepAll commands).2.preceded session.host.log) := by
  have hsession : session.unrecorded.preceded session.host.log = session := by
    simp [unrecorded, preceded, Host.preceded]
  rw [← stepAll_preceded, hsession]

/-- **A session with and without some records in its log.** All steps report the same, and in the
end the records are all that makes a difference. -/
theorem stepAll_emitAll (session : Session) (events : List Log.Event) (commands : List Command) :
    ∃ results final, session.stepAll commands = (results, preceded final session.host.log) ∧
      (session.emitAll events).stepAll commands =
        (results, preceded final (session.host.log ++ events)) :=
  ⟨_, _, session.stepAll_eq commands, (session.emitAll events).stepAll_eq commands⟩

end Session

end StableQueue
