import StableQueue.Proofs.Session.Handles
import StableQueue.Proofs.Session.Unread

/-!
# Creation Is All or Nothing

A queue can be created in four ways: as a queue that an object already holds, as a new one, as a new
one behind a producer and a consumer, or for a foreign caller. There are three ways to fail: the
queue has been created before, the configuration is refused, or the storage cannot be allocated.
`Session.Attempt.obstacle?` says which of them, if any, stands in the way of an attempt, and knows
nothing of the order in which the storage is allocated, the number is taken and the name is entered.

An attempt that fails changes nothing, except that a foreign caller finds a record in the log. The
log is never read, so the attempt might as well not have been made. An attempt that succeeds takes
one number, enters one name, and leaves a fresh queue behind.

## Main results

* `Session.Attempt.step_of_obstacle`: an attempt that must fail.
* `Session.Attempt.exists_creates`: an attempt that can succeed.
* `Session.creation_all_or_nothing`: both, and what comes after an attempt that has failed.
-/

namespace StableQueue

/-- A queue as it is when it has just been created. -/
structure Live.Fresh (live : Live) (id : Nat) (config : Config) : Prop where
  /-- It has the number it was given. -/
  id_eq : live.id = id
  /-- It has the configuration asked for. -/
  config_eq : live.config = config
  /-- Its storage is consistent. -/
  consistent : live.contents.Consistent config
  /-- No message is queued. -/
  messages_eq : live.contents.messages = []
  /-- It is open. -/
  closed_eq : live.contents.closed = false
  /-- Every slot is free. -/
  freeCount_eq : live.contents.pool.freeCount = config.depth
  /-- It is shown to be empty and open, and to have been empty always. -/
  telemetry_eq : live.telemetry = { occupancy := 0, highWater := 0, closed := false }

/-- What is created with new contents is fresh. -/
theorem Live.Fresh.new {id : Nat} {config : Config} {contents : Contents}
    (hnew : Contents.new config = .ok contents) :
    Live.Fresh { id, config, contents, telemetry := {} } id config := by
  obtain ⟨hlive, hempty, -, hopen⟩ := Contents.Consistent.new hnew
  have hsum := hlive.len_add_freeCount
  rw [hempty, Nat.zero_add] at hsum
  exact ⟨rfl, rfl, hlive, Contents.messages_eq_nil_iff.mpr hempty, hopen, hsum, rfl⟩

/-! ### Creating a queue -/

namespace Queue

variable {queue : Queue} {config : Config}

/-- What stands in the way of creating a queue. One that has been created before cannot be created
anew, whatever the configuration; otherwise it is the configuration that decides. -/
def obstacle? (config : Config) : Queue → Option Failure
  | created _ => some (.refused .alreadyCreated)
  | uncreated => config.failure?

/-- An attempt with an obstacle in its way leaves everything as it was. -/
theorem create_of_obstacle? {failure : Failure} (hobstacle : queue.obstacle? config = some failure)
    (host : Host) : (queue.create config).runOn host = (.error failure, host) := by
  cases queue with
  | uncreated => exact create_of_failure? hobstacle host
  | created live =>
      obtain rfl := Option.some.inj hobstacle
      rfl

/-- Without an obstacle, a fresh queue is created under the next number. -/
theorem create_of_obstacle?_eq_none (hnone : queue.obstacle? config = none) (host : Host) :
    ∃ live host', (queue.create config).runOn host = (.ok (created live), host') ∧
      live.Fresh host.registry.nextId config ∧
      host'.registry = (host.registry.insert config.name).2 := by
  cases queue with
  | uncreated =>
      obtain ⟨contents, hnew, hcreate⟩ := create_of_fits hnone
      exact ⟨_, _, hcreate host, .new hnew, rfl⟩
  | created live => contradiction

end Queue

namespace Session

/-- An attempt to create a queue. -/
inductive Attempt where
  /-- The queue of an object is to be created. -/
  | create (target : Target) (config : Config)
  /-- A new queue is to be created. -/
  | build (name : String) (config : Config)
  /-- A new queue is to be created and held by a producer and a consumer. -/
  | buildPair (producer consumer : String) (config : Config)
  /-- A new queue is to be created for a foreign caller. -/
  | foreignNew (handle : String) (name : Option ByteArray) (depth messageSize : Nat)

namespace Attempt

/-- The step that makes the attempt. -/
def command : Attempt → Command
  | create target config => .create target config
  | build name config => .build name config
  | buildPair producer consumer config => .buildPair producer consumer config
  | foreignNew handle name depth messageSize => .foreignNew handle name depth messageSize

/-- The configuration asked for. -/
def config : Attempt → Config
  | create _ config | build _ config | buildPair _ _ config => config
  | foreignNew _ name depth messageSize => Foreign.config name depth messageSize

/-- The objects through which the queue is to be reached. -/
def queues (session : Session) : Attempt → List (Option Queue)
  | create target _ => [session.queue? target]
  | build name _ => [session.queue? (.queue name)]
  | buildPair producer consumer _ =>
    [session.queue? (.producer producer), session.queue? (.consumer consumer)]
  | foreignNew handle .. => [session.foreignQueue? handle]

/-- What stands in the way of the attempt. -/
def obstacle? (session : Session) : Attempt → Option Failure
  | create target config => (session.queue? target).bind (Queue.obstacle? config)
  | build _ config | buildPair _ _ config => config.failure?
  | foreignNew _ name depth messageSize => (Foreign.config name depth messageSize).failure?

/-- What is reported of an attempt that has failed for some reason, or succeeded for want of one. A
foreign caller is told no reason, and has no handle. -/
def report : Attempt → Option Failure → Report
  | create .., none | build .., none | buildPair .., none => .ok .nothing
  | create .., some failure | build .., some failure => .ofFailure failure
  | buildPair .., some failure => .ofHandleFailure failure
  | foreignNew .., none => .ok (.handle true)
  | foreignNew .., some (.refused _) => .ok (.handle false)
  | foreignNew .., some (.faulted fault) => .error (.faulted fault)

/-- The records that an attempt writes that has failed. -/
def records : Attempt → Failure → List Log.Event
  | foreignNew .., .refused cause => [.foreignBuildRefused cause]
  | _, _ => []

/-- The object whose queue is to be created exists. -/
def IsKnown (session : Session) : Attempt → Prop
  | create target _ => (session.queue? target).isSome
  | _ => True

/-- No earlier object has to give way to a new one. -/
def IsUnused (session : Session) : Attempt → Prop
  | create .. => True
  | build name _ => session.key? (.queue name) = none
  | buildPair producer consumer _ =>
    session.key? (.producer producer) = none ∧ session.key? (.consumer consumer) = none
  | foreignNew handle .. => session.handles.lookup handle = none

end Attempt

variable {session : Session} {attempt : Attempt} {failure : Failure}

/-! ### Attempts that fail -/

/-- An object that exists holds a queue that exists. -/
theorem exists_monitor_of_queue? {target : Target} {queue : Queue}
    (hqueue : session.queue? target = some queue) : ∃ key monitor,
    session.key? target = some key ∧ session.monitor? key = some monitor ∧
      monitor.queue = queue := by
  simp only [queue?, bind, Option.bind_eq_some_iff] at hqueue
  obtain ⟨key, hkey, monitor, hmonitor, hqueue⟩ := hqueue
  exact ⟨key, monitor, hkey, hmonitor, Option.some.inj hqueue⟩

/-- A queue that cannot be created cannot be built, and nothing has changed. -/
theorem build_of_failure? {config : Config} (hfailure : config.failure? = some failure)
    (holders : List Target) (report : Failure → Report) :
    session.build config holders report = (report failure, session) := by
  have hbuild : (Queue.build config).runOn session.host = (.error failure, session.host) :=
    Queue.create_of_failure? hfailure session.host
  rw [build, onHost, hbuild]

/-- **An attempt that must fail** reports why, and leaves the session as it is but for the log. -/
theorem Attempt.step_of_obstacle (hobstacle : attempt.obstacle? session = some failure) :
    session.step attempt.command =
      (.single (attempt.report (some failure)), session.emitAll (attempt.records failure)) := by
  have hsame : session.emitAll [] = session := by simp [emitAll, Host.emitAll]
  cases attempt with
  | create target config =>
      obtain ⟨queue, hqueue, hobstacle⟩ := Option.bind_eq_some_iff.mp hobstacle
      obtain ⟨key, monitor, hkey, hmonitor, rfl⟩ := exists_monitor_of_queue? hqueue
      rw [command, step, withKey, hkey]
      simp only [Session.create, hmonitor, onHost, Queue.create_of_obstacle? hobstacle, records,
        hsame]
      rfl
  | build name config =>
      simp only [command, step, build_of_failure? hobstacle, records, hsame]
      rfl
  | buildPair producer consumer config =>
      simp only [command, step, build_of_failure? hobstacle, records, hsame]
      rfl
  | foreignNew handle name depth messageSize =>
      have hbuild : Queue.build (Foreign.config name depth messageSize) session.host =
          (.error failure, session.host) :=
        Queue.create_of_failure? hobstacle session.host
      cases failure with
      | refused cause =>
          simp only [command, step, Session.foreignNew, onHost, Action.runOn, Foreign.build, hbuild]
          rfl
      | faulted fault =>
          simp only [command, step, Session.foreignNew, onHost, Action.runOn, Foreign.build, hbuild,
            records, hsame]
          rfl

/-! ### Attempts that succeed -/

/-- An object holds the queue it has been given. -/
theorem queue?_hold {key : Nat} {monitor : Monitor} (hmonitor : session.monitor? key = some monitor)
    (target : Target) : (session.hold target key).queue? target = some monitor.queue := by
  simp [queue?, key?_hold, monitor?_hold, hmonitor]

/-- If the name is new, no queue is let go. -/
theorem host_hold {target : Target} (hunused : session.key? target = none) (key : Nat) :
    (session.hold target key).host = session.host := by
  cases target <;> rw [hold, hunused] <;> rfl

/-- If the name is new, no queue is let go. -/
theorem host_holdHandle {name : String} (hunused : session.handles.lookup name = none)
    (key : Nat) : (session.holdHandle name key).host = session.host := by
  rw [holdHandle, hunused]
  rfl

/-- The names of foreign handles stand for what they did whatever queue is let go. -/
theorem handles_release? (session : Session) (key? : Option Nat) :
    (session.release? key?).handles = session.handles := by
  cases key? with
  | none => rfl
  | some key =>
      rw [release?, release]
      split
      · rfl
      · split <;> rfl

/-- A foreign handle holds the queue it has been given. -/
theorem foreignQueue?_holdHandle {key : Nat} {monitor : Monitor}
    (hmonitor : session.monitor? key = some monitor) (name : String) :
    (session.holdHandle name key).foreignQueue? name = some monitor.queue := by
  let named : Session := { session with handles := session.handles.assign name key }
  have hheld : named.isHeld key = true := by simp [named, isHeld, Names.assign]
  have hkept : (session.holdHandle name key).monitor? key = some monitor :=
    (monitor?_release? hheld _).trans hmonitor
  have hlookup : (session.holdHandle name key).handles.lookup name = some key := by
    rw [holdHandle, handles_release?, lookup_assign, if_pos rfl]
  simp [foreignQueue?, hlookup, hkept]

/-- A queue that can be created can be built. It is fresh, and nobody holds it yet. -/
theorem exists_taken {config : Config} (hnone : config.failure? = none) (session : Session) :
    ∃ live host taken, (Queue.build config).runOn session.host = (.ok (.created live), host) ∧
      taken = ({ session with host }.takeIn (.created live)).2 ∧
      live.Fresh session.host.registry.nextId config ∧
      taken.host.registry = (session.host.registry.insert config.name).2 ∧
      taken.monitor? session.nextKey = some { queue := .created live } ∧
      (∀ target, taken.key? target = session.key? target) := by
  obtain ⟨live, host, hcreate, hfresh, hregistry⟩ :=
    @Queue.create_of_obstacle?_eq_none .uncreated config hnone session.host
  refine ⟨live, host, _, hcreate, rfl, hfresh, hregistry, ?_, ?_⟩
  · exact (monitor?_takeIn ..).trans (if_pos rfl)
  · intro target
    cases target <;> rfl

/-- What an attempt with nothing in its way comes to: a fresh queue under the next number, and one
more name in the registry. -/
structure Attempt.Creates (session : Session) (attempt : Attempt) (live : Live) : Prop where
  /-- The queue is fresh. -/
  fresh : live.Fresh session.host.registry.nextId attempt.config
  /-- The caller is told that nothing stood in the way. -/
  reports : (session.step attempt.command).1 = .single (attempt.report none)
  /-- The queue is reached through all objects. -/
  reached : ∀ queue ∈ attempt.queues (session.step attempt.command).2,
    queue = some (.created live)
  /-- The name of the queue is entered. -/
  entered : attempt.IsUnused session → (session.step attempt.command).2.host.registry =
    (session.host.registry.insert attempt.config.name).2

/-- The queue of an object is created where it is. -/
theorem Attempt.exists_creates_create {target : Target} {config : Config}
    (hnone : (create target config).obstacle? session = none)
    (hknown : (create target config).IsKnown session) :
    ∃ live, (create target config).Creates session live := by
  obtain ⟨queue, hqueue⟩ := Option.isSome_iff_exists.mp hknown
  obtain ⟨key, monitor, hkey, hmonitor, rfl⟩ := exists_monitor_of_queue? hqueue
  rw [obstacle?, hqueue, Option.bind_some] at hnone
  obtain ⟨live, host, hcreate, hfresh, hregistry⟩ :=
    Queue.create_of_obstacle?_eq_none hnone session.host
  let created : Session := { session with host }.changeMonitor key
    fun monitor => { monitor with queue := .created live }
  have hstep : session.step (command (create target config)) =
      (.single (.ok .nothing), created) := by
    rw [command, step, withKey, hkey]
    simp only [Session.create, hmonitor, onHost, hcreate]
    rfl
  have hcreated : created.queue? target = some (.created live) := by
    have hkey' : created.key? target = some key := by cases target <;> exact hkey
    have hmonitor' : created.monitor? key = some { monitor with queue := .created live } := by
      rw [monitor?_changeMonitor, if_pos rfl]
      exact congrArg (Option.map _) hmonitor
    simp [queue?, hkey', hmonitor']
  refine ⟨live, hfresh, ?_, ?_, ?_⟩ <;> rw [hstep]
  · rfl
  · simpa [queues] using hcreated
  · exact fun _ => hregistry

/-- A queue that is built is held by its object. -/
theorem Attempt.exists_creates_build {name : String} {config : Config}
    (hnone : config.failure? = none) : ∃ live, (build name config).Creates session live := by
  obtain ⟨live, host, taken, hbuild, htaken, hfresh, hregistry, hmonitor, hkey⟩ :=
    exists_taken hnone session
  have hstep : session.step (command (build name config)) =
      (.single (.ok .nothing), taken.hold (.queue name) session.nextKey) := by
    rw [command, step, Session.build, onHost, hbuild, htaken]
    rfl
  refine ⟨live, hfresh, ?_, ?_, fun hunused => ?_⟩ <;> rw [hstep]
  · rfl
  · simpa [queues] using queue?_hold hmonitor (.queue name)
  · rw [host_hold ((hkey _).trans hunused)]
    exact hregistry

/-- A queue that is built for a producer and a consumer is held by both. -/
theorem Attempt.exists_creates_buildPair {producer consumer : String} {config : Config}
    (hnone : config.failure? = none) :
    ∃ live, (buildPair producer consumer config).Creates session live := by
  obtain ⟨live, host, taken, hbuild, htaken, hfresh, hregistry, hmonitor, hkey⟩ :=
    exists_taken hnone session
  let first := taken.hold (.producer producer) session.nextKey
  have hstep : session.step (command (buildPair producer consumer config)) =
      (.single (.ok .nothing), first.hold (.consumer consumer) session.nextKey) := by
    rw [command, step, Session.build, onHost, hbuild]
    subst htaken
    rfl
  refine ⟨live, hfresh, ?_, ?_, fun hunused => ?_⟩ <;> rw [hstep]
  · rfl
  · -- what the name of the consumer stood for before is let go, but the producer holds the queue
    simp [queues, queue?, first, key?_hold, monitor?_hold, hmonitor]
  · obtain ⟨hproducer, hconsumer⟩ := hunused
    have hother : first.key? (.consumer consumer) = none := by
      simp [first, key?_hold, hkey, hconsumer]
    rw [host_hold hother, host_hold ((hkey _).trans hproducer)]
    exact hregistry

/-- A queue that a foreign caller gets is held by its handle. -/
theorem Attempt.exists_creates_foreignNew {handle : String} {name : Option ByteArray}
    {depth messageSize : Nat} (hnone : (Foreign.config name depth messageSize).failure? = none) :
    ∃ live, (foreignNew handle name depth messageSize).Creates session live := by
  obtain ⟨live, host, taken, hbuild, htaken, hfresh, hregistry, hmonitor, -⟩ :=
    exists_taken hnone session
  have hforeign : (Foreign.build name depth messageSize).runOn session.host =
      (.ok (some (.created live)), host) := by
    rw [Action.runOn, Foreign.build, hbuild]
  have hstep : session.step (command (foreignNew handle name depth messageSize)) =
      (.single (.ok (.handle true)), taken.holdHandle handle session.nextKey) := by
    rw [command, step, Session.foreignNew, onHost, hforeign, htaken]
    rfl
  refine ⟨live, hfresh, ?_, ?_, fun hunused => ?_⟩ <;> rw [hstep]
  · rfl
  · simpa [queues] using foreignQueue?_holdHandle hmonitor handle
  · have hhandles : taken.handles = session.handles := by rw [htaken]; rfl
    rw [host_holdHandle (hhandles ▸ hunused)]
    exact hregistry

/-- **An attempt with nothing in its way** leaves a fresh queue behind, under the next number, and
enters its name. -/
theorem Attempt.exists_creates (hnone : attempt.obstacle? session = none)
    (hknown : attempt.IsKnown session) : ∃ live, attempt.Creates session live := by
  cases attempt with
  | create target config => exact exists_creates_create hnone hknown
  | build name config => exact exists_creates_build hnone
  | buildPair producer consumer config => exact exists_creates_buildPair hnone
  | foreignNew handle name depth messageSize => exact exists_creates_foreignNew hnone

/-! ### What can be said of every attempt -/

/-- How an attempt goes, and what comes after it. -/
structure AllOrNothing (session : Session) (attempt : Attempt) : Prop where
  /-- A queue is created once. Afterwards it cannot be created anew, whatever the configuration. -/
  once : ∀ target config live, attempt = .create target config →
    session.queue? target = some (.created live) →
      attempt.obstacle? session = some (.refused .alreadyCreated)
  /-- Otherwise all attempts fail for the same reasons, which depend on the configuration alone. -/
  obstacle?_eq : (∀ target config, attempt = .create target config →
      session.queue? target = some .uncreated) →
    attempt.obstacle? session = attempt.config.failure?
  /-- An attempt that must fail says why. At most it adds a record to the log. -/
  fails : ∀ failure, attempt.obstacle? session = some failure →
    session.step attempt.command =
      (.single (attempt.report (some failure)), session.emitAll (attempt.records failure))
  /-- The registry and the queues are as they were, also those that have been created before. -/
  unchanged : ∀ failure, attempt.obstacle? session = some failure →
    (session.step attempt.command).2.host.registry = session.host.registry ∧
      (session.step attempt.command).2.queues = session.queues
  /-- Whatever comes later goes as if the attempt had not been made. In the end its records are all
  that makes a difference. -/
  erased : ∀ failure later, attempt.obstacle? session = some failure → ∃ results final,
    session.stepAll later = (results, preceded final session.host.log) ∧
      session.stepAll (attempt.command :: later) =
        (.single (attempt.report (some failure)) :: results,
          preceded final (session.host.log ++ attempt.records failure))
  /-- An attempt with nothing in its way takes the next number and leaves a fresh queue behind. -/
  succeeds : attempt.obstacle? session = none → ∃ live,
    live.Fresh session.host.registry.nextId attempt.config ∧
      (session.step attempt.command).1 = .single (attempt.report none) ∧
      ∀ queue ∈ attempt.queues (session.step attempt.command).2, queue = some (.created live)
  /-- Its name is entered at the end of the registry, under its number. -/
  registered : attempt.obstacle? session = none → attempt.IsUnused session →
    (session.step attempt.command).2.host.registry =
      { nextId := session.host.registry.nextId + 1
        entries := session.host.registry.entries ++
          [(session.host.registry.nextId, attempt.config.name)] }

/-- **Creation is all or nothing, and happens once.** In whatever state a session is, an attempt to
create a queue either fails and leaves no trace but for the log, or leaves a fresh queue and one
more name in the registry. Which of the two depends on the configuration, and on whether the queue
has been created before. -/
theorem creation_all_or_nothing (session : Session) (attempt : Attempt)
    (hknown : attempt.IsKnown session) : session.AllOrNothing attempt := by
  have hfails := @Attempt.step_of_obstacle session attempt
  constructor
  · rintro target config live rfl hcreated
    rw [Attempt.obstacle?, hcreated]
    rfl
  · intro huncreated
    cases attempt with
    | create target config =>
        rw [Attempt.obstacle?, huncreated target config rfl]
        rfl
    | _ => rfl
  · exact fun failure => hfails
  · intro failure hobstacle
    rw [hfails hobstacle]
    exact ⟨rfl, rfl⟩
  · intro failure later hobstacle
    obtain ⟨results, final, hplain, hrecorded⟩ :=
      session.stepAll_emitAll (attempt.records failure) later
    refine ⟨results, final, hplain, ?_⟩
    rw [stepAll, hfails hobstacle]
    simp only [hrecorded]
  · intro hnone
    obtain ⟨live, hcreates⟩ := Attempt.exists_creates hnone hknown
    exact ⟨live, hcreates.fresh, hcreates.reports, hcreates.reached⟩
  · intro hnone hunused
    obtain ⟨live, hcreates⟩ := Attempt.exists_creates hnone hknown
    exact hcreates.entered hunused

/-- A session with a queue that has not been created yet. -/
def sampleUncreated : Session := (({} : Session).step (.newQueue "q")).2

/-- The first attempt at the sample is aborted for want of memory. The second one creates the queue
as if the first had not been made. -/
theorem creation_all_or_nothing_sampleUncreated :
    sampleUncreated.AllOrNothing (.create (.queue "q") Queue.sampleWide) ∧
      (sampleUncreated.stepAll [.create (.queue "q") Queue.sampleWide,
        .create (.queue "q") Live.sample.config]).2.host.registry =
          { nextId := 2, entries := [(1, "sample")] } := by
  have hfirst := creation_all_or_nothing sampleUncreated
    (.create (.queue "q") Queue.sampleWide) rfl
  have hsecond := creation_all_or_nothing sampleUncreated
    (.create (.queue "q") Live.sample.config) rfl
  obtain ⟨results, final, hplain, hafter⟩ := hfirst.erased (.faulted .capacityOverflow)
    [.create (.queue "q") Live.sample.config] (by decide +kernel)
  have hcreated := hsecond.registered (by decide +kernel) trivial
  have hplain := congrArg (·.2.host.registry) hplain
  have hafter := congrArg (·.2.host.registry) hafter
  exact ⟨hfirst, hafter.trans (hplain.symm.trans hcreated)⟩

end Session

end StableQueue
