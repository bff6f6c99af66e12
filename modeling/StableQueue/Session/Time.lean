import StableQueue.Session.Basic

/-!
# Calls, Threads and Time

How the calls of a session come to an end. If no thread is at a queue, the caller of the session is
alone and its call is performed at once. Otherwise it comes to the queue like any other caller; if
it has to park, or waits for a thread, time passes from one deadline to the next until the wait is
over.

Every deadline that passes ends a call, so there are never more of them to wait for than there are
parked callers.
-/

namespace StableQueue

namespace Session

/-- Let the threads whose calls at a queue are over report them. They let go of the queue. -/
def collect (session : Session) (key : Nat) : Session :=
  match session.monitor? key with
  | none => session
  | some monitor =>
    let finish (thread : Thread) : Thread :=
      match thread.progress with
      | .done _ => thread
      | .calling call =>
        if call.key = key then
          match monitor.outcome? call.token with
          | none => thread
          | some outcome =>
            { thread with progress := .done (call.task.report call.target outcome) }
        else thread
    let session := { session with threads := session.threads.map finish }
    let session := session.changeMonitor key fun monitor =>
      { monitor with log := [], returned := monitor.returned.filter (·.1 = ownToken) }
    (session.emitAll monitor.log).release key

/-- Let something happen at a queue and all that follows from it. -/
def happen (session : Session) (key : Nat) (event : Monitor → Monitor) : Session :=
  (session.changeMonitor key fun monitor => (event monitor).settle session.now).collect key

/-- The call that wakes first by itself: when, and the key of its queue and its token. -/
def nextToWake? (session : Session) : Option (Nat × Nat × Nat) :=
  session.queues.foldl (fun earliest (key, monitor) =>
    match monitor.nextToWake?, earliest with
    | none, _ => earliest
    | some (time, token), none => some (time, key, token)
    | some (time, token), some (least, rest) =>
      if time < least then some (time, key, token) else some (least, rest)) none

/-- The number of parked callers. -/
def parkedCount (session : Session) : Nat :=
  session.queues.foldl (fun count (_, monitor) => count + monitor.parked.length) 0

/-- Time passes until the next parked call wakes by itself, but not beyond `limit`. -/
def passTime? (session : Session) (limit : Option Nat) : Option Session :=
  match session.nextToWake? with
  | none => none
  | some (time, key, token) =>
    if limit.any (· < time) then none
    else some ({ session with now := max session.now time }.happen key (·.expire token))

/-- Let time pass from one deadline to the next until `finished`, at most `fuel` times. -/
def waitFor (finished : Session → Bool) : Nat → Session → Session
  | 0, session => session
  | fuel + 1, session =>
    if finished session then session
    else
      match session.passTime? none with
      | none => session
      | some session => waitFor finished fuel session

/-- Let time pass from one deadline to the next up to `limit`, at most `fuel` times. -/
def sleepUntil (limit : Nat) : Nat → Session → Session
  | 0, session => { session with now := max session.now limit }
  | fuel + 1, session =>
    match session.passTime? (some limit) with
    | none => { session with now := max session.now limit }
    | some session => sleepUntil limit fuel session

/-- Sleep for some time. -/
def sleep (session : Session) (duration : Nat) : Session :=
  sleepUntil (session.now + duration) session.parkedCount session

/-- The outcome of the call that the caller of the session has made at a queue, once it is over. -/
def ownOutcome? (session : Session) (key : Nat) : Option Outcome := do
  let monitor ← session.monitor? key
  monitor.outcome? ownToken

/-- A call of the caller of the session. There is no outcome if the call never returns. -/
def call (session : Session) (key : Nat) (request : Request) (patience : Patience) :
    Option Outcome × Session :=
  if session.isBusy then
    let visit : Visit := { token := ownToken, request, deadline := patience.deadline session.now }
    let session := session.happen key (·.arrive visit)
    let session :=
      waitFor (fun session => (session.ownOutcome? key).isSome) session.parkedCount session
    (session.ownOutcome? key,
      session.changeMonitor key fun monitor => { monitor with returned := [] })
  else
    match session.monitor? key with
    | none => (none, session)
    | some monitor =>
      match monitor.queue.perform session.now request patience with
      | none => (none, session)
      | some (outcome, log, queue) =>
        (some outcome,
          (session.changeMonitor key fun monitor => { monitor with queue }).emitAll log)

/-- The time the caller of the session sleeps after it has started a thread, so that the thread can
make its call. -/
def startingTime : Nat := 10 * Clock.millisecond

/-- What there is to be read off an object. -/
def look (session : Session) (target : Target) (query : Query) : Report :=
  match session.queue? target with
  | none => .error .unknownObject
  | some queue => .ok (query.answer target queue)

/-- Take a name from the thread that has it. The thread goes on, but nobody can join it any more. -/
def disown (session : Session) (name : String) : Session :=
  { session with threads := session.threads.map fun thread =>
      if thread.name = some name then { thread with name := none } else thread }

/-- Start a thread for an errand at an object, which holds the queue with this key. -/
def start (session : Session) (name : String) (key : Nat) (target : Target) (errand : Errand) :
    Session :=
  let session := session.disown name
  let add (progress : Progress) : Session :=
    { session with threads := session.threads ++ [{ name := some name, progress }] }
  match errand with
  | .query query => (add (.done (session.look target query))).sleep startingTime
  | .task task =>
    let token := session.nextToken
    let deadline := task.patience.deadline session.now
    let visit : Visit := { token, request := task.request, deadline }
    let session := { add (.calling { token, key, target, task }) with nextToken := token + 1 }
    (session.happen key (·.arrive visit)).sleep startingTime

/-- Wait for a thread to end, and forget it. -/
def join (session : Session) (name : String) : Report × Session :=
  let report? (session : Session) : Option Report := (session.thread? name).bind Thread.report?
  let session := waitFor (fun session => (report? session).isSome) session.parkedCount session
  let report : Report :=
    match session.thread? name with
    | none => .error .unknownObject
    | some thread => thread.report?.getD (.error .neverReturns)
  (report, { session with threads := session.threads.filter (·.name ≠ some name) })

/-- Wait for several threads, one after the other. -/
def joinAll (session : Session) : List String → List Report × Session
  | [] => ([], session)
  | name :: names =>
    let (report, session) := session.join name
    let (reports, session) := session.joinAll names
    (report :: reports, session)

end Session

end StableQueue
