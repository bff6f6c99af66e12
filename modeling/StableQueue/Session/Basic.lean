import StableQueue.Monitor
import StableQueue.Registry
import StableQueue.Session.Errand

/-!
# Sessions

A `Session` is a process as seen by one caller: the objects it holds by name, the threads it has
started, the queues they all reach, and what those queues share. Several objects may reach the same
queue. A queue lives as long as an object or a running thread holds it, and leaves the registry when
the last of them lets go.

The caller of the session acts in steps that take no time, except that it may wait for a queue or
for a thread.
-/

namespace StableQueue

/-- The objects of one kind, by name, each with the key of the queue it holds. -/
abbrev Names := List (String × Nat)

namespace Names

/-- A table without a name. -/
def without (names : Names) (name : String) : Names := names.filter (·.1 ≠ name)

/-- A table with a name added or changed. -/
def assign (names : Names) (name : String) (key : Nat) : Names := (name, key) :: names.without name

end Names

/-- A call that a thread has made at a queue. -/
structure ThreadCall where
  /-- Tells the calls at a queue apart. -/
  token : Nat
  /-- The key of the queue. -/
  key : Nat
  /-- The object through which the task is carried out. -/
  target : Target
  /-- The task. -/
  task : Task

/-- How far a thread has come. -/
inductive Progress where
  /-- It has made its call, and holds the queue until the call is over. -/
  | calling (call : ThreadCall)
  /-- It is done, and this is what it has to report. -/
  | done (report : Report)

/-- A thread that was started by the session for one errand. -/
structure Thread where
  /-- The name by which the thread can be joined; none if a later thread has taken the name. -/
  name : Option String
  /-- How far the thread has come. -/
  progress : Progress

namespace Thread

/-- The call that the thread has made, until it is over. -/
def call? (thread : Thread) : Option ThreadCall :=
  match thread.progress with
  | .calling call => some call
  | .done _ => none

/-- What the thread has to report, once it is done. -/
def report? (thread : Thread) : Option Report :=
  match thread.progress with
  | .calling _ => none
  | .done report => some report

end Thread

/-- A process as seen by one caller. -/
structure Session where
  /-- The registry and the log. -/
  host : Host := {}
  /-- The time, in nanoseconds. -/
  now : Nat := 0
  /-- The queues that are held, by key. -/
  queues : List (Nat × Monitor) := []
  /-- The key of the next queue. -/
  nextKey : Nat := 0
  /-- The queues held by name. -/
  queueNames : Names := []
  /-- The producers held by name. -/
  producers : Names := []
  /-- The consumers held by name. -/
  consumers : Names := []
  /-- The foreign handles held by name. -/
  handles : Names := []
  /-- The threads that have not been joined, in the order in which they were started. -/
  threads : List Thread := []
  /-- The token of the next thread. -/
  nextToken : Nat := 1

namespace Session

/-- The token of the caller of the session; threads have others. -/
def ownToken : Nat := 0

/-- There is a thread to be joined. -/
def hasThreads (session : Session) : Bool := session.threads.any (·.name.isSome)

/-- The call of some thread is not over. -/
def isBusy (session : Session) : Bool := session.threads.any (·.call?.isSome)

/-- The thread to be joined by a name. -/
def thread? (session : Session) (name : String) : Option Thread :=
  session.threads.find? (·.name = some name)

/-- The queue with a key, and the callers at it. -/
def monitor? (session : Session) (key : Nat) : Option Monitor := session.queues.lookup key

/-- The key of the queue that an object holds. -/
def key? (session : Session) : Target → Option Nat
  | .queue name => session.queueNames.lookup name
  | .producer name => session.producers.lookup name
  | .consumer name => session.consumers.lookup name

/-- The queue that an object holds. -/
def queue? (session : Session) (target : Target) : Option Queue := do
  let key ← session.key? target
  let monitor ← session.monitor? key
  return monitor.queue

/-- Change the queue with a key, and the callers at it. -/
def changeMonitor (session : Session) (key : Nat) (change : Monitor → Monitor) : Session :=
  { session with queues := session.queues.map fun (k, monitor) =>
      if k = key then (k, change monitor) else (k, monitor) }

/-- Write log records. -/
def emitAll (session : Session) (events : List Log.Event) : Session :=
  { session with host := session.host.emitAll events }

/-! ### Holding queues -/

/-- An object or a running thread holds the queue with this key. -/
def isHeld (session : Session) (key : Nat) : Bool :=
  session.queueNames.any (·.2 = key) || session.producers.any (·.2 = key) ||
  session.consumers.any (·.2 = key) || session.handles.any (·.2 = key) ||
  session.threads.any fun thread => thread.call?.any (·.key = key)

/-- Somebody has let go of the queue with this key. If it was the last one, the queue is gone. -/
def release (session : Session) (key : Nat) : Session :=
  if session.isHeld key then session
  else
    match session.monitor? key with
    | none => session
    | some monitor =>
      { session with
        host := monitor.queue.retire session.host
        queues := session.queues.filter (·.1 ≠ key) }

/-- Somebody has let go of the queue with this key, if there is one. -/
def release? (session : Session) : Option Nat → Session
  | none => session
  | some key => session.release key

/-- Let go of the object of some name, if there is one. -/
def drop (session : Session) (target : Target) : Session :=
  let key := session.key? target
  let session :=
    match target with
    | .queue name => { session with queueNames := session.queueNames.without name }
    | .producer name => { session with producers := session.producers.without name }
    | .consumer name => { session with consumers := session.consumers.without name }
  session.release? key

/-- Hold the queue with a key under a name. An object that had the name before is let go. -/
def hold (session : Session) (target : Target) (key : Nat) : Session :=
  let earlier := session.key? target
  let session :=
    match target with
    | .queue name => { session with queueNames := session.queueNames.assign name key }
    | .producer name => { session with producers := session.producers.assign name key }
    | .consumer name => { session with consumers := session.consumers.assign name key }
  session.release? earlier

/-- Let go of the foreign handle of some name, if there is one. -/
def dropHandle (session : Session) (name : String) : Session :=
  let key := session.handles.lookup name
  { session with handles := session.handles.without name }.release? key

/-- Hold the queue with a key as a foreign handle. A handle that had the name before is let go. -/
def holdHandle (session : Session) (name : String) (key : Nat) : Session :=
  let earlier := session.handles.lookup name
  { session with handles := session.handles.assign name key }.release? earlier

/-- Take in a new queue. The answer is its key. Nobody holds it yet. -/
def takeIn (session : Session) (queue : Queue) : Nat × Session :=
  (session.nextKey,
    { session with
      queues := (session.nextKey, { queue }) :: session.queues
      nextKey := session.nextKey + 1 })

end Session

end StableQueue
