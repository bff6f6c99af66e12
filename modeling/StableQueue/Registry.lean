import StableQueue.Log

/-!
# The Registry of Live Queues

Every process keeps a table of the queues that are alive. A queue is entered under a number when
it is created and taken out when the last holder lets go of it. Numbers count up from 1 and are
never given twice, so the table is always in the order of creation.

A `Host` is the part of a process that queues share: the registry and the log.
-/

namespace StableQueue

/-- The table of live queues. -/
structure Registry where
  /-- The number the next queue will get. What is a counter of 64 bits is here a natural number that
  does not wrap: the model is exact as long as fewer than `2 ^ 64` numbers have been given out. -/
  nextId : Nat := 1
  /-- The live queues, oldest first. -/
  entries : List (Nat × String) := []
  deriving DecidableEq, Repr

namespace Registry

/-- Enter a name under the next number. -/
def insert (registry : Registry) (name : String) : Nat × Registry :=
  (registry.nextId,
    { nextId := registry.nextId + 1, entries := registry.entries ++ [(registry.nextId, name)] })

/-- The name entered under a number. -/
def find? (registry : Registry) (id : Nat) : Option String := registry.entries.lookup id

/-- Take a number out. A number that is not in the table is ignored. -/
def erase (registry : Registry) (id : Nat) : Registry :=
  { registry with entries := registry.entries.filter fun entry => entry.1 ≠ id }

/-- The names of the live queues, oldest first. -/
def names (registry : Registry) : List String := registry.entries.map Prod.snd

/-- The number of live queues. -/
def count (registry : Registry) : Nat := registry.entries.length

end Registry

/-- What the queues of one process share. -/
structure Host where
  /-- The live queues. -/
  registry : Registry := {}
  /-- The records written so far, oldest first. -/
  log : List Log.Event := []
  deriving DecidableEq, Repr

namespace Host

/-- Write a log record. -/
def emit (event : Log.Event) (host : Host) : Host := { host with log := host.log ++ [event] }

/-- Write several log records. -/
def emitAll (events : List Log.Event) (host : Host) : Host :=
  { host with log := host.log ++ events }

/-- Enter a name into the registry. -/
def register (name : String) (host : Host) : Nat × Host :=
  let (id, registry) := host.registry.insert name
  (id, { host with registry }.emit (.registered name id))

/-- Take a number out of the registry. Only a number that was in it leaves a record. -/
def unregister (id : Nat) (host : Host) : Host :=
  match host.registry.find? id with
  | none => host
  | some name =>
    { host with registry := host.registry.erase id }.emit (.unregistered name id)

end Host

end StableQueue
