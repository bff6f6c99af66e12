import Mathlib
import StableQueue.Session.Step

/-!
# Who Holds a Queue

A session holds queues by the names of its objects and by the calls of its threads. `Session.isHeld`
looks through all of them. The objects of each kind have a table of their own; what is said here of
one table is said of all.

## Main results

* `Session.isHeld_iff`: what it means that a queue is held.
* `Names.lookup_eq_or_mem_keys_without`: what a name was the only one to stand for is all that can
  be lost with it.
* `Session.monitor?_changeMonitor`, `Session.monitor?_takeIn`, `Session.lookup_filter_ne`: the
  queues of a session after a change.
-/

namespace StableQueue

/-! ### Tables of names -/

namespace Names

variable {names : Names} {name : String} {key k : Nat}

/-- The keys of the queues that are held. -/
def keys (names : Names) : List Nat := names.map Prod.snd

/-- If every name occurs once, what stands beside it is what it stands for. -/
theorem lookup_of_mem (hnodup : (names.map Prod.fst).Nodup) (hmem : (name, key) ∈ names) :
    names.lookup name = some key := by
  obtain ⟨before, after, rfl⟩ := List.append_of_mem hmem
  refine List.lookup_eq_some_iff.mpr ⟨before, after, rfl, fun entry hentry => ?_⟩
  rw [List.map_append, List.map_cons] at hnodup
  have hne := (List.nodup_append.mp hnodup).2.2 _ (List.mem_map_of_mem hentry) _ List.mem_cons_self
  simpa using hne.symm

/-- What a name stands for is held. -/
theorem mem_keys_of_lookup (h : names.lookup name = some key) : key ∈ names.keys := by
  obtain ⟨before, after, rfl, -⟩ := List.lookup_eq_some_iff.mp h
  simp [keys]

/-- Without a name, nothing more is held. -/
theorem keys_without_subset : (names.without name).keys ⊆ names.keys :=
  List.map_subset _ List.filter_sublist.subset

/-- Without a name, all is held as before, except for what the name has stood for. -/
theorem lookup_eq_or_mem_keys_without (hnodup : (names.map Prod.fst).Nodup) (h : k ∈ names.keys) :
    names.lookup name = some k ∨ k ∈ (names.without name).keys := by
  obtain ⟨⟨other, k'⟩, hmem, rfl⟩ := List.mem_map.mp h
  by_cases heq : other = name
  · subst heq
    exact .inl (lookup_of_mem hnodup hmem)
  · exact .inr (List.mem_map.mpr ⟨_, List.mem_filter.mpr ⟨hmem, by simpa using heq⟩, rfl⟩)

/-- What is held once a name has been given to a queue. -/
theorem mem_keys_assign :
    k ∈ (names.assign name key).keys ↔ k = key ∨ k ∈ (names.without name).keys :=
  List.mem_cons

/-- Dropping a name leaves every other name once. -/
theorem nodup_without (hnodup : (names.map Prod.fst).Nodup) :
    ((names.without name).map Prod.fst).Nodup :=
  hnodup.sublist (List.filter_sublist.map _)

/-- Giving a name leaves every name once. -/
theorem nodup_assign (hnodup : (names.map Prod.fst).Nodup) :
    ((names.assign name key).map Prod.fst).Nodup := by
  rw [assign, List.map_cons, List.nodup_cons]
  refine ⟨?_, nodup_without hnodup⟩
  simp [without]

end Names

/-- Two threads cannot be mistaken for one another: they do not have the same name. -/
def Thread.Apart (thread other : Thread) : Prop := thread.name = none ∨ thread.name ≠ other.name

instance : Std.Symm Thread.Apart where
  symm thread other h := by
    rw [Thread.Apart] at h ⊢
    by_cases hnone : other.name = none
    · exact .inl hnone
    · exact .inr fun hsame => h.elim (fun hthread => hnone (hsame.trans hthread)) (· hsame.symm)

namespace Session

variable {session session' : Session} {key k : Nat}

/-! ### Objects and calls -/

/-- The kinds of objects that a session holds by name. -/
inductive Kind where
  | queue
  | producer
  | consumer
  | handle

/-- The objects of one kind. -/
def table (session : Session) : Kind → Names
  | .queue => session.queueNames
  | .producer => session.producers
  | .consumer => session.consumers
  | .handle => session.handles

/-- The session with other objects of one kind. -/
def withTable (session : Session) (names : Names) : Kind → Session
  | .queue => { session with queueNames := names }
  | .producer => { session with producers := names }
  | .consumer => { session with consumers := names }
  | .handle => { session with handles := names }

/-- The table that has been replaced is the new one. -/
@[simp] theorem table_withTable_self (names : Names) (kind : Kind) :
    (session.withTable names kind).table kind = names := by
  cases kind <;> rfl

/-- The tables of the other kinds stay. -/
theorem table_withTable_of_ne (names : Names) {kind other : Kind} (hne : other ≠ kind) :
    (session.withTable names kind).table other = session.table other := by
  cases kind <;> cases other <;> first | rfl | contradiction

/-- Replacing a table does not touch the threads. -/
@[simp] theorem threads_withTable (names : Names) (kind : Kind) :
    (session.withTable names kind).threads = session.threads := by
  cases kind <;> rfl

/-- A thread that has not come back holds the queue. -/
def IsCalled (session : Session) (key : Nat) : Prop :=
  ∃ thread ∈ session.threads, ∃ call, thread.call? = some call ∧ call.key = key

/-- **What it means that a queue is held**: by an object of some kind, or by a thread. -/
theorem isHeld_iff :
    session.isHeld key = true ↔
      (∃ kind, key ∈ (session.table kind).keys) ∨ session.IsCalled key := by
  have hkind : (∃ kind, key ∈ (session.table kind).keys) ↔
      key ∈ session.queueNames.keys ∨ key ∈ session.producers.keys ∨
        key ∈ session.consumers.keys ∨ key ∈ session.handles.keys := by
    constructor
    · rintro ⟨kind, hmem⟩
      cases kind <;> simp_all [table]
    · rintro (hmem | hmem | hmem | hmem)
      · exact ⟨.queue, hmem⟩
      · exact ⟨.producer, hmem⟩
      · exact ⟨.consumer, hmem⟩
      · exact ⟨.handle, hmem⟩
  rw [hkind]
  simp [isHeld, IsCalled, Names.keys, Option.any_eq_true, or_assoc]

/-- Whether a queue is held depends on the objects and the threads alone. -/
theorem isHeld_congr (htable : ∀ kind, session'.table kind = session.table kind)
    (hthreads : session'.threads = session.threads) : session'.isHeld key = session.isHeld key := by
  rw [Bool.eq_iff_iff, isHeld_iff, isHeld_iff, IsCalled, IsCalled, hthreads]
  simp only [htable]

/-- Who holds a queue once the objects of one kind are others. -/
theorem isHeld_withTable_iff {names : Names} {kind : Kind} :
    (session.withTable names kind).isHeld key = true ↔
      key ∈ names.keys ∨ (∃ other, other ≠ kind ∧ key ∈ (session.table other).keys) ∨
        session.IsCalled key := by
  rw [isHeld_iff, IsCalled, threads_withTable, ← or_assoc]
  refine or_congr_left ⟨?_, ?_⟩
  · rintro ⟨other, hmem⟩
    by_cases heq : other = kind
    · subst heq
      exact .inl (by simpa using hmem)
    · exact .inr ⟨other, heq, by rwa [table_withTable_of_ne names heq] at hmem⟩
  · rintro (hmem | ⟨other, hne, hmem⟩)
    · exact ⟨kind, by simpa using hmem⟩
    · exact ⟨other, by rwa [table_withTable_of_ne names hne]⟩

/-! ### The queue with a key -/

/-- Looking up in a table whose first entry is known. -/
theorem lookup_cons_eq {α β : Type} [BEq β] [LawfulBEq β] [DecidableEq β] {key k : β}
    (entries : List (β × α)) (a : α) :
    ((key, a) :: entries).lookup k = if k = key then some a else entries.lookup k := by
  by_cases heq : k = key
  · simp [heq]
  · have hne : (k == key) = false := by simpa using heq
    simp [List.lookup_cons, heq, hne]

/-- Changing a queue leaves all others as they are. -/
theorem monitor?_changeMonitor (session : Session) (key k : Nat) (change : Monitor → Monitor) :
    (session.changeMonitor key change).monitor? k =
      if k = key then (session.monitor? k).map change else session.monitor? k := by
  simp only [monitor?, changeMonitor]
  induction session.queues with
  | nil => simp
  | cons entry rest ih =>
      obtain ⟨other, monitor⟩ := entry
      rw [List.map_cons, lookup_cons_eq]
      by_cases hother : other = key
      · subst hother
        rw [if_pos rfl, lookup_cons_eq, ih]
        by_cases heq : k = other <;> simp [heq]
      · rw [if_neg hother, lookup_cons_eq, ih]
        by_cases heq : k = other <;> simp [heq, hother]

/-- When a key is gone from a table, all others are there as before. -/
theorem lookup_filter_ne {α β : Type} [BEq β] [LawfulBEq β] [DecidableEq β] {key k : β}
    (entries : List (β × α)) :
    (entries.filter (·.1 ≠ key)).lookup k = if k = key then none else entries.lookup k := by
  induction entries with
  | nil => simp
  | cons entry rest ih =>
      obtain ⟨other, a⟩ := entry
      rw [List.filter_cons, lookup_cons_eq]
      by_cases hother : other = key
      · subst hother
        rw [if_neg (by simp), ih]
        by_cases heq : k = other <;> simp [heq]
      · rw [if_pos (by simpa using hother), lookup_cons_eq, ih]
        by_cases heq : k = other <;> simp [heq, hother]

/-- A queue that is taken in does not replace another one. -/
theorem monitor?_takeIn (session : Session) (queue : Queue) (k : Nat) :
    (session.takeIn queue).2.monitor? k =
      if k = session.nextKey then some { queue } else session.monitor? k :=
  lookup_cons_eq ..

/-- A queue that has been taken in is there. -/
theorem isSome_monitor?_takeIn (session : Session) (queue : Queue) :
    ((session.takeIn queue).2.monitor? session.nextKey).isSome = true := by
  rw [monitor?_takeIn, if_pos rfl]
  rfl

end Session

end StableQueue
