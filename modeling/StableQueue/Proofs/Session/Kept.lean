import StableQueue.Proofs.Monitor.Run
import StableQueue.Proofs.Registry
import StableQueue.Proofs.Session.Holding

/-!
# Holders and Numbers

There is no count of the holders of a queue: `Session.release` looks whether one is left. So a queue
could be lost while somebody holds it, or stay although nobody does, if some step let go of it and
did not look.

`Session.Kept` is the invariant that rules this out, and that ties the queues of a session to their
numbers in the registry. Within a step there may be one queue that nobody holds: the one that has
just been taken in, or that somebody has just let go of. The invariant names it. The lemmas here say
what the small changes do of which all steps are made.

## Main results

* `Monitor.Run.id?_eq`: its callers do not change the number of a queue.
* `Session.Kept.release`: after a look at the queue that may be loose, none is.
* `Session.Kept.without`, `Session.Kept.assign`: a name is dropped or given to a queue.
* `Session.Kept.takeIn`, `Session.Kept.registered`: a queue is taken in, and gets its number.
* `Session.Kept.finish`, `Session.Kept.addThread`, `Session.Kept.forget`: threads come and go.
-/

namespace StableQueue

/-! ### Queues keep their numbers -/

section Numbers

variable {queue after : Queue} {monitor monitor' : Monitor}

/-- A sender does not change the number of a created queue. -/
theorem Live.id_send (live : Live) (payload : ByteArray) (priority : Int) (mayWait : Bool) :
    (live.send payload priority mayWait).2.id = live.id := by
  simp only [send]
  split
  · rfl
  · split
    · split <;> rfl
    · split <;> rfl

/-- A receiver does not change the number of a created queue. -/
theorem Live.id_receive (live : Live) (request : Request) (take : Action Exchange Reply)
    (mayWait : Bool) : (live.receive request take mayWait).2.id = live.id := by
  simp only [receive]
  split
  · split <;> rfl
  · split
    · rfl
    · split <;> rfl

/-- A pass does not change the number of a created queue. -/
@[simp] theorem Live.id_attempt (live : Live) (request : Request) (mayWait : Bool) :
    (live.attempt request mayWait).2.id = live.id := by
  cases request with
  | send payload priority =>
      simp only [attempt]
      split
      · rfl
      · exact id_send ..
  | receive =>
      rw [attempt]
      exact id_receive ..
  | receiveInto buffer =>
      rw [attempt]
      exact id_receive ..
  | close =>
      simp only [attempt, close]
      split <;> rfl

/-- A pass does not change the number of a queue. -/
@[simp] theorem Queue.id?_attempt (queue : Queue) (request : Request) (mayWait : Bool) :
    (queue.attempt request mayWait).2.id? = queue.id? := by
  cases queue with
  | uncreated => rfl
  | created live => simp [attempt, id?, live?]

/-- A call does not change the number of a queue. -/
theorem Queue.id?_of_perform {now : Nat} {request : Request} {patience : Patience}
    {outcome : Outcome} {log : List Log.Event}
    (h : queue.perform now request patience = some (outcome, log, after)) :
    after.id? = queue.id? := by
  have hfirst := queue.id?_attempt request ((patience.deadline now).allows now)
  simp only [perform] at h
  split at h
  · rename_i heq
    cases h
    rw [← hfirst, heq]
  · rename_i waiting heq
    have hsecond := waiting.id?_attempt request false
    split at h
    · split at h
      · rename_i heq'
        cases h
        rw [← hfirst, heq, ← hsecond, heq']
      · contradiction
    · contradiction

/-- A step of its callers does not change the number of a queue. -/
theorem Monitor.Step.id?_eq {ended : List (Visit × Outcome)} (h : Step monitor ended monitor') :
    monitor'.queue.id? = monitor.queue.id? := by
  cases h with
  | @enter visit active _ now =>
      have hattempt := monitor.queue.id?_attempt visit.request (visit.deadline.allows now)
      rw [Monitor.enter]
      split
      · rename_i heq
        rw [← hattempt]
        exact congrArg (fun result => result.2.id?) heq.symm
      · rename_i heq
        rw [← hattempt]
        exact congrArg (fun result => result.2.id?) heq.symm
  | _ => rfl

/-- Its callers do not change the number of a queue. -/
theorem Monitor.Run.id?_eq {start : Monitor} {history : List (Visit × Outcome)}
    (h : Run start history monitor) : monitor.queue.id? = start.queue.id? := by
  induction h with
  | refl => rfl
  | step _ hstep ih => rw [hstep.id?_eq, ih]

/-- Taking turns does not change the number of a queue. -/
@[simp] theorem Monitor.id?_settle (monitor : Monitor) (now : Nat) :
    (monitor.settle now).queue.id? = monitor.queue.id? := by
  obtain ⟨history, hrun⟩ := monitor.run_settle now
  exact hrun.id?_eq

/-- A deadline does not change the number of a queue. -/
@[simp] theorem Monitor.id?_expire (monitor : Monitor) (token : Nat) :
    (monitor.expire token).queue.id? = monitor.queue.id? :=
  (monitor.run_expire token).id?_eq

end Numbers

namespace Session

variable {session session' : Session} {key k : Nat}

/-! ### The invariant -/

open Registry

/-- The queues that somebody holds are there, and no others, except for the one that may be
`loose`. Those that have been created have the numbers that were handed out to them, and the
registry accounts for what has happened. -/
structure Kept (session : Session) (history : List Notice) (loose : Option Nat) : Prop where
  /-- Every name stands for one object of a kind. -/
  nodup_names (kind : Kind) : ((session.table kind).map Prod.fst).Nodup
  /-- Every name stands for one thread. -/
  names_apart : session.threads.Pairwise Thread.Apart
  /-- A queue that is held is there. -/
  isSome_of_isHeld (key : Nat) : session.isHeld key = true → (session.monitor? key).isSome = true
  /-- A queue that is there is held, unless it is loose. -/
  isHeld_of_isSome (key : Nat) : (session.monitor? key).isSome = true →
    session.isHeld key = true ∨ loose = some key
  /-- Keys have been given in order. -/
  lt_nextKey (key : Nat) : (session.monitor? key).isSome = true → key < session.nextKey
  /-- Numbers have been handed out only to queues that have been there. -/
  owner_lt (grant : Grant) (key : Nat) :
    grant ∈ grants history → grant.owner = some key → key < session.nextKey
  /-- A queue has the number that was handed out to it, if there is one. -/
  id?_eq_some_iff (key : Nat) (monitor : Monitor) (id : Nat) : session.monitor? key = some monitor →
    (monitor.queue.id? = some id ↔ ∃ grant ∈ grants history, grant.id = id ∧ grant.owner = some key)
  /-- The registry lists what stands and is not gone. -/
  accounts : session.host.registry.Accounts (fun key => (session.monitor? key).isSome) history

variable {history : List Notice} {loose : Option Nat}

/-- Nothing is held at first. -/
theorem Kept.new : ({} : Session).Kept [] none where
  nodup_names kind := by cases kind <;> exact List.nodup_nil
  names_apart := .nil
  isSome_of_isHeld key hheld := by simp [isHeld] at hheld
  isHeld_of_isSome key hsome := by simp [monitor?] at hsome
  lt_nextKey key hsome := by simp [monitor?] at hsome
  owner_lt grant key hmem := by simp [grants] at hmem
  id?_eq_some_iff key monitor id hmonitor := by simp [monitor?] at hmonitor
  accounts := .new

/-- If no queue is loose, a queue is there exactly if it is held. -/
theorem Kept.isSome_eq (h : session.Kept history none) (key : Nat) :
    (session.monitor? key).isSome = session.isHeld key := by
  rw [Bool.eq_iff_iff]
  exact ⟨fun hsome => (h.isHeld_of_isSome key hsome).resolve_right nofun, h.isSome_of_isHeld key⟩

/-- A name stands for a queue that is there. -/
theorem Kept.isSome_of_lookup (h : session.Kept history loose) (kind : Kind) {name : String}
    (hlookup : (session.table kind).lookup name = some key) :
    (session.monitor? key).isSome = true :=
  h.isSome_of_isHeld key (isHeld_iff.mpr (.inl ⟨kind, Names.mem_keys_of_lookup hlookup⟩))

/-! ### Letting go -/

/-- A queue that is gone takes its number with it. -/
theorem Kept.retire (h : session.Kept history (some key)) {monitor : Monitor}
    (hmonitor : session.monitor? key = some monitor) :
    (monitor.queue.retire session.host).registry.Accounts
      (fun k => (session.monitor? k).isSome && k != key) history := by
  cases hqueue : monitor.queue with
  | uncreated =>
      refine h.accounts.congr fun grant hgrant k howner => ?_
      have hne : k ≠ key := by
        rintro rfl
        have hid := (h.id?_eq_some_iff k monitor grant.id hmonitor).mpr ⟨grant, hgrant, rfl, howner⟩
        rw [hqueue] at hid
        contradiction
      simp [hne]
  | created live =>
      have hid (id : Nat) := h.id?_eq_some_iff key monitor id hmonitor
      rw [hqueue] at hid
      rw [Queue.retire, Host.registry_unregister]
      refine h.accounts.gone ((hid live.id).mp rfl) fun grant hgrant howner => ?_
      exact (Option.some.inj ((hid grant.id).mpr ⟨grant, hgrant, rfl, howner⟩)).symm

/-- A queue that nobody holds is let go. -/
theorem Kept.gone (h : session.Kept history (some key)) (hfree : session.isHeld key ≠ true)
    {monitor : Monitor} (hmonitor : session.monitor? key = some monitor) :
    { session with
      host := monitor.queue.retire session.host
      queues := session.queues.filter (·.1 ≠ key) }.Kept history none := by
  -- The session after it is given a name, so that it is not unfolded in every field.
  generalize hafter : ({ session with
    host := monitor.queue.retire session.host
    queues := session.queues.filter (·.1 ≠ key) } : Session) = after
  have hlookup (k : Nat) :
      after.monitor? k = if k = key then none else session.monitor? k := by
    subst hafter
    exact lookup_filter_ne ..
  have hsome (k : Nat) : (after.monitor? k).isSome = ((session.monitor? k).isSome && k != key) := by
    rw [hlookup]
    by_cases hk : k = key <;> simp [hk]
  have hheld (k : Nat) : after.isHeld k = session.isHeld k := by
    subst hafter
    rfl
  refine
    { nodup_names := ?_, names_apart := ?_, isSome_of_isHeld := ?_, isHeld_of_isSome := ?_,
      lt_nextKey := ?_, owner_lt := ?_, id?_eq_some_iff := ?_, accounts := ?_ }
  · subst hafter
    exact h.nodup_names
  · subst hafter
    exact h.names_apart
  · intro k hk
    rw [hheld] at hk
    have hne : k ≠ key := by
      rintro rfl
      exact hfree hk
    simp [hsome, h.isSome_of_isHeld k hk, hne]
  · intro k hk
    rw [hsome, Bool.and_eq_true, bne_iff_ne] at hk
    rw [hheld]
    refine .inl ((h.isHeld_of_isSome k hk.1).resolve_right fun heq => hk.2 ?_)
    exact (Option.some.inj heq).symm
  · intro k hk
    rw [hsome, Bool.and_eq_true] at hk
    subst hafter
    exact h.lt_nextKey k hk.1
  · subst hafter
    exact h.owner_lt
  · intro k other id hk
    rw [hlookup] at hk
    split at hk
    · contradiction
    · exact h.id?_eq_some_iff k other id hk
  · simp only [hsome]
    subst hafter
    exact h.retire hmonitor

/-- **After a look at the queue that may be loose, none is.** -/
theorem Kept.release (h : session.Kept history (some key)) :
    (session.release key).Kept history none := by
  rw [Session.release]
  split
  · rename_i hheld
    -- Somebody else holds the queue, so it has not been loose.
    refine { h with isHeld_of_isSome := fun k hsome => .inl ?_ }
    rcases h.isHeld_of_isSome k hsome with hk | hk
    · exact hk
    · cases hk
      exact hheld
  · rename_i hfree
    split
    · rename_i hnone
      -- There is no such queue, so what is there is held by somebody.
      refine { h with isHeld_of_isSome := fun k hsome => .inl ?_ }
      refine (h.isHeld_of_isSome k hsome).resolve_right fun hk => ?_
      cases hk
      simp [hnone] at hsome
    · rename_i hmonitor
      exact h.gone hfree hmonitor

/-- After a look at the queue that may be loose, if there is one, none is. -/
theorem Kept.release? (h : session.Kept history loose) :
    (session.release? loose).Kept history none := by
  cases loose with
  | none => exact h
  | some key => exact h.release

/-! ### Names -/

/-- What is loose once a name has been dropped or given away is what it has stood for: every other
queue is held as before. -/
theorem Kept.isHeld_withTable (h : session.Kept history loose) {kind : Kind} {name : String}
    {names : Names} (hsubset : ((session.table kind).without name).keys ⊆ names.keys)
    (hloose : ∀ k, loose = some k → k ∈ names.keys) (hsome : (session.monitor? k).isSome = true) :
    (session.withTable names kind).isHeld k = true ∨
      (session.table kind).lookup name = some k := by
  rw [isHeld_withTable_iff]
  rcases h.isHeld_of_isSome k hsome with hheld | heq
  · rcases isHeld_iff.mp hheld with ⟨other, hmem⟩ | hcalled
    · by_cases hkind : other = kind
      · subst hkind
        rcases Names.lookup_eq_or_mem_keys_without (h.nodup_names other) hmem with hl | hmem
        · exact .inr hl
        · exact .inl (.inl (hsubset hmem))
      · exact .inl (.inr (.inl ⟨other, hkind, hmem⟩))
    · exact .inl (.inr (.inr hcalled))
  · exact .inl (.inl (hloose k heq))

/-- Other objects of one kind leave the rest of the invariant as it is. -/
theorem Kept.withTable (h : session.Kept history loose) {kind : Kind} {name : String}
    {names : Names} (hnodup : (names.map Prod.fst).Nodup)
    (hsubset : ((session.table kind).without name).keys ⊆ names.keys)
    (hloose : ∀ k, loose = some k → k ∈ names.keys)
    (hsome : ∀ k ∈ names.keys, (session.monitor? k).isSome = true) :
    (session.withTable names kind).Kept history ((session.table kind).lookup name) := by
  have hheld (k : Nat) (hk : (session.withTable names kind).isHeld k = true) :
      (session.monitor? k).isSome = true := by
    rcases isHeld_withTable_iff.mp hk with hmem | ⟨other, -, hmem⟩ | hcalled
    · exact hsome k hmem
    · exact h.isSome_of_isHeld k (isHeld_iff.mpr (.inl ⟨other, hmem⟩))
    · exact h.isSome_of_isHeld k (isHeld_iff.mpr (.inr hcalled))
  have hkept (k : Nat) (hk : (session.monitor? k).isSome = true) :
      (session.withTable names kind).isHeld k = true ∨ (session.table kind).lookup name = some k :=
    h.isHeld_withTable hsubset hloose hk
  have hnames (other : Kind) :
      (((session.withTable names kind).table other).map Prod.fst).Nodup := by
    by_cases heq : other = kind
    · subst heq
      simpa using hnodup
    · rw [table_withTable_of_ne names heq]
      exact h.nodup_names other
  cases kind <;>
    exact { h with nodup_names := hnames, isSome_of_isHeld := hheld, isHeld_of_isSome := hkept }

/-- **A name is dropped.** What it has stood for may be loose now. -/
theorem Kept.without (h : session.Kept history none) (kind : Kind) (name : String) :
    (session.withTable ((session.table kind).without name) kind).Kept history
      ((session.table kind).lookup name) := by
  refine h.withTable (Names.nodup_without (h.nodup_names kind)) (List.Subset.refl _) nofun ?_
  intro k hk
  exact h.isSome_of_isHeld k (isHeld_iff.mpr (.inl ⟨kind, Names.keys_without_subset hk⟩))

/-- **A name is given to a queue**, which then is loose no more. What the name has stood for before
may be loose now. -/
theorem Kept.assign (h : session.Kept history loose) (kind : Kind) (name : String)
    (hsome : (session.monitor? key).isSome = true) (hloose : ∀ k, loose = some k → k = key) :
    (session.withTable ((session.table kind).assign name key) kind).Kept history
      ((session.table kind).lookup name) := by
  refine h.withTable (Names.nodup_assign (h.nodup_names kind)) ?_ ?_ ?_
  · intro k hk
    exact Names.mem_keys_assign.mpr (.inr hk)
  · intro k hk
    exact Names.mem_keys_assign.mpr (.inl (hloose k hk))
  · intro k hk
    rcases Names.mem_keys_assign.mp hk with rfl | hk
    · exact hsome
    · exact h.isSome_of_isHeld k (isHeld_iff.mpr (.inl ⟨kind, Names.keys_without_subset hk⟩))

/-- Letting go of an object keeps the invariant. -/
theorem Kept.drop (h : session.Kept history none) (target : Target) :
    (session.drop target).Kept history none := by
  cases target with
  | queue name => exact (h.without .queue name).release?
  | producer name => exact (h.without .producer name).release?
  | consumer name => exact (h.without .consumer name).release?

/-- Letting go of a foreign handle keeps the invariant. -/
theorem Kept.dropHandle (h : session.Kept history none) (name : String) :
    (session.dropHandle name).Kept history none :=
  (h.without .handle name).release?

/-- Holding a queue by an object keeps the invariant. -/
theorem Kept.hold (h : session.Kept history loose) (target : Target)
    (hsome : (session.monitor? key).isSome = true) (hloose : ∀ k, loose = some k → k = key) :
    (session.hold target key).Kept history none := by
  cases target with
  | queue name => exact (h.assign .queue name hsome hloose).release?
  | producer name => exact (h.assign .producer name hsome hloose).release?
  | consumer name => exact (h.assign .consumer name hsome hloose).release?

/-- Holding a queue by a foreign handle keeps the invariant. -/
theorem Kept.holdHandle (h : session.Kept history loose) (name : String)
    (hsome : (session.monitor? key).isSome = true) (hloose : ∀ k, loose = some k → k = key) :
    (session.holdHandle name key).Kept history none :=
  (h.assign .handle name hsome hloose).release?

/-! ### Queues -/

/-- What callers do at a queue keeps the invariant, since it keeps its number. -/
theorem Kept.changeMonitor (h : session.Kept history loose) (key : Nat)
    {change : Monitor → Monitor}
    (hid : ∀ monitor, session.monitor? key = some monitor →
      (change monitor).queue.id? = monitor.queue.id?) :
    (session.changeMonitor key change).Kept history loose := by
  have hsome (k : Nat) : ((session.changeMonitor key change).monitor? k).isSome =
      (session.monitor? k).isSome := by
    rw [monitor?_changeMonitor]
    split <;> simp
  refine { h with
    isSome_of_isHeld := fun k hheld => ?_
    isHeld_of_isSome := fun k hk => ?_
    lt_nextKey := fun k hk => ?_
    id?_eq_some_iff := fun k monitor id hk => ?_
    accounts := ?_ }
  · rw [hsome]
    exact h.isSome_of_isHeld k hheld
  · rw [hsome] at hk
    exact h.isHeld_of_isSome k hk
  · rw [hsome] at hk
    exact h.lt_nextKey k hk
  · rw [monitor?_changeMonitor] at hk
    split at hk
    · rename_i heq
      subst heq
      obtain ⟨earlier, hearlier, rfl⟩ := Option.map_eq_some_iff.mp hk
      rw [hid earlier hearlier]
      exact h.id?_eq_some_iff k earlier id hearlier
    · exact h.id?_eq_some_iff k monitor id hk
  · exact h.accounts.congr fun _ _ k _ => hsome k

/-- **A new queue is taken in.** It is loose at first. -/
theorem Kept.takeIn (h : session.Kept history none) :
    (session.takeIn .uncreated).2.Kept history (some session.nextKey) := by
  have hmonitor := session.monitor?_takeIn .uncreated
  refine { h with
    isSome_of_isHeld := fun k hheld => ?_
    isHeld_of_isSome := fun k hk => ?_
    lt_nextKey := fun k hk => ?_
    owner_lt := fun grant k hgrant howner => ?_
    id?_eq_some_iff := fun k monitor id hk => ?_
    accounts := ?_ }
  · rw [hmonitor]
    split
    · rfl
    · exact h.isSome_of_isHeld k hheld
  · rw [hmonitor] at hk
    split at hk
    · rename_i heq
      exact .inr (congrArg some heq.symm)
    · exact (h.isHeld_of_isSome k hk).imp_right nofun
  · rw [hmonitor] at hk
    split at hk
    · rename_i heq
      exact Nat.lt_succ_of_le heq.le
    · exact Nat.lt_succ_of_lt (h.lt_nextKey k hk)
  · exact Nat.lt_succ_of_lt (h.owner_lt grant k hgrant howner)
  · rw [hmonitor] at hk
    split at hk
    · rename_i heq
      subst heq
      cases hk
      refine iff_of_false nofun ?_
      rintro ⟨grant, hgrant, -, howner⟩
      exact Nat.lt_irrefl _ (h.owner_lt grant _ hgrant howner)
    · exact h.id?_eq_some_iff k monitor id hk
  · refine h.accounts.congr fun grant hgrant k howner => ?_
    rw [hmonitor, if_neg (Nat.ne_of_lt (h.owner_lt grant k hgrant howner))]

/-- To enter a name is to hand out the next number. -/
theorem Kept.grants_entered (h : session.Kept history loose) (name : String)
    (owner : Option Nat) : grants (.entered name owner :: history) = grants history ++
      [{ id := session.host.registry.nextId, name, owner }] := by
  rw [grants, h.accounts.nextId_eq]

/-- No number has been handed out to a queue that has none. -/
theorem Kept.owner_ne (h : session.Kept history loose) {monitor : Monitor}
    (hmonitor : session.monitor? key = some monitor) (hnone : monitor.queue.id? = none)
    {grant : Grant} (hgrant : grant ∈ grants history) : grant.owner ≠ some key := by
  intro howner
  have := (h.id?_eq_some_iff key monitor grant.id hmonitor).mpr ⟨grant, hgrant, rfl, howner⟩
  rw [hnone] at this
  contradiction

/-- The next number, too, is handed out to a queue that has been there. -/
theorem Kept.owner_lt_entered (h : session.Kept history loose) {name : String}
    (hsome : (session.monitor? key).isSome = true) {grant : Grant}
    (hgrant : grant ∈ grants (.entered name (some key) :: history))
    (howner : grant.owner = some k) : k < session.nextKey := by
  rw [h.grants_entered, List.mem_append, List.mem_singleton] at hgrant
  rcases hgrant with hgrant | rfl
  · exact h.owner_lt grant k hgrant howner
  · cases howner
    exact h.lt_nextKey key hsome

/-- **The queue that gets the next number has it afterwards**, and the other queues have theirs. -/
theorem Kept.id?_entered_iff (h : session.Kept history loose) (name : String)
    {monitor created other : Monitor} (hmonitor : session.monitor? key = some monitor)
    (hnone : monitor.queue.id? = none)
    (hcreated : created.queue.id? = some session.host.registry.nextId)
    (hother : (if k = key then some created else session.monitor? k) = some other) (id : Nat) :
    other.queue.id? = some id ↔ ∃ grant ∈ grants (.entered name (some key) :: history),
      grant.id = id ∧ grant.owner = some k := by
  simp only [h.grants_entered, List.mem_append, List.mem_singleton]
  split at hother
  · rename_i heq
    subst heq
    cases hother
    rw [hcreated]
    constructor
    · intro hid
      exact ⟨_, .inr rfl, Option.some.inj hid, rfl⟩
    · rintro ⟨grant, hgrant | rfl, rfl, howner⟩
      · exact absurd howner (h.owner_ne hmonitor hnone hgrant)
      · rfl
  · rename_i hne
    rw [h.id?_eq_some_iff k other id hother]
    constructor
    · rintro ⟨grant, hgrant, hid, howner⟩
      exact ⟨grant, .inl hgrant, hid, howner⟩
    · rintro ⟨grant, hgrant | rfl, hid, howner⟩
      · exact ⟨grant, hgrant, hid, howner⟩
      · exact absurd (Option.some.inj howner).symm hne

/-- **A queue gets its number**, the next one. Apart from that and from the registry, `session'` is
as `session`. -/
theorem Kept.registered (h : session.Kept history loose) (name : String)
    {monitor created : Monitor} (hmonitor : session.monitor? key = some monitor)
    (hnone : monitor.queue.id? = none)
    (hcreated : created.queue.id? = some session.host.registry.nextId)
    (htable : ∀ kind, session'.table kind = session.table kind)
    (hthreads : session'.threads = session.threads) (hnext : session'.nextKey = session.nextKey)
    (hmonitor' : ∀ k, session'.monitor? k = if k = key then some created else session.monitor? k)
    (hregistry : session'.host.registry = (session.host.registry.insert name).2) :
    session'.Kept (.entered name (some key) :: history) loose := by
  have hpresent : (session.monitor? key).isSome = true := by rw [hmonitor]; rfl
  have hsome (k : Nat) : (session'.monitor? k).isSome = (session.monitor? k).isSome := by
    rw [hmonitor']
    split
    · rename_i heq
      rw [heq, hmonitor]
      rfl
    · rfl
  have hheld (k : Nat) : session'.isHeld k = session.isHeld k := isHeld_congr htable hthreads
  refine
    { nodup_names := fun kind => ?_, names_apart := ?_, isSome_of_isHeld := fun k hk => ?_,
      isHeld_of_isSome := fun k hk => ?_, lt_nextKey := fun k hk => ?_,
      owner_lt := fun grant k hgrant howner => ?_, id?_eq_some_iff := fun k other id hk => ?_,
      accounts := ?_ }
  · rw [htable]
    exact h.nodup_names kind
  · rw [hthreads]
    exact h.names_apart
  · rw [hheld] at hk
    rw [hsome]
    exact h.isSome_of_isHeld k hk
  · rw [hsome] at hk
    rw [hheld]
    exact h.isHeld_of_isSome k hk
  · rw [hsome] at hk
    rw [hnext]
    exact h.lt_nextKey k hk
  · rw [hnext]
    exact h.owner_lt_entered hpresent hgrant howner
  · exact h.id?_entered_iff name hmonitor hnone hcreated ((hmonitor' k).symm.trans hk) id
  · rw [hregistry]
    simp only [hsome]
    exact h.accounts.insert name hpresent

/-! ### Threads -/

/-- Threads come to an end, or lose their names. If a call at the queue with some key has come to an
end, the queue may be loose. -/
theorem Kept.finish (h : session.Kept history none) {change : Thread → Thread}
    (hname : ∀ thread ∈ session.threads,
      (change thread).name = thread.name ∨ (change thread).name = none)
    (hcall : ∀ thread ∈ session.threads, (change thread).call? = thread.call? ∨
      ((change thread).call? = none ∧ ∀ call, thread.call? = some call → loose = some call.key)) :
    { session with threads := session.threads.map change }.Kept history loose := by
  have hcalled (k : Nat) :
      ({ session with threads := session.threads.map change } : Session).IsCalled k →
        session.IsCalled k := by
    rintro ⟨thread', hmem, call, hthread, hkey⟩
    obtain ⟨thread, horigin, rfl⟩ := List.mem_map.mp hmem
    rcases hcall thread horigin with hsame | ⟨hnone, -⟩
    · exact ⟨thread, horigin, call, hsame ▸ hthread, hkey⟩
    · rw [hnone] at hthread
      contradiction
  refine { h with
    names_apart := ?_
    isSome_of_isHeld := fun k hheld => h.isSome_of_isHeld k ?_
    isHeld_of_isSome := fun k hsome => ?_ }
  · refine List.pairwise_map.mpr (h.names_apart.imp_of_mem fun hthread hother hapart => ?_)
    rcases hname _ hthread with hthread | hthread <;> rcases hname _ hother with hother | hother <;>
      simp only [Thread.Apart, hthread, hother, true_or] <;> simp only [Thread.Apart] at hapart <;>
      tauto
  · exact isHeld_iff.mpr ((isHeld_iff.mp hheld).imp_right (hcalled k))
  · rcases isHeld_iff.mp ((h.isHeld_of_isSome k hsome).resolve_right nofun) with hkind |
      ⟨thread, hmem, call, hthread, hkey⟩
    · exact .inl (isHeld_iff.mpr (.inl hkind))
    · rcases hcall thread hmem with hsame | ⟨-, hends⟩
      · exact .inl (isHeld_iff.mpr (.inr
          ⟨change thread, List.mem_map_of_mem hmem, call, hsame ▸ hthread, hkey⟩))
      · exact .inr (hkey ▸ hends call hthread)

/-- A thread is started. -/
theorem Kept.addThread (h : session.Kept history none) {thread : Thread}
    (hname : ∀ other ∈ session.threads, other.name ≠ thread.name)
    (hcall : ∀ call, thread.call? = some call → (session.monitor? call.key).isSome = true) :
    { session with threads := session.threads ++ [thread] }.Kept history none := by
  refine { h with
    names_apart := ?_
    isSome_of_isHeld := fun k hheld => ?_
    isHeld_of_isSome := fun k hsome => .inl (isHeld_iff.mpr ?_) }
  · refine List.pairwise_append.mpr ⟨h.names_apart, List.pairwise_singleton .., ?_⟩
    intro other hother thread' hthread
    rw [List.mem_singleton.mp hthread]
    exact .inr (hname other hother)
  · rcases isHeld_iff.mp hheld with hkind | ⟨other, hmem, call, hother, hkey⟩
    · exact h.isSome_of_isHeld k (isHeld_iff.mpr (.inl hkind))
    · rcases List.mem_append.mp hmem with hmem | hmem
      · exact h.isSome_of_isHeld k (isHeld_iff.mpr (.inr ⟨other, hmem, call, hother, hkey⟩))
      · rw [List.mem_singleton.mp hmem] at hother
        exact hkey ▸ hcall call hother
  · refine (isHeld_iff.mp ((h.isHeld_of_isSome k hsome).resolve_right nofun)).imp_right ?_
    rintro ⟨other, hmem, hother⟩
    exact ⟨other, List.mem_append_left _ hmem, hother⟩

/-- Threads that have come to an end are forgotten. -/
theorem Kept.forget (h : session.Kept history none) {test : Thread → Bool}
    (hdone : ∀ thread ∈ session.threads, test thread = false → thread.call? = none) :
    { session with threads := session.threads.filter test }.Kept history none := by
  refine { h with
    names_apart := h.names_apart.sublist List.filter_sublist
    isSome_of_isHeld := fun k hheld => h.isSome_of_isHeld k (isHeld_iff.mpr ?_)
    isHeld_of_isSome := fun k hsome => .inl (isHeld_iff.mpr ?_) }
  · refine (isHeld_iff.mp hheld).imp_right ?_
    rintro ⟨thread, hmem, hthread⟩
    exact ⟨thread, List.mem_of_mem_filter hmem, hthread⟩
  · refine (isHeld_iff.mp ((h.isHeld_of_isSome k hsome).resolve_right nofun)).imp_right ?_
    rintro ⟨thread, hmem, call, hthread, hkey⟩
    refine ⟨thread, List.mem_filter.mpr ⟨hmem, ?_⟩, call, hthread, hkey⟩
    by_contra hfalse
    rw [hdone thread hmem (by simpa using hfalse)] at hthread
    contradiction

end Session

end StableQueue
