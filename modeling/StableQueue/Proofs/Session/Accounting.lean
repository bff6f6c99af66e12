import StableQueue.Proofs.Session.Calls

/-!
# Accounting for the Registry over a Session

What the registry lists after any number of steps of a session can be read off what has happened:
which names have been entered and which numbers have been withdrawn, and which queues are still
held. `Session.Run` is any number of steps that return, and collects the notices; a step that never
returns is the last one anyway. `Session.Accounted` is what holds after every run.

## Main results

* `Queue.create_cases`, `Foreign.build_cases`: how creating a queue ends.
* `Session.Kept.step`: every step that returns keeps the invariant.
* `Session.registry_accounts`: the registry after every run.
-/

namespace StableQueue

open Registry

/-- The step that has this result has come to an end. -/
def Session.Result.returns : Session.Result → Bool
  | .single report => report.returns
  | .several reports => reports.all Report.returns

/-! ### Creating queues -/

/-- **How creating a queue ends.** Either nothing has changed, or the queue is created under the
next number and entered into the registry. -/
theorem Queue.create_cases (queue : Queue) (config : Config) (host : Host) :
    (∃ cause, (queue.create config).runOn host = (.error cause, host)) ∨
    (queue = uncreated ∧ ∃ live host',
      (queue.create config).runOn host = (.ok (created live), host') ∧
      live.id = host.registry.nextId ∧ host'.registry = (host.registry.insert config.name).2) := by
  cases queue with
  | created live => exact .inl ⟨_, rfl⟩
  | uncreated =>
      simp only [create, Action.runOn_bind]
      cases config.validate with
      | error cause => exact .inl ⟨_, rfl⟩
      | ok _ =>
          cases hnew : Contents.new config with
          | error fault => exact .inl ⟨_, rfl⟩
          | ok contents => exact .inr ⟨trivial, _, _, rfl, rfl, rfl⟩

/-- **How building a queue for a foreign caller ends.** Either there is no handle, and only the log
may have changed, or there is a new queue under the next number. -/
theorem Foreign.build_cases (name : Option ByteArray) (depth messageSize : Nat) (host : Host) :
    (∃ result host', (Foreign.build name depth messageSize).runOn host = (result, host') ∧
      (∀ queue, result ≠ .ok (some queue)) ∧ host'.registry = host.registry) ∨
    (∃ live host', (Foreign.build name depth messageSize).runOn host =
      (.ok (some (.created live)), host') ∧ live.id = host.registry.nextId ∧
      host'.registry =
        (host.registry.insert (Foreign.config name depth messageSize).name).2) := by
  obtain ⟨cause, hcreate⟩ | ⟨-, live, host', hcreate, hid, hregistry⟩ :=
    Queue.uncreated.create_cases (config name depth messageSize) host
  · have hbuild : (Queue.build (config name depth messageSize)).runOn host = (.error cause, host) :=
      hcreate
    refine .inl ?_
    rw [Action.runOn, Foreign.build, hbuild]
    cases cause with
    | refused cause => exact ⟨_, _, rfl, by simp, rfl⟩
    | faulted fault => exact ⟨_, _, rfl, by simp, rfl⟩
  · have hbuild : (Queue.build (config name depth messageSize)).runOn host =
        (.ok (.created live), host') := hcreate
    refine .inr ⟨live, host', ?_, hid, hregistry⟩
    rw [Action.runOn, Foreign.build, hbuild]

namespace Session

variable {session : Session} {history : List Notice} {loose : Option Nat} {key : Nat}

/-! ### Making queues -/

/-- Looking whether a queue is still held changes nothing about who holds which one. -/
@[simp] theorem isHeld_release (session : Session) (key k : Nat) :
    (session.release key).isHeld k = session.isHeld k := by
  rw [Session.release]
  split
  · rfl
  · split <;> rfl

/-- Looking whether a queue is still held changes nothing about who holds which one. -/
@[simp] theorem isHeld_release? (session : Session) (key? : Option Nat) (k : Nat) :
    (session.release? key?).isHeld k = session.isHeld k := by
  cases key? with
  | none => rfl
  | some key => exact isHeld_release ..

/-- What has been held by an object is held. -/
theorem isHeld_hold (session : Session) (target : Target) (key : Nat) :
    (session.hold target key).isHeld key = true := by
  cases target <;> simp only [Session.hold, isHeld_release?] <;> simp [isHeld, Names.assign]

/-- Holding a queue by several objects keeps the invariant. -/
theorem Kept.holdAll (h : session.Kept history loose) {holders : List Target} (hne : holders ≠ [])
    (hsome : (session.monitor? key).isSome = true) (hloose : ∀ k, loose = some k → k = key) :
    (holders.foldl (fun session target => session.hold target key) session).Kept history none := by
  induction holders generalizing session loose with
  | nil => contradiction
  | cons target holders ih =>
      have hhold := h.hold target hsome hloose
      cases holders with
      | nil => exact hhold
      | cons next holders =>
          exact ih hhold (by simp) (hhold.isSome_of_isHeld key (isHeld_hold ..)) nofun

/-- **A created queue is taken in.** It is loose at first. -/
theorem Kept.takeInCreated (h : session.Kept history none) {live : Live} {host : Host}
    (name : String) (hid : live.id = session.host.registry.nextId)
    (hregistry : host.registry = (session.host.registry.insert name).2) :
    ({ session with host }.takeIn (.created live)).2.Kept
      (.entered name (some session.nextKey) :: history) (some session.nextKey) := by
  have hnew : (session.takeIn .uncreated).2.monitor? session.nextKey =
      some { queue := .uncreated } := by
    rw [monitor?_takeIn, if_pos rfl]
  let created : Monitor := { queue := .created live }
  have hcreated : created.queue.id? = some session.host.registry.nextId := congrArg some hid
  refine h.takeIn.registered name hnew rfl hcreated ?_ rfl rfl ?_ hregistry
  · intro kind
    cases kind <;> rfl
  · intro k
    rw [monitor?_takeIn, monitor?_takeIn]
    split <;> rfl

/-- **How building a queue ends.** Either nothing has changed, or the queue has been entered into
the registry. -/
theorem Kept.build_cases (h : session.Kept history none) (config : Config) {holders : List Target}
    (hne : holders ≠ []) (report : Failure → Report) :
    (∃ cause, session.build config holders report = (report cause, session)) ∨
    (∃ after, session.build config holders report = (.ok .nothing, after) ∧
      after.Kept (.entered config.name (some session.nextKey) :: history) none) := by
  rw [Session.build, onHost, Queue.build]
  obtain ⟨cause, hcreate⟩ | ⟨-, live, host, hcreate, hid, hregistry⟩ :=
    Queue.uncreated.create_cases config session.host
  · rw [hcreate]
    exact .inl ⟨cause, rfl⟩
  · rw [hcreate]
    refine .inr ⟨_, rfl, ?_⟩
    refine (h.takeInCreated config.name hid hregistry).holdAll hne ?_ ?_
    · exact isSome_monitor?_takeIn ..
    · exact fun k hk => (Option.some.inj hk).symm

/-- **How building a queue for a foreign caller ends.** Either only the log has changed, or the
queue has been entered into the registry. -/
theorem Kept.foreignNew_cases (h : session.Kept history none) (handle : String)
    (name : Option ByteArray) (depth messageSize : Nat) :
    (∃ report host, session.foreignNew handle name depth messageSize =
      (report, { session with host }) ∧ report ≠ .ok (.handle true) ∧
      host.registry = session.host.registry) ∨
    (∃ after, session.foreignNew handle name depth messageSize = (.ok (.handle true), after) ∧
      after.Kept (.entered (Foreign.config name depth messageSize).name (some session.nextKey) ::
        history) none) := by
  rw [Session.foreignNew, onHost]
  obtain ⟨result, host, hbuild, hnone, hregistry⟩ | ⟨live, host, hbuild, hid, hregistry⟩ :=
    Foreign.build_cases name depth messageSize session.host
  · rw [hbuild]
    refine .inl ?_
    rcases result with cause | queue
    · exact ⟨_, host, rfl, by cases cause <;> simp [Report.ofFailure], hregistry⟩
    · cases queue with
      | none => exact ⟨_, host, rfl, by simp, hregistry⟩
      | some queue => exact absurd rfl (hnone queue)
  · rw [hbuild]
    refine .inr ⟨_, rfl, ?_⟩
    refine (h.takeInCreated _ hid hregistry).holdHandle handle ?_ ?_
    · exact isSome_monitor?_takeIn ..
    · exact fun k hk => (Option.some.inj hk).symm

/-- **How creating the queue of an object ends.** Either nothing has changed, or the queue has been
entered into the registry. -/
theorem Kept.create_cases (h : session.Kept history none) (key : Nat) (config : Config) :
    (∃ problem, session.create key config = (.error problem, session)) ∨
    (∃ after, session.create key config = (.ok .nothing, after) ∧
      after.Kept (.entered config.name (some key) :: history) none) := by
  rw [Session.create]
  cases hmonitor : session.monitor? key with
  | none => exact .inl ⟨_, rfl⟩
  | some monitor =>
      simp only [onHost]
      obtain ⟨cause, hcreate⟩ | ⟨hqueue, live, host, hcreate, hid, hregistry⟩ :=
        monitor.queue.create_cases config session.host
      · rw [hcreate]
        cases cause with
        | refused cause => exact .inl ⟨_, rfl⟩
        | faulted fault => exact .inl ⟨_, rfl⟩
      · rw [hcreate]
        refine .inr ⟨_, rfl, ?_⟩
        let created : Monitor := { monitor with queue := .created live }
        have hcreated : created.queue.id? = some session.host.registry.nextId := congrArg some hid
        refine h.registered config.name hmonitor (by rw [hqueue]; rfl) hcreated ?_ rfl rfl ?_
          hregistry
        · intro kind
          cases kind <;> rfl
        · intro k
          rw [monitor?_changeMonitor]
          split
          · rename_i hk
            rw [hk]
            exact congrArg (Option.map _) hmonitor
          · rfl

/-! ### Steps -/

/-- What a step with some result means for the registry. -/
def notices (session : Session) : Command → Result → List Notice
  | .register name, _ => [.entered name none]
  | .unregister id, _ => [.withdrawn id]
  | .create target config, .single (.ok _) => [.entered config.name (session.key? target)]
  | .build _ config, .single (.ok _) => [.entered config.name (some session.nextKey)]
  | .buildPair _ _ config, .single (.ok _) => [.entered config.name (some session.nextKey)]
  | .foreignNew _ name depth messageSize, .single (.ok (.handle true)) =>
    [.entered (Foreign.config name depth messageSize).name (some session.nextKey)]
  | _, _ => []

/-- The queue of an object is there. -/
theorem Kept.isSome_of_key? (h : session.Kept history loose) {target : Target}
    (hkey : session.key? target = some key) : (session.monitor? key).isSome = true := by
  cases target with
  | queue name => exact h.isSome_of_lookup .queue hkey
  | producer name => exact h.isSome_of_lookup .producer hkey
  | consumer name => exact h.isSome_of_lookup .consumer hkey

/-- Doing something with the queue of an object keeps the invariant, if what is done keeps it. -/
theorem Kept.withKey (h : session.Kept history none) (target : Target)
    {act : Nat → Report × Session}
    (hact : ∀ key, (session.monitor? key).isSome = true → (act key).2.Kept history none) :
    (session.withKey target act).2.Kept history none := by
  rw [Session.withKey]
  split
  · exact h
  · rename_i hkey
    exact hact _ (h.isSome_of_key? hkey)

/-- Doing something through an object keeps the invariant. -/
theorem Kept.run (h : session.Kept history none) (target : Target) (errand : Errand) :
    (session.run target errand).2.Kept history none := by
  cases errand with
  | query query => exact h
  | task task =>
      refine h.withKey target fun key _ => ?_
      have hcall := h.call key task.request task.patience
      split <;> simp_all

/-- A call through a foreign handle keeps the invariant. -/
theorem Kept.foreignCall (h : session.Kept history none) (handle : String)
    (request : Except Foreign.Status Request) (blocking : Bool) (early : Foreign.Status → Report)
    (late : Except Refusal Reply → ByteArray → Report) :
    (session.foreignCall handle request blocking early late).2.Kept history none := by
  rw [Session.foreignCall.eq_def]
  split
  · exact h
  · exact h
  · rename_i key request _
    have hcall := h.call key request (Foreign.patience blocking)
    split
    · simp_all
    · split <;> simp_all

/-- What is left of a session does not depend on the form of the report. -/
theorem snd_single (result : Report × Session) : (single result).2 = result.2 := rfl

/-- Letting go of several objects keeps the invariant. -/
theorem Kept.dropAll (h : session.Kept history none) (targets : List Target) :
    (targets.foldl Session.drop session).Kept history none := by
  induction targets generalizing session with
  | nil => exact h
  | cons target targets ih => exact ih (h.drop target)

/-- Entering a name without a queue keeps the invariant. -/
theorem Kept.register (h : session.Kept history loose) (name : String) :
    { session with host := (session.host.register name).2 }.Kept (.entered name none :: history)
      loose := by
  have hgrants (key id : Nat) : (∃ grant ∈ grants (.entered name none :: history),
        grant.id = id ∧ grant.owner = some key) ↔
      ∃ grant ∈ grants history, grant.id = id ∧ grant.owner = some key := by
    simp [grants, or_and_right, exists_or]
  refine { h with
    owner_lt := fun grant key hgrant howner => ?_
    id?_eq_some_iff := fun key monitor id hmonitor => ?_
    accounts := h.accounts.insert name rfl }
  · obtain ⟨same, hmem, -, hsame⟩ := (hgrants key grant.id).mp ⟨grant, hgrant, rfl, howner⟩
    exact h.owner_lt same key hmem hsame
  · rw [hgrants]
    exact h.id?_eq_some_iff key monitor id hmonitor

/-- Withdrawing a number keeps the invariant. -/
theorem Kept.unregister (h : session.Kept history loose) (id : Nat) :
    { session with host := session.host.unregister id }.Kept (.withdrawn id :: history) loose := by
  refine { h with accounts := ?_ }
  rw [Host.registry_unregister]
  exact h.accounts.erase id

/-- Creating the queue of an object keeps the invariant. -/
theorem Kept.step_create (h : session.Kept history none) (target : Target) (config : Config) :
    (session.step (.create target config)).2.Kept
      (session.notices (.create target config) (session.step (.create target config)).1 ++ history)
      none := by
  simp only [Session.step, Session.withKey]
  cases hkey : session.key? target with
  | none => exact h
  | some key =>
      dsimp only
      obtain ⟨problem, hcreate⟩ | ⟨after, hcreate, hafter⟩ := h.create_cases key config
      · rw [hcreate]
        exact h
      · rw [hcreate]
        simpa only [single, notices, hkey, List.singleton_append] using hafter

/-- Building a queue keeps the invariant, whoever is to hold it. -/
theorem Kept.step_of_build (h : session.Kept history none) {command : Command} {config : Config}
    {holders : List Target} {report : Failure → Report} (hne : holders ≠ [])
    (hstep : session.step command = single (session.build config holders report))
    (hfails : ∀ cause, session.notices command (.single (report cause)) = [])
    (hsucceeds : session.notices command (.single (.ok .nothing)) =
      [.entered config.name (some session.nextKey)]) :
    (session.step command).2.Kept
      (session.notices command (session.step command).1 ++ history) none := by
  rw [hstep]
  obtain ⟨cause, hbuild⟩ | ⟨after, hbuild, hafter⟩ := h.build_cases config hne report
  · rw [hbuild, single, hfails]
    exact h
  · rw [hbuild, single, hsucceeds]
    exact hafter

/-- Building a queue for a foreign caller keeps the invariant. -/
theorem Kept.step_foreignNew (h : session.Kept history none) (handle : String)
    (name : Option ByteArray) (depth messageSize : Nat) :
    (session.step (.foreignNew handle name depth messageSize)).2.Kept
      (session.notices (.foreignNew handle name depth messageSize)
        (session.step (.foreignNew handle name depth messageSize)).1 ++ history) none := by
  simp only [Session.step]
  obtain ⟨report, host, hnew, hreport, hregistry⟩ | ⟨after, hnew, hafter⟩ :=
    h.foreignNew_cases handle name depth messageSize
  · rw [hnew]
    have hnotices : session.notices (.foreignNew handle name depth messageSize)
        (.single report) = [] := by
      rw [notices.eq_def]
      split <;> simp_all
    simp only [single, hnotices]
    exact { h with accounts := hregistry ▸ h.accounts }
  · rw [hnew]
    exact hafter

/-- **Every step that returns keeps the invariant.** -/
theorem Kept.step (h : session.Kept history none) (command : Command)
    (hreturns : (session.step command).1.returns = true) :
    (session.step command).2.Kept
      (session.notices command (session.step command).1 ++ history) none := by
  cases command with
  | newQueue name =>
      refine h.takeIn.hold (.queue name) ?_ fun k hk => (Option.some.inj hk).symm
      exact isSome_monitor?_takeIn ..
  | create target config => exact h.step_create target config
  | build name config =>
      exact h.step_of_build (List.cons_ne_nil _ _) rfl (fun cause => by cases cause <;> rfl) rfl
  | buildPair producer consumer config =>
      exact h.step_of_build (List.cons_ne_nil _ _) rfl (fun cause => by cases cause <;> rfl) rfl
  | share target newcomer =>
      exact h.withKey target fun key hsome => h.hold newcomer hsome nofun
  | drop targets => exact h.dropAll targets
  | names => exact h
  | count => exact h
  | register name => exact h.register name
  | unregister id => exact h.unregister id
  | run target errand => exact h.run target errand
  | spawn thread target errand =>
      exact h.withKey target fun key hsome => h.start thread target errand hsome
  | join threads => exact h.joinAll threads hreturns
  | foreignNew handle name depth messageSize =>
      exact h.step_foreignNew handle name depth messageSize
  | foreignFree handle => exact h.dropHandle handle
  | foreignClose handle =>
      simp only [Session.step, snd_single, notices, List.nil_append]
      exact h.foreignCall ..
  | foreignOccupancy handle => exact h
  | foreignCapacity handle => exact h
  | foreignSend handle data len priority blocking =>
      simp only [Session.step, snd_single, notices, List.nil_append]
      exact h.foreignCall ..
  | foreignReceive handle lent memory blocking =>
      simp only [Session.step, snd_single, notices, List.nil_append]
      exact h.foreignCall ..

/-! ### Runs -/

/-- Any number of steps that have come to an end, and what they have meant for the registry. The
latest notice stands first. -/
inductive Run : List Notice → Session → Prop
  /-- Nothing has happened yet. -/
  | start : Run [] {}
  /-- One step more. -/
  | step {history : List Notice} {session : Session} (hrun : Run history session)
      (command : Command) (hreturns : (session.step command).1.returns = true) :
      Run (session.notices command (session.step command).1 ++ history) (session.step command).2

/-- Every run keeps the invariant. -/
theorem Run.kept (h : Run history session) : session.Kept history none := by
  induction h with
  | start => exact .new
  | step _ command hreturns ih => exact ih.step command hreturns

/-- The numbers that are to be listed: nobody has withdrawn them, and they do not belong to a queue
that nobody holds any more. -/
def listed (session : Session) (history : List Notice) : List Grant :=
  (standing history).filter (·.isCurrent session.isHeld)

/-- What is known of the registry of a session, given what has happened to it. -/
structure Accounted (session : Session) (history : List Notice) : Prop where
  /-- Numbers are handed out one after the other, starting with 1, and never twice. -/
  ids_eq : (grants history).map Grant.id = List.range' 1 (grants history).length
  /-- The next number is the answer to the next name that is entered. -/
  register_eq (name : String) :
    (session.step (.register name)).1 = .single (.ok (.number ((grants history).length + 1)))
  /-- The registry lists what is to be listed. -/
  entries_eq : session.host.registry.entries = (session.listed history).map Grant.entry
  /-- It is listed in the order of the numbers. -/
  ordered : (session.listed history).Pairwise fun grant later => grant.id < later.id
  /-- These are the names that a caller is told. -/
  names_eq : session.step .names =
    (.single (.ok (.names ((session.listed history).map Grant.name))), session)
  /-- This is the number of names that a caller is told. -/
  count_eq : session.step .count =
    (.single (.ok (.number (session.listed history).length)), session)
  /-- A queue is there as long as somebody holds it, and no longer. -/
  isSome_eq (key : Nat) : (session.monitor? key).isSome = session.isHeld key
  /-- A queue that is there has the number that was handed out to it, if there is one. -/
  id?_eq_some_iff (key : Nat) (monitor : Monitor) (id : Nat) : session.monitor? key = some monitor →
    (monitor.queue.id? = some id ↔ ∃ grant ∈ grants history, grant.id = id ∧ grant.owner = some key)
  /-- The key of a queue that has got a number will not be the key of another queue. -/
  owner_lt (grant : Grant) (key : Nat) :
    grant ∈ grants history → grant.owner = some key → key < session.nextKey
  /-- To withdraw a number that is not listed changes nothing. -/
  unregister_eq (id : Nat) : (∀ grant ∈ session.listed history, grant.id ≠ id) →
    session.step (.unregister id) = (.single (.ok .nothing), session)
  /-- What is no longer listed after a step has been withdrawn by its number, or it belonged to a
  queue that was held before the step and is not held after it. -/
  of_not_mem_listed (command : Command) (grant : Grant) :
    grant ∈ session.listed history →
    grant ∉ (session.step command).2.listed
      (session.notices command (session.step command).1 ++ history) →
    command = .unregister grant.id ∨
      ∃ key, grant.owner = some key ∧ session.isHeld key = true ∧
        (session.step command).2.isHeld key = false

/-- What stands before a step stands after it, unless the step withdraws its number. -/
theorem mem_standing_notices (session : Session) {grant : Grant} (hgrant : grant ∈ standing history)
    (command : Command) (result : Result) :
    command = .unregister grant.id ∨
      grant ∈ standing (session.notices command result ++ history) := by
  have hentered (name : String) (owner : Option Nat) :
      grant ∈ standing (.entered name owner :: history) :=
    List.mem_append_left _ hgrant
  rw [notices.eq_def]
  split
  · exact .inr (hentered ..)
  · rename_i id
    by_cases heq : grant.id = id
    · exact .inl (congrArg _ heq.symm)
    · exact .inr (List.mem_filter.mpr ⟨hgrant, by simpa using heq⟩)
  · exact .inr (hentered ..)
  · exact .inr (hentered ..)
  · exact .inr (hentered ..)
  · exact .inr (hentered ..)
  · exact .inr hgrant

/-- **The registry after every run**, of steps of all kinds. In particular it lists a queue from the
time it is created until the last holder lets go of it, or somebody withdraws its number. -/
theorem registry_accounts (hrun : Run history session) : session.Accounted history := by
  have hkept := hrun.kept
  have haccounts : session.host.registry.Accounts session.isHeld history :=
    hkept.accounts.congr fun _ _ key _ => (hkept.isSome_eq key).symm
  have hentries : session.host.registry.entries = (session.listed history).map Grant.entry :=
    haccounts.entries_eq
  refine
    { ids_eq := map_id_grants history, register_eq := fun name => ?_, entries_eq := hentries,
      ordered := ?_, names_eq := ?_, count_eq := ?_, isSome_eq := hkept.isSome_eq,
      id?_eq_some_iff := hkept.id?_eq_some_iff, owner_lt := hkept.owner_lt,
      unregister_eq := fun id hid => ?_, of_not_mem_listed := ?_ }
  · rw [← haccounts.nextId_eq]
    rfl
  · have hordered := haccounts.pairwise_entries
    rw [hentries, List.pairwise_map] at hordered
    exact hordered
  · rw [step, names, hentries, List.map_map]
    rfl
  · rw [step, count, hentries, List.length_map]
    rfl
  · have hnone : session.host.registry.find? id = none := by
      rw [find?, hentries, List.lookup_eq_none_iff]
      intro entry hentry
      obtain ⟨grant, hgrant, rfl⟩ := List.mem_map.mp hentry
      simpa [Grant.entry] using (hid grant hgrant).symm
    have hhost : session.host.unregister id = session.host := by
      rw [Host.unregister, hnone]
    rw [step, hhost]
    rfl
  · intro command grant hgrant hgone
    obtain ⟨hstanding, hcurrent⟩ := List.mem_filter.mp hgrant
    have hnotices := session.mem_standing_notices hstanding command (session.step command).1
    refine hnotices.imp_right fun hstill => ?_
    have hlost : grant.isCurrent (session.step command).2.isHeld ≠ true := fun hcurrent' =>
      hgone (List.mem_filter.mpr ⟨hstill, hcurrent'⟩)
    cases howner : grant.owner with
    | none => simp [Grant.isCurrent, howner] at hlost
    | some key =>
        rw [Grant.isCurrent, howner] at hcurrent hlost
        exact ⟨key, rfl, by simpa using hcurrent, by simpa using hlost⟩

/-- A queue with two holders, whose number is withdrawn, a queue of a foreign caller, and a name
without a queue. The number 2 is withdrawn before it has been handed out. When all is over, the
first queue still has a holder but no number, the second is gone, and the name is listed. -/
theorem registry_accounts_sample :
    ∃ history session, Run history session ∧ session.Accounted history ∧
      history = [.withdrawn 1, .entered "spare" none, .entered "foreign" (some 1), .withdrawn 2,
        .entered "shared" (some 0)] ∧
      (session.isHeld 0, session.isHeld 1) = (true, false) ∧
      session.listed history = [{ id := 3, name := "spare", owner := none }] := by
  have hrun := Run.start
    |>.step (.build "a" { name := "shared", depth := 1, messageSize := 1 }) (by decide +kernel)
    |>.step (.share (.queue "a") (.producer "p")) (by decide +kernel)
    |>.step (.unregister 2) (by decide +kernel)
    |>.step (.foreignNew "h" (some "foreign".toUTF8) 1 1) (by decide +kernel)
    |>.step (.register "spare") (by decide +kernel)
    |>.step (.unregister 1) (by decide +kernel)
    |>.step (.drop [.queue "a"]) (by decide +kernel)
    |>.step (.foreignFree "h") (by decide +kernel)
  exact ⟨_, _, hrun, registry_accounts hrun, by decide +kernel, by decide +kernel,
    by decide +kernel⟩

end Session

end StableQueue
