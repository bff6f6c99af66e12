import StableQueue.Queue.Basic

/-!
# Which Configurations Become Queues

A queue is made in two stages. `Config.validate` looks at the configuration, and then the storage
is allocated: the heap, the tables of the slot pool, and the arena. Each of these is one allocation
and must not exceed `Memory.maxAllocation`. The two stages disagree. A configuration is valid if its
payloads fit into the address space, which is twice what one allocation may have, and the tables,
whose size depends on the depth alone, are not looked at. So there are valid configurations from
which no queue can be made: creating one is aborted rather than refused.

`Config.failure?` says for every configuration how the attempt ends.

## Main results

* `Contents.new_of_fits`, `Contents.new_of_not_fits`: when the storage can be allocated.
* `Queue.create_of_failure?`, `Queue.create_of_fits`: how creating a queue ends.
* `Queue.create_ends`: the configurations from which a queue can be made, and the valid ones from
  which none can.
-/

namespace StableQueue

namespace Config

/-- Each allocation that the storage of a queue takes is within the limit. -/
structure Fits (config : Config) : Prop where
  /-- The entries of the heap. -/
  heap : config.depth * Heap.entryBytes ≤ Memory.maxAllocation
  /-- The tables of the slot pool. -/
  tables : config.depth * SlotPool.wordBytes ≤ Memory.maxAllocation
  /-- The arena. -/
  arena : config.depth * config.messageSize ≤ Memory.maxAllocation

/-- The tables of the slot pool are smaller than the heap, and so need no condition of their own. -/
theorem fits_iff {config : Config} : config.Fits ↔
    config.depth * Heap.entryBytes ≤ Memory.maxAllocation ∧
      config.depth * config.messageSize ≤ Memory.maxAllocation := by
  refine ⟨fun h => ⟨h.heap, h.arena⟩, fun ⟨hheap, harena⟩ => ⟨hheap, ?_, harena⟩⟩
  have : SlotPool.wordBytes ≤ Heap.entryBytes := by decide
  exact Nat.le_trans (Nat.mul_le_mul_left _ this) hheap

instance decidableFits (config : Config) : Decidable config.Fits :=
  decidable_of_iff' _ fits_iff

/-- Why no queue can be made from a configuration: it is refused, or its storage cannot be
allocated. -/
def failure? (config : Config) : Option Failure :=
  match config.validate with
  | .error cause => some (.refused cause)
  | .ok () => if config.Fits then none else some (.faulted .capacityOverflow)

/-- A queue can be made from a valid configuration whose storage can be allocated. -/
theorem failure?_eq_none_iff {config : Config} :
    config.failure? = none ↔ config.validate = .ok () ∧ config.Fits := by
  rw [failure?]
  cases config.validate with
  | error cause => simp
  | ok _ => simp

end Config

/-- The storage of a queue can be allocated if each allocation is within the limit. -/
theorem Contents.new_of_fits {config : Config} (hfits : config.Fits) :
    ∃ contents, Contents.new config = .ok contents := by
  have hheap : Memory.allocatable config.depth Heap.entryBytes = true := decide_eq_true hfits.heap
  cases hpool : SlotPool.new config.depth config.messageSize with
  | error fault =>
      obtain ⟨-, htables | harena⟩ := SlotPool.new_eq_error_iff.mp hpool
      · exact absurd hfits.tables (Nat.not_le.mpr htables)
      · exact absurd hfits.arena (Nat.not_le.mpr harena)
  | ok pool =>
      rw [Contents.new, Heap.new_eq_ok_iff.mpr ⟨hheap, rfl⟩, hpool]
      exact ⟨_, rfl⟩

/-- Otherwise the allocation faults. -/
theorem Contents.new_of_not_fits {config : Config} (hnot : ¬ config.Fits) :
    Contents.new config = .error .capacityOverflow := by
  rw [Contents.new, Heap.new]
  split
  · rename_i hheap
    have hpool : SlotPool.new config.depth config.messageSize = .error .capacityOverflow := by
      rw [SlotPool.new_eq_error_iff]
      rw [Config.fits_iff, not_and] at hnot
      exact ⟨rfl, .inr (Nat.not_le.mp (hnot (of_decide_eq_true hheap)))⟩
    rw [hpool]
    rfl
  · rfl

namespace Queue

variable {config : Config}

/-- An attempt that must fail leaves everything as it was. -/
theorem create_of_failure? {failure : Failure} (hfailure : config.failure? = some failure)
    (host : Host) : (uncreated.create config).runOn host = (.error failure, host) := by
  rw [Config.failure?] at hfailure
  rw [create, Action.runOn_bind]
  cases hvalid : config.validate with
  | error cause =>
      rw [hvalid] at hfailure
      cases hfailure
      rfl
  | ok _ =>
      rw [hvalid] at hfailure
      by_cases hfits : config.Fits
      · simp [hfits] at hfailure
      · rw [if_neg hfits] at hfailure
        cases hfailure
        simp [Action.ofRefusal, Contents.new_of_not_fits hfits, Action.ofFault]

/-- Otherwise the queue is created, under the next number of the registry. -/
theorem create_of_fits (hfailure : config.failure? = none) :
    ∃ contents, Contents.new config = .ok contents ∧ ∀ host,
      (uncreated.create config).runOn host =
        (.ok (created { id := host.registry.nextId, config, contents, telemetry := {} }),
          (host.register config.name).2.emit
            (.created config.name config.depth config.messageSize)) := by
  obtain ⟨hvalid, hfits⟩ := Config.failure?_eq_none_iff.mp hfailure
  obtain ⟨contents, hnew⟩ := Contents.new_of_fits hfits
  refine ⟨contents, hnew, fun host => ?_⟩
  rw [create, hvalid, hnew]
  rfl

/-- **How creating a queue ends.** A queue can be made from exactly the valid configurations whose
heap and arena can be allocated. From the other valid ones none can be made, and the attempt is
aborted. -/
theorem create_ends (config : Config) (host : Host) :
    ((∃ queue after, (uncreated.create config).runOn host = (.ok queue, after)) ↔
      config.validate = .ok () ∧ config.depth * Heap.entryBytes ≤ Memory.maxAllocation ∧
        config.depth * config.messageSize ≤ Memory.maxAllocation) ∧
    ((uncreated.create config).runOn host = (.error (.faulted .capacityOverflow), host) ↔
      config.validate = .ok () ∧ (Memory.maxAllocation < config.depth * Heap.entryBytes ∨
        Memory.maxAllocation < config.depth * config.messageSize)) ∧
    (∀ cause, (uncreated.create config).runOn host = (.error (.refused cause), host) ↔
      config.validate = .error cause) := by
  have hends := @create_of_failure? config
  rw [Config.failure?] at hends
  cases hvalid : config.validate with
  | error cause =>
      rw [hvalid] at hends
      rw [hends rfl host]
      simp
  | ok _ =>
      rw [hvalid] at hends
      by_cases hfits : config.Fits
      · obtain ⟨contents, -, hrun⟩ :=
          create_of_fits (Config.failure?_eq_none_iff.mpr ⟨hvalid, hfits⟩)
        have hheap := Nat.not_lt.mpr hfits.heap
        have harena := Nat.not_lt.mpr hfits.arena
        simp [hrun, hfits.heap, hfits.arena, hheap, harena]
      · rw [hends (if_neg hfits) host]
        rw [Config.fits_iff, Decidable.not_and_iff_or_not, Nat.not_le, Nat.not_le] at hfits
        simp [hfits]
        omega

/-- One message that takes half of the address space. -/
def sampleWide : Config := { depth := 1, messageSize := 0x8000000000000000 }

/-- Many messages of one byte. -/
def sampleDeep : Config := { depth := 0x1000000000000000, messageSize := 1 }

/-- The one is too wide for the arena, and the other too deep for the heap, although both are
valid. -/
theorem create_aborts_on_valid :
    (sampleWide.validate = .ok () ∧
      (uncreated.create sampleWide).runOn {} = (.error (.faulted .capacityOverflow), {})) ∧
    (sampleDeep.validate = .ok () ∧
      (uncreated.create sampleDeep).runOn {} = (.error (.faulted .capacityOverflow), {})) :=
  ⟨⟨rfl, create_of_failure? (by decide) {}⟩, rfl, create_of_failure? (by decide) {}⟩

end Queue

end StableQueue
