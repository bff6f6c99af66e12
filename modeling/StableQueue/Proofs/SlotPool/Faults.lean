import StableQueue.Proofs.SlotPool.Payloads

/-!
# Which Calls on a Pool Fail

A slot is a number, and a caller may pass any number it likes. It is multiplied by the size of a
slot, something is added, and four tables are indexed by it; each of these may leave its range. On a
pool that can be reached none of that has to be looked at. Which calls fail, and in which way, is
settled by what the caller knows: whether there is such a slot, whether it has been handed out and
not given back since, and whether the payload or the buffer has the right size.
`SlotPool.objection?` asks these questions, in the order in which they count.

A call that fails has changed nothing: neither the pool nor the buffer of the caller.

## Main results

* `WellFormed.failure?_eq`: which calls fail, and in which way.
* `WellFormed.unchanged_of_failure?`: what a call that fails leaves behind.
* `Run.isInUse_eq`: which slots are in use.
* `faults_exactly`: all of this for every pool that can be reached.
-/

namespace StableQueue.SlotPool

/-! ### What comes of a call -/

/-- Copy the payload of a slot to the front of the buffer of the caller. -/
def readOut (pool : SlotPool) (slot : Nat) : Action ByteArray Nat := do
  let (copied, buffer) ← Action.ofFault (pool.readInto slot (← get))
  set buffer
  Action.ofRefusal copied

/-- Why an operation has failed; none if it has succeeded. -/
def failureOf {α : Type} : Except Failure α → Option Failure
  | .ok _ => none
  | .error failure => some failure

/-- Why a call fails; none if it succeeds. -/
def failure? (pool : SlotPool) : Command → Option Failure
  | .acquire => failureOf (acquire.runOn pool).1
  | .release slot => failureOf ((release slot).runOn pool).1
  | .write slot payload => failureOf ((write slot payload).runOn pool).1
  | .payload slot => failureOf ((Action.ofFault (pool.payload slot)).runOn pool).1
  | .readInto slot buffer => failureOf ((pool.readOut slot).runOn buffer).1

/-- The call is aborted. -/
def Faults (pool : SlotPool) (command : Command) : Prop :=
  ∃ fault, pool.failure? command = some (.faulted fault)

/-- The call is refused, and this is why. -/
def Refuses (pool : SlotPool) (command : Command) (cause : Refusal) : Prop :=
  pool.failure? command = some (.refused cause)

/-- The buffer that the caller has lent; empty for calls without one. -/
def Command.buffer : Command → ByteArray
  | .readInto _ buffer => buffer
  | _ => .empty

/-- What is in the buffer of the caller after a call. -/
def bufferAfter (pool : SlotPool) : Command → ByteArray
  | .readInto slot buffer => ((pool.readOut slot).runOn buffer).2
  | _ => .empty

/-! ### What is wrong with a call -/

/-- What is wrong with a call, as far as its caller can tell. A payload that is too large is found
out before the slot is looked at. -/
def objection? (pool : SlotPool) : Command → Option Failure
  | .acquire => none
  | .release slot => if pool.isInUse slot then none else some (.faulted (.slotNotInUse slot))
  | .write slot payload =>
    if pool.slotSize < payload.size then
      some (.refused (.oversized payload.size pool.slotSize))
    else if pool.slotCount ≤ slot then some (.faulted .outOfBounds)
    else if pool.isInUse slot then none
    else some (.faulted .writeToFreeSlot)
  | .payload slot => if pool.slotCount ≤ slot then some (.faulted .outOfBounds) else none
  | .readInto slot buffer =>
    if pool.slotCount ≤ slot then some (.faulted .outOfBounds)
    else if buffer.size < (pool.bytes slot).size then
      some (.refused (.bufferTooSmall (pool.bytes slot).size buffer.size))
    else none

/-- The slot has been handed out and not been given back since. Of what has happened, the latest
stands first. -/
def isHeld (slot : Nat) : List Event → Bool
  | [] => false
  | .acquired other :: earlier => decide (other = slot) || isHeld slot earlier
  | .released other :: earlier => !decide (other = slot) && isHeld slot earlier

variable {start pool : SlotPool} {history : List Event} {slot : Nat} {payload buffer : ByteArray}

/-! ### Slots that do not exist -/

/-- A slot beyond the last one is not in use. -/
theorem WellFormed.isInUse_of_le (h : pool.WellFormed) (hslot : pool.slotCount ≤ slot) :
    pool.isInUse slot = false := by
  rw [← Bool.not_eq_true]
  exact fun hused => Nat.not_lt.mpr hslot (h.lt_of_isInUse hused)

/-- A slot beyond the last one has no payload, wherever its bytes would lie. -/
theorem payload_of_le (hslot : pool.slotCount ≤ slot) :
    pool.payload slot = .error .outOfBounds := by
  have hnone : pool.lengths[slot]? = none := by
    rw [Array.getElem?_eq_none_iff]
    exact hslot
  rw [SlotPool.payload, SlotPool.start]
  -- where the slot would start may still be a size, and then it is the table that has no entry
  split
  · simp only [bind, Except.bind, hnone]
  · rfl

/-! ### One call at a time -/

/-- A payload that fits cannot be written beyond the last slot. -/
theorem WellFormed.runOn_write_of_le (h : pool.WellFormed) (hslot : pool.slotCount ≤ slot)
    (hsize : payload.size ≤ pool.slotSize) :
    (write slot payload).runOn pool = (.error (.faulted .outOfBounds), pool) := by
  have hnone : pool.inUse[slot]? = none := by rwa [Array.getElem?_eq_none_iff, h.size_inUse]
  simp [write, Nat.not_lt.mpr hsize, hnone]

/-- A payload that fits cannot be written into a free slot. -/
theorem WellFormed.runOn_write_of_free (h : pool.WellFormed) (hslot : slot < pool.slotCount)
    (hfree : pool.isInUse slot = false) (hsize : payload.size ≤ pool.slotSize) :
    (write slot payload).runOn pool = (.error (.faulted .writeToFreeSlot), pool) := by
  have hflag := h.getElem?_inUse hslot
  rw [hfree] at hflag
  simp [write, Nat.not_lt.mpr hsize, hflag]

/-- Reading a slot beyond the last one faults, and leaves the buffer as it is. -/
theorem runOn_readOut_of_le (hslot : pool.slotCount ≤ slot) (buffer : ByteArray) :
    (pool.readOut slot).runOn buffer = (.error (.faulted .outOfBounds), buffer) := by
  have hread : pool.readInto slot buffer = .error .outOfBounds := by
    rw [readInto, payload_of_le hslot]
    rfl
  simp [readOut, hread, Action.ofFault]

/-- Reading into a buffer that cannot hold the payload leaves the buffer as it is. -/
theorem WellFormed.runOn_readOut_of_lt (h : pool.WellFormed) (hslot : slot < pool.slotCount)
    (hsize : buffer.size < (pool.bytes slot).size) :
    (pool.readOut slot).runOn buffer =
      (.error (.refused (.bufferTooSmall (pool.bytes slot).size buffer.size)), buffer) := by
  simp [readOut, h.readInto_of_lt hslot hsize, Action.ofFault, Action.ofRefusal]

/-- Reading into a buffer that can hold the payload succeeds. -/
theorem WellFormed.failure?_readInto (h : pool.WellFormed) (hslot : slot < pool.slotCount)
    (hsize : (pool.bytes slot).size ≤ buffer.size) :
    pool.failure? (.readInto slot buffer) = none := by
  simp [failure?, readOut, h.readInto_eq hslot hsize, Action.ofFault, Action.ofRefusal]
  rfl

/-- **A call fails exactly if something is wrong with it**, and for that reason. -/
theorem WellFormed.failure?_eq (h : pool.WellFormed) (command : Command) :
    pool.failure? command = pool.objection? command := by
  cases command with
  | acquire =>
      cases hfree : pool.freeSlots with
      | nil => rw [failure?, runOn_acquire_of_nil h hfree, objection?, failureOf]
      | cons slot rest => rw [failure?, runOn_acquire h hfree, objection?, failureOf]
  | release slot =>
      rw [failure?, objection?]
      cases hslot : pool.isInUse slot with
      | true => rw [runOn_release h hslot, if_pos rfl, failureOf]
      | false => rw [runOn_release_of_free hslot, if_neg Bool.false_ne_true, failureOf]
  | write slot payload =>
      rw [failure?, objection?]
      -- the size comes first, so the slot may be any number here
      split
      · rename_i hsize
        rw [runOn_write_of_lt slot hsize, failureOf]
      · rename_i hsize
        split
        · rename_i hslot
          rw [h.runOn_write_of_le hslot (Nat.not_lt.mp hsize), failureOf]
        · rename_i hslot
          split
          · rename_i hused
            rw [runOn_write h hused (Nat.not_lt.mp hsize), failureOf]
          · rename_i hused
            rw [h.runOn_write_of_free (Nat.not_le.mp hslot) (Bool.not_eq_true _ ▸ hused)
              (Nat.not_lt.mp hsize), failureOf]
  | payload slot =>
      rw [failure?, objection?]
      split
      · rename_i hslot
        rw [payload_of_le hslot, Action.ofFault, Action.runOn_abort, failureOf]
      · rename_i hslot
        rw [h.payload_eq (Nat.not_le.mp hslot), Action.ofFault, Action.runOn_pure, failureOf]
  | readInto slot buffer =>
      rw [objection?]
      split
      · rename_i hslot
        rw [failure?, runOn_readOut_of_le hslot, failureOf]
      · rename_i hslot
        split
        · rename_i hsize
          rw [failure?, h.runOn_readOut_of_lt (Nat.not_le.mp hslot) hsize, failureOf]
        · rename_i hsize
          exact h.failure?_readInto (Nat.not_le.mp hslot) (Nat.not_lt.mp hsize)

/-- **A call that fails changes nothing**, neither the pool nor the buffer of the caller. -/
theorem WellFormed.unchanged_of_failure? (h : pool.WellFormed) {command : Command}
    (hfails : pool.failure? command ≠ none) :
    pool.after command = pool ∧ pool.bufferAfter command = command.buffer := by
  rw [h.failure?_eq] at hfails
  cases command with
  | acquire => exact absurd rfl hfails
  | release slot =>
      have hslot : pool.isInUse slot = false := by simpa [objection?] using hfails
      rw [SlotPool.after, runOn_release_of_free hslot]
      exact ⟨rfl, rfl⟩
  | write slot payload =>
      have hnot : ¬ (pool.isInUse slot = true ∧ payload.size ≤ pool.slotSize) := by
        rintro ⟨hslot, hsize⟩
        have hlt := h.lt_of_isInUse hslot
        simp [objection?, hslot, Nat.not_lt.mpr hsize, Nat.not_le.mpr hlt] at hfails
      obtain ⟨failure, hwrite⟩ := exists_error_write hnot
      rw [SlotPool.after, hwrite]
      exact ⟨rfl, rfl⟩
  | payload slot => exact ⟨rfl, rfl⟩
  | readInto slot buffer =>
      refine ⟨rfl, ?_⟩
      rw [bufferAfter, Command.buffer]
      by_cases hslot : pool.slotCount ≤ slot
      · rw [runOn_readOut_of_le hslot]
      · by_cases hsize : buffer.size < (pool.bytes slot).size
        · rw [h.runOn_readOut_of_lt (Nat.not_le.mp hslot) hsize]
        · simp [objection?, hslot, hsize] at hfails

/-! ### Any number of calls -/

/-- Slots keep their size, whatever is called. -/
theorem Run.slotSize_eq (hrun : Run start history pool) (hstart : start.WellFormed) :
    pool.slotSize = start.slotSize := by
  induction hrun with
  | refl => rfl
  | step hrun command ih => exact ((hrun.wellFormed hstart).1.slotSize_after command).trans ih

/-- **A slot is in use while it is held**: from when it is handed out until it is given back. -/
theorem Run.isInUse_eq (hrun : Run start history pool) (hstart : start.WellFormed)
    (hnew : ∀ slot, start.isInUse slot = false) (slot : Nat) :
    pool.isInUse slot = isHeld slot history := by
  induction hrun with
  | refl => exact hnew slot
  | @step history pool hrun command ih =>
      obtain ⟨hpool, -⟩ := hrun.wellFormed hstart
      obtain ⟨other, rest, hfree, hevents, heq⟩ | ⟨other, -, hevents, heq⟩ |
        ⟨other, payload, -, -, hevents, heq⟩ | ⟨hevents, heq⟩ := hpool.after_cases command
      · rw [heq, hevents, List.singleton_append, isHeld, hpool.isInUse_afterAcquire hfree, ih]
        simp only [eq_comm]
      · rw [heq, hevents, List.singleton_append, isHeld, isInUse_afterRelease, ih]
        simp only [eq_comm]
      · rw [heq, hevents, isInUse_afterWrite, ih, List.nil_append]
      · rw [heq, hevents, ih, List.nil_append]

/-- Which calls on a pool of `count` slots of `size` bytes fail, told from what has been called
before. -/
structure FaultsExactly (pool : SlotPool) (count size : Nat) (history : List Event) : Prop where
  /-- Each table has one entry for every slot, so what is in the range of one is in the range of
  all. -/
  tables : pool.lengths.size = count ∧ pool.inUse.size = count ∧ pool.free.size = count
  /-- The arena is divided into slots, and lies in the address space. -/
  arena : pool.slotSize = size ∧ pool.arena.size = count * size ∧
    count * size < Memory.addressSpace
  /-- Whether a slot is in use can be asked of every number. It is while it is held. -/
  isInUse_eq : ∀ slot, pool.isInUse slot = isHeld slot history
  /-- Slots that do not exist are not in use. -/
  isInUse_of_le : ∀ slot, count ≤ slot → pool.isInUse slot = false
  /-- Acquiring never fails. -/
  acquire_succeeds : pool.failure? .acquire = none
  /-- What cannot be given back is aborted. -/
  release_faults_iff : ∀ slot, pool.Faults (.release slot) ↔
    count ≤ slot ∨ pool.isInUse slot = false
  /-- A payload that does not fit is refused, whatever the slot. -/
  write_refused_iff : ∀ slot payload cause, pool.Refuses (.write slot payload) cause ↔
    size < payload.size ∧ cause = .oversized payload.size size
  /-- A payload that fits can be written into slots in use only. -/
  write_faults_iff : ∀ slot payload, pool.Faults (.write slot payload) ↔
    payload.size ≤ size ∧ (count ≤ slot ∨ pool.isInUse slot = false)
  /-- Every slot that exists can be looked at, in use or not. -/
  payload_faults_iff : ∀ slot, pool.Faults (.payload slot) ↔ count ≤ slot
  /-- Every slot that exists can be copied, in use or not. -/
  readInto_faults_iff : ∀ slot buffer, pool.Faults (.readInto slot buffer) ↔ count ≤ slot
  /-- Copying is refused if the buffer cannot hold the payload. -/
  readInto_refused_iff : ∀ slot buffer cause, pool.Refuses (.readInto slot buffer) cause ↔
    ∃ payload, pool.payload slot = .ok payload ∧ buffer.size < payload.size ∧
      cause = .bufferTooSmall payload.size buffer.size
  /-- Of the other calls none is refused. -/
  eq_of_refuses : ∀ command cause, pool.Refuses command cause →
    (∃ slot payload, command = .write slot payload) ∨
      ∃ slot buffer, command = .readInto slot buffer
  /-- A call that fails leaves the pool and the buffer of the caller as they were. -/
  unchanged : ∀ command, pool.failure? command ≠ none →
    pool.after command = pool ∧ pool.bufferAfter command = command.buffer

/-- A well-formed pool fails exactly as it must. -/
theorem WellFormed.faultsExactly (h : pool.WellFormed)
    (hheld : ∀ slot, pool.isInUse slot = isHeld slot history) :
    pool.FaultsExactly pool.slotCount pool.slotSize history where
  tables := ⟨rfl, h.size_inUse, h.size_free⟩
  arena := ⟨rfl, h.size_arena, h.size_arena ▸ h.arena_lt⟩
  isInUse_eq := hheld
  isInUse_of_le slot := h.isInUse_of_le
  acquire_succeeds := h.failure?_eq .acquire
  release_faults_iff slot := by
    rw [Faults, h.failure?_eq, objection?]
    have hlt := @WellFormed.lt_of_isInUse pool slot h
    cases hused : pool.isInUse slot with
    | true => simp [Nat.not_le.mpr (hlt hused)]
    | false => simp
  write_refused_iff slot payload cause := by
    rw [Refuses, h.failure?_eq, objection?]
    by_cases hsize : pool.slotSize < payload.size
    · simp [hsize, eq_comm]
    · rw [if_neg hsize]
      split
      · simp [hsize]
      · split <;> simp [hsize]
  write_faults_iff slot payload := by
    rw [Faults, h.failure?_eq, objection?]
    by_cases hsize : pool.slotSize < payload.size
    · simp [hsize]
    · by_cases hslot : pool.slotCount ≤ slot
      · simp [hsize, hslot, Nat.not_lt.mp hsize]
      · cases hused : pool.isInUse slot <;> simp [hsize, hslot, Nat.not_lt.mp hsize]
  payload_faults_iff slot := by
    rw [Faults, h.failure?_eq, objection?]
    split <;> simp [*]
  readInto_faults_iff slot buffer := by
    rw [Faults, h.failure?_eq, objection?]
    split
    · simp [*]
    · split <;> simp [*]
  readInto_refused_iff slot buffer cause := by
    rw [Refuses, h.failure?_eq, objection?]
    by_cases hslot : pool.slotCount ≤ slot
    · simp [hslot, payload_of_le hslot]
    · rw [if_neg hslot, h.payload_eq (Nat.not_le.mp hslot)]
      by_cases hsize : buffer.size < (pool.bytes slot).size <;> simp [hsize, eq_comm]
  eq_of_refuses command cause hrefused := by
    rw [Refuses, h.failure?_eq] at hrefused
    cases command with
    | acquire => contradiction
    | release slot => simp [objection?] at hrefused
    | write slot payload => exact .inl ⟨slot, payload, rfl⟩
    | payload slot => simp [objection?] at hrefused
    | readInto slot buffer => exact .inr ⟨slot, buffer, rfl⟩
  unchanged command := h.unchanged_of_failure?

/-- **Exactly these calls on a pool fail.** Whatever has been called on a pool before, with whatever
arguments, calls that were refused or have faulted included, and however large the number of the
slot: a call is aborted only if there is no such slot or it is not in use, and refused only for the
size of the payload or the buffer. -/
theorem faults_exactly {count size : Nat} (hnew : SlotPool.new count size = .ok start)
    (hrun : Run start history pool) : pool.FaultsExactly count size history := by
  obtain ⟨hstart, rfl, rfl⟩ := WellFormed.new hnew
  obtain ⟨hpool, hcount⟩ := hrun.wellFormed hstart
  rw [← hcount, ← hrun.slotSize_eq hstart]
  exact hpool.faultsExactly (hrun.isInUse_eq hstart (isInUse_new hnew))

/-- A pool of two slots that have no room for a single byte. -/
def sampleHollow : SlotPool where
  arena := .empty
  lengths := #[0, 0]
  inUse := #[false, false]
  free := (Array.range 2).reverse
  freeLen := 2
  slotSize := 0

/-- No multiple of zero leaves the address space, and yet the last of all numbers is no slot. Slot 0
takes the empty payload once it has been handed out. -/
theorem faults_exactly_sampleHollow :
    SlotPool.new 2 0 = .ok sampleHollow ∧
      Run sampleHollow [.acquired 0] (sampleHollow.after .acquire) ∧
      (sampleHollow.after .acquire).FaultsExactly 2 0 [.acquired 0] ∧
      (sampleHollow.after .acquire).Faults (.write (Memory.addressSpace - 1) .empty) ∧
      (sampleHollow.after .acquire).Refuses (.write (Memory.addressSpace - 1) ⟨#[7]⟩)
        (.oversized 1 0) ∧
      ¬ (sampleHollow.after .acquire).Faults (.write 0 .empty) := by
  have hnew : SlotPool.new 2 0 = .ok sampleHollow := rfl
  have hrun : Run sampleHollow [.acquired 0] (sampleHollow.after .acquire) := by
    convert (Run.refl : Run sampleHollow [] sampleHollow).step .acquire using 1
    decide +kernel
  have hexact := faults_exactly hnew hrun
  refine ⟨hnew, hrun, hexact, ?_, ?_, ?_⟩
  · rw [hexact.write_faults_iff]
    exact ⟨Nat.le_refl 0, .inl (by decide)⟩
  · rw [hexact.write_refused_iff]
    exact ⟨Nat.one_pos, rfl⟩
  · rw [hexact.write_faults_iff, hexact.isInUse_eq]
    decide

end StableQueue.SlotPool
