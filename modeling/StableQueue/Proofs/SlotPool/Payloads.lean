import StableQueue.Proofs.SlotPool.FreeStack

/-!
# Slots Hold What Was Written Last

All payloads of a pool lie in one arena, and a slot that is given back or written anew leaves bytes
behind there. None of that can be seen from outside. Whatever is called on a pool, calls that are
refused or fault included, a slot holds the payload of the last successful write since it was
acquired, and nothing if there was none or if the slot is free.

`SlotPool.Journal` is any number of calls, and records what the successful ones have changed.
`recorded` reads off the record what a slot must hold. It knows nothing of arenas, ranges and
lengths.

## Main results

* `WellFormed.bytes_after`: one call changes the slots as it is recorded.
* `slots_separate`: the slots of every pool that can be reached.
-/

namespace StableQueue.SlotPool

/-- A change to what a slot holds. -/
inductive Change where
  /-- The slot was handed out. -/
  | acquired (slot : Nat)
  /-- The slot was given back. -/
  | released (slot : Nat)
  /-- A payload was written into the slot. -/
  | written (slot : Nat) (payload : ByteArray)
  deriving DecidableEq

/-- The slot that has been changed. -/
def Change.slot : Change → Nat
  | acquired slot | released slot | written slot _ => slot

/-- What a call changes, if it succeeds. -/
def changes (pool : SlotPool) : Command → List Change
  | .acquire =>
    match (acquire.runOn pool).1 with
    | .ok (some slot) => [.acquired slot]
    | _ => []
  | .release slot =>
    match ((release slot).runOn pool).1 with
    | .ok () => [.released slot]
    | .error _ => []
  | .write slot payload =>
    match ((write slot payload).runOn pool).1 with
    | .ok () => [.written slot payload]
    | .error _ => []
  | .payload _ | .readInto _ _ => []

/-- Any number of calls, and what they have changed, the latest first. -/
inductive Journal (start : SlotPool) : List Change → SlotPool → Prop
  /-- Nothing has been called yet. -/
  | refl : Journal start [] start
  /-- One call more. -/
  | step {record : List Change} {pool : SlotPool} (hjournal : Journal start record pool)
      (command : Command) : Journal start (pool.changes command ++ record) (pool.after command)

/-- What a slot must hold: the payload of the last write since it was acquired, and nothing if there
was none or if the slot has been given back. -/
def recorded (slot : Nat) : List Change → ByteArray
  | [] => .empty
  | .written other payload :: earlier => if other = slot then payload else recorded slot earlier
  | .acquired other :: earlier => if other = slot then .empty else recorded slot earlier
  | .released other :: earlier => if other = slot then .empty else recorded slot earlier

variable {start pool : SlotPool} {record : List Change} {slot : Nat} {payload : ByteArray}

/-- Changes to other slots do not matter to a slot. -/
theorem recorded_append_of_ne {changes : List Change} (h : ∀ change ∈ changes, change.slot ≠ slot) :
    recorded slot (changes ++ record) = recorded slot record := by
  induction changes with
  | nil => rfl
  | cons change changes ih =>
      obtain ⟨hne, hothers⟩ := List.forall_mem_cons.mp h
      rw [List.cons_append]
      cases change <;> exact (if_neg hne).trans (ih hothers)

/-- A slot that is not in use holds nothing. -/
theorem WellFormed.bytes_of_free (h : pool.WellFormed) (hfree : pool.isInUse slot = false) :
    pool.bytes slot = .empty := by
  simp [bytes, h.lengthAt_free slot hfree]

/-- A slot that has been given back holds nothing. -/
theorem bytes_afterRelease_self (pool : SlotPool) (slot : Nat) :
    (pool.afterRelease slot).bytes slot = .empty := by
  simp [bytes, lengthAt_afterRelease]

/-- A payload that fits can be written into a slot in use. -/
theorem WellFormed.changes_write (h : pool.WellFormed) (hused : pool.isInUse slot = true)
    (hsize : payload.size ≤ pool.slotSize) :
    pool.changes (.write slot payload) = [.written slot payload] := by
  rw [changes, runOn_write h hused hsize]

/-- **A call changes the slots as it is recorded.** -/
theorem WellFormed.bytes_after (h : pool.WellFormed) (hslot : slot < pool.slotCount)
    (hrecord : pool.bytes slot = recorded slot record) (command : Command) :
    (pool.after command).bytes slot = recorded slot (pool.changes command ++ record) := by
  cases command with
  | acquire =>
      rw [SlotPool.after, changes]
      cases hfree : pool.freeSlots with
      | nil =>
          rw [runOn_acquire_of_nil h hfree]
          exact hrecord
      | cons top rest =>
          rw [runOn_acquire h hfree, bytes_afterAcquire, List.singleton_append, recorded]
          split
          · rename_i heq
            rw [← heq, h.bytes_of_free (h.isFree_top hfree).2]
          · exact hrecord
  | release other =>
      rw [SlotPool.after, changes]
      cases hused : pool.isInUse other with
      | false =>
          rw [runOn_release_of_free hused]
          exact hrecord
      | true =>
          rw [runOn_release h hused, List.singleton_append, recorded]
          split
          · rename_i heq
            rw [heq, bytes_afterRelease_self]
          · rename_i hne
            rw [bytes_afterRelease_of_ne pool (Ne.symm hne), hrecord]
  | write other payload =>
      by_cases hfits : pool.isInUse other = true ∧ payload.size ≤ pool.slotSize
      · obtain ⟨hused, hsize⟩ := hfits
        rw [SlotPool.after, runOn_write h hused hsize, h.changes_write hused hsize,
          List.singleton_append, recorded]
        split
        · rename_i heq
          rw [heq, bytes_afterWrite_self h hslot hsize]
        · rename_i hne
          rw [bytes_afterWrite_of_ne h (h.lt_of_isInUse hused) hsize (Ne.symm hne), hrecord]
      · obtain ⟨failure, hwrite⟩ := exists_error_write hfits
        rw [SlotPool.after, changes, hwrite]
        exact hrecord
  | payload other => exact hrecord
  | readInto other buffer => exact hrecord

/-- Slots keep their size. -/
theorem WellFormed.slotSize_after (h : pool.WellFormed) (command : Command) :
    (pool.after command).slotSize = pool.slotSize := by
  obtain ⟨_, _, -, -, heq⟩ | ⟨_, -, -, heq⟩ | ⟨_, _, -, -, -, heq⟩ | ⟨-, heq⟩ :=
    h.after_cases command <;> rw [heq] <;> rfl

/-- Every pool that can be reached is well-formed, and has the size of the first one. -/
theorem Journal.wellFormed (hjournal : Journal start record pool) (hstart : start.WellFormed) :
    pool.WellFormed ∧ pool.slotCount = start.slotCount ∧ pool.slotSize = start.slotSize := by
  induction hjournal with
  | refl => exact ⟨hstart, rfl, rfl⟩
  | step _ command ih =>
      obtain ⟨hpool, hcount, hsize⟩ := ih
      obtain ⟨hafter, hsame⟩ := hpool.after command
      exact ⟨hafter, hsame.trans hcount, (hpool.slotSize_after command).trans hsize⟩

/-- Every slot of a pool that can be reached holds what it must hold. -/
theorem Journal.bytes_eq (hjournal : Journal start record pool) (hstart : start.WellFormed)
    (hnew : ∀ slot, start.bytes slot = .empty) (hslot : slot < start.slotCount) :
    pool.bytes slot = recorded slot record := by
  induction hjournal with
  | refl => exact hnew slot
  | step hjournal command ih =>
      obtain ⟨hpool, hcount, -⟩ := hjournal.wellFormed hstart
      exact hpool.bytes_after (hcount ▸ hslot) ih command

/-- Nothing has been written into a new pool. -/
theorem bytes_new {count size : Nat} (hnew : SlotPool.new count size = .ok pool) (slot : Nat) :
    pool.bytes slot = .empty :=
  (WellFormed.new hnew).1.bytes_of_free (isInUse_new hnew slot)

/-! ### What can be said of every pool -/

/-- The slots are separate byte strings, and each of them holds what is recorded of it. -/
structure Separate (pool : SlotPool) (record : List Change) : Prop where
  /-- A slot holds the last payload written into it since it was acquired. -/
  payload_eq : ∀ slot < pool.slotCount, pool.payload slot = .ok (recorded slot record)
  /-- A free slot holds nothing. -/
  payload_free : ∀ slot < pool.slotCount, pool.isInUse slot = false → pool.payload slot = .ok .empty
  /-- A slot keeps its payload, whatever is done to other slots. -/
  payload_after : ∀ slot < pool.slotCount, ∀ command,
    (∀ change ∈ pool.changes command, change.slot ≠ slot) →
      (pool.after command).payload slot = pool.payload slot
  /-- A payload that fits can be written into a slot in use. -/
  write : ∀ slot payload, pool.isInUse slot = true → payload.size ≤ pool.slotSize →
    pool.changes (.write slot payload) = [.written slot payload]
  /-- No slot holds more than it has room for. -/
  length_le : ∀ (slot : Nat) (length : Nat), pool.lengths[slot]? = some length →
    length ≤ pool.slotSize
  /-- A buffer that can hold the payload of a slot has it at its front afterwards, and behind it
  what stood there before. Any other buffer is refused and left as it is. -/
  readInto_eq : ∀ slot < pool.slotCount, ∀ buffer, pool.readInto slot buffer =
    let payload := recorded slot record
    if buffer.size < payload.size then
      .ok (.error (.bufferTooSmall payload.size buffer.size), buffer)
    else .ok (.ok payload.size, payload ++ buffer.extract payload.size buffer.size)

/-- Reading a slot into a buffer that is too small is refused. -/
theorem WellFormed.readInto_of_lt (h : pool.WellFormed) (hslot : slot < pool.slotCount)
    {buffer : ByteArray} (hsize : buffer.size < (pool.bytes slot).size) :
    pool.readInto slot buffer =
      .ok (.error (.bufferTooSmall (pool.bytes slot).size buffer.size), buffer) := by
  rw [readInto, h.payload_eq hslot]
  simp only [bind, Except.bind, hsize, ↓reduceIte]
  rfl

/-- A well-formed pool whose slots hold what is recorded. -/
theorem WellFormed.separate (h : pool.WellFormed)
    (hrecord : ∀ slot < pool.slotCount, pool.bytes slot = recorded slot record) :
    pool.Separate record where
  payload_eq slot hslot := by rw [h.payload_eq hslot, hrecord slot hslot]
  payload_free slot hslot hfree := by rw [h.payload_eq hslot, h.bytes_of_free hfree]
  payload_after slot hslot command hothers := by
    obtain ⟨hafter, hcount⟩ := h.after command
    rw [hafter.payload_eq (hcount ▸ hslot), h.payload_eq hslot,
      h.bytes_after hslot (hrecord slot hslot), recorded_append_of_ne hothers, hrecord slot hslot]
  write slot payload := h.changes_write
  length_le slot length hlength := by
    have hle := h.lengthAt_le slot
    rwa [lengthAt, hlength] at hle
  readInto_eq slot hslot buffer := by
    rw [← hrecord slot hslot]
    dsimp only
    split
    · rename_i hsize
      exact h.readInto_of_lt hslot hsize
    · rename_i hsize
      exact h.readInto_eq hslot (Nat.not_lt.mp hsize)

/-- **The arena is a map from slots to separate byte strings.** Whatever has been called on a pool,
with whatever arguments, calls that were refused or have faulted included: a slot holds what was
written into it last, and nothing of what it or any other slot has held before. -/
theorem slots_separate {count size : Nat} (hnew : SlotPool.new count size = .ok start)
    (hjournal : Journal start record pool) :
    pool.slotCount = count ∧ pool.slotSize = size ∧ pool.Separate record := by
  obtain ⟨hstart, hcount, hsize⟩ := WellFormed.new hnew
  obtain ⟨hpool, hsameCount, hsameSize⟩ := hjournal.wellFormed hstart
  refine ⟨hsameCount.trans hcount, hsameSize.trans hsize, hpool.separate fun slot hslot => ?_⟩
  exact hjournal.bytes_eq hstart (bytes_new hnew) (hsameCount ▸ hslot)

/-- The changes made by the calls at the sample: two bytes are written into slot 0, which is given
back and acquired anew; then one byte is written into it and, in vain, three bytes. -/
def sampleRecord : List Change :=
  [.written 0 ⟨#[9]⟩, .acquired 0, .released 0, .written 0 ⟨#[7, 8]⟩, .acquired 0]

/-- The sample after these calls. -/
def sampleRewritten : SlotPool :=
  [.acquire, .write 0 ⟨#[7, 8]⟩, .release 0, .acquire, .write 0 ⟨#[9]⟩, .write 0 ⟨#[1, 2, 3]⟩,
    .write 1 ⟨#[5]⟩].foldl after sample

/-- Of the bytes 7 and 8 nothing can be seen any more, although the 8 still lies in the arena. -/
theorem slots_separate_sampleRewritten :
    SlotPool.new 3 2 = .ok sample ∧ Journal sample sampleRecord sampleRewritten ∧
      sampleRewritten.Separate sampleRecord ∧ sampleRewritten.payload 0 = .ok ⟨#[9]⟩ := by
  have hnew : SlotPool.new 3 2 = .ok sample := rfl
  have hjournal : Journal sample sampleRecord sampleRewritten := by
    have hfirst := ((Journal.refl.step .acquire).step (.write 0 ⟨#[7, 8]⟩) :
      Journal sample _ _)
    have hsecond := (hfirst.step (.release 0)).step .acquire
    have hwritten := (hsecond.step (.write 0 ⟨#[9]⟩)).step (.write 0 ⟨#[1, 2, 3]⟩)
    convert hwritten.step (.write 1 ⟨#[5]⟩) using 1
    · decide +kernel
    · rfl
  obtain ⟨-, -, hseparate⟩ := slots_separate hnew hjournal
  exact ⟨hnew, hjournal, hseparate, hseparate.payload_eq 0 (by decide +kernel)⟩

end StableQueue.SlotPool
