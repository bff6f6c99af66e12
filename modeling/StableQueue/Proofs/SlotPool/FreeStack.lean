import StableQueue.Proofs.SlotPool.WellFormed

/-!
# The Free Slots Form a Stack

Whatever is called on a pool, with whatever arguments, and whether the calls succeed, are refused or
fault: the stack lists the free slots, each of them once. `SlotPool.Run` is any number of such
calls, and records which slots were handed out and given back on the way.

What is handed out next can be read off the record alone: the free slot that was given back last or,
if no free slot was ever given back, the first one that was never handed out. The proof says the
same of every position of the stack. A slot further down is the next one once the slots above it
have been handed out, and this survives every call, `SlotPool.Stacked.after`.

## Main results

* `WellFormed.after`: a pool stays well-formed, also when the call fails.
* `freeStack_exact`: the stack of every pool that can be reached.
-/

namespace StableQueue.SlotPool

/-- A call on a pool. -/
inductive Command where
  /-- Take a free slot. -/
  | acquire
  /-- Give a slot back. -/
  | release (slot : Nat)
  /-- Copy a payload into a slot. -/
  | write (slot : Nat) (payload : ByteArray)
  /-- Look at the payload of a slot. -/
  | payload (slot : Nat)
  /-- Copy the payload of a slot into a buffer. -/
  | readInto (slot : Nat) (buffer : ByteArray)

/-- What has happened to a slot. -/
inductive Event where
  /-- The slot was handed out. -/
  | acquired (slot : Nat)
  /-- The slot was given back. -/
  | released (slot : Nat)
  deriving DecidableEq

/-- The pool that a call leaves behind. Looking at payloads changes nothing. -/
def after (pool : SlotPool) : Command → SlotPool
  | .acquire => (acquire.runOn pool).2
  | .release slot => ((release slot).runOn pool).2
  | .write slot payload => ((write slot payload).runOn pool).2
  | .payload _ | .readInto _ _ => pool

/-- What a call does to a slot, if it succeeds. -/
def events (pool : SlotPool) : Command → List Event
  | .acquire =>
    match (acquire.runOn pool).1 with
    | .ok (some slot) => [.acquired slot]
    | _ => []
  | .release slot =>
    match ((release slot).runOn pool).1 with
    | .ok () => [.released slot]
    | .error _ => []
  | _ => []

/-- Any number of calls, and what they have done to slots, the latest first. -/
inductive Run (start : SlotPool) : List Event → SlotPool → Prop
  /-- Nothing has been called yet. -/
  | refl : Run start [] start
  /-- One call more. -/
  | step {history : List Event} {pool : SlotPool} (hrun : Run start history pool)
      (command : Command) : Run start (pool.events command ++ history) (pool.after command)

variable {start pool : SlotPool} {history : List Event} {slot : Nat} {rest : List Nat}
  {payload : ByteArray}

/-! ### What a call does -/

/-- Giving back a slot that is not in use faults before anything is changed. -/
theorem runOn_release_of_free (hslot : pool.isInUse slot = false) :
    (release slot).runOn pool = (.error (.faulted (.slotNotInUse slot)), pool) := by
  simp [release, hslot]

/-- A payload can only be written into a slot in use, and only if it fits. Otherwise the call fails
before anything is changed. -/
theorem exists_error_write (hnot : ¬ (pool.isInUse slot = true ∧ payload.size ≤ pool.slotSize)) :
    ∃ failure, (write slot payload).runOn pool = (.error failure, pool) := by
  by_cases hsize : pool.slotSize < payload.size
  · exact ⟨_, runOn_write_of_lt slot hsize⟩
  · have hslot : pool.isInUse slot ≠ true := fun hslot => hnot ⟨hslot, Nat.not_lt.mp hsize⟩
    cases hflag : pool.inUse[slot]? with
    | none => exact ⟨.faulted .outOfBounds, by simp [write, hsize, hflag]⟩
    | some inUse =>
        obtain rfl : inUse = false := by simpa [isInUse, hflag] using hslot
        exact ⟨.faulted .writeToFreeSlot, by simp [write, hsize, hflag]⟩

/-- Writing to a slot that is not in use changes nothing. -/
theorem after_write_of_free (hslot : pool.isInUse slot = false) :
    pool.after (.write slot payload) = pool := by
  have hnot : ¬ (pool.isInUse slot = true ∧ payload.size ≤ pool.slotSize) := by simp [hslot]
  obtain ⟨failure, hwrite⟩ := exists_error_write hnot
  rw [after, hwrite]

/-- **The ways in which a call can go.** A free slot is handed out, a slot in use is given back, a
payload is written into a slot in use, or the pool stays as it is. -/
theorem WellFormed.after_cases (h : pool.WellFormed) (command : Command) :
    (∃ slot rest, pool.freeSlots = slot :: rest ∧ pool.events command = [.acquired slot] ∧
      pool.after command = pool.afterAcquire slot) ∨
    (∃ slot, pool.isInUse slot = true ∧ pool.events command = [.released slot] ∧
      pool.after command = pool.afterRelease slot) ∨
    (∃ slot payload, pool.isInUse slot = true ∧ payload.size ≤ pool.slotSize ∧
      pool.events command = [] ∧ pool.after command = pool.afterWrite slot payload) ∨
    (pool.events command = [] ∧ pool.after command = pool) := by
  cases command with
  | acquire =>
      rw [after, events]
      cases hfree : pool.freeSlots with
      | nil =>
          rw [runOn_acquire_of_nil h hfree]
          exact .inr (.inr (.inr ⟨rfl, rfl⟩))
      | cons slot rest =>
          rw [runOn_acquire h hfree]
          exact .inl ⟨slot, rest, rfl, rfl, rfl⟩
  | release slot =>
      rw [after, events]
      cases hslot : pool.isInUse slot with
      | true =>
          rw [runOn_release h hslot]
          exact .inr (.inl ⟨slot, hslot, rfl, rfl⟩)
      | false =>
          rw [runOn_release_of_free hslot]
          exact .inr (.inr (.inr ⟨rfl, rfl⟩))
  | write slot payload =>
      by_cases hsize : pool.slotSize < payload.size
      · rw [after, runOn_write_of_lt slot hsize]
        exact .inr (.inr (.inr ⟨rfl, rfl⟩))
      · cases hslot : pool.isInUse slot with
        | true =>
            rw [after, runOn_write h hslot (Nat.not_lt.mp hsize)]
            exact .inr (.inr (.inl ⟨slot, payload, hslot, Nat.not_lt.mp hsize, rfl, rfl⟩))
        | false => exact .inr (.inr (.inr ⟨rfl, after_write_of_free hslot⟩))
  | payload slot => exact .inr (.inr (.inr ⟨rfl, rfl⟩))
  | readInto slot buffer => exact .inr (.inr (.inr ⟨rfl, rfl⟩))

/-- **A pool stays well-formed**, also when the call fails. -/
theorem WellFormed.after (h : pool.WellFormed) (command : Command) :
    (pool.after command).WellFormed ∧ (pool.after command).slotCount = pool.slotCount := by
  obtain ⟨slot, rest, hfree, -, heq⟩ | ⟨slot, hslot, -, heq⟩ |
    ⟨slot, payload, hslot, hsize, -, heq⟩ | ⟨-, heq⟩ := h.after_cases command
  · rw [heq]
    exact ⟨h.afterAcquire hfree, slotCount_afterAcquire⟩
  · rw [heq]
    exact ⟨h.afterRelease hslot, slotCount_afterRelease⟩
  · rw [heq]
    exact ⟨h.afterWrite hslot hsize, slotCount_afterWrite⟩
  · rw [heq]
    exact ⟨h, rfl⟩

/-- Every pool that can be reached is well-formed. -/
theorem Run.wellFormed (hrun : Run start history pool) (hstart : start.WellFormed) :
    pool.WellFormed ∧ pool.slotCount = start.slotCount := by
  induction hrun with
  | refl => exact ⟨hstart, rfl⟩
  | step hrun command ih =>
      obtain ⟨hpool, hcount⟩ := ih
      obtain ⟨hafter, hsame⟩ := hpool.after command
      exact ⟨hafter, hsame.trans hcount⟩

/-! ### The order of the stack -/

/-- Once the slots `above` have been handed out, the slot is the free one given back last or, if no
free one was ever given back, the first that was never handed out. -/
inductive Follows (pool : SlotPool) (history : List Event) (above : List Nat) (slot : Nat) : Prop
  /-- Every slot given back later is in use or above. -/
  | released {later earlier : List Event} (hhistory : history = later ++ .released slot :: earlier)
      (hlast : ∀ other, .released other ∈ later → pool.isInUse other = true ∨ other ∈ above)
  /-- Every slot ever given back is in use or above, and so is every slot with a lower number, the
  latter for the first time. -/
  | fresh (hnone : ∀ other, .released other ∈ history →
        pool.isInUse other = true ∨ other ∈ above)
      (hnever : .acquired slot ∉ history)
      (hfirst : ∀ other < slot, .acquired other ∈ history ∨ other ∈ above)

/-- Every slot of the stack follows those above it. -/
def Stacked (pool : SlotPool) (history : List Event) : Prop :=
  ∀ above slot below, pool.freeSlots = above ++ slot :: below → pool.Follows history above slot

/-- A new pool hands out its slots in ascending order. -/
theorem Stacked.new {count size : Nat} (h : SlotPool.new count size = .ok pool) :
    pool.Stacked [] := by
  intro above slot below hsplit
  rw [freeSlots_new h] at hsplit
  refine .fresh (by simp) (by simp) fun other hother => .inr ?_
  -- in `List.range`, what stands before `slot` is `List.range slot`
  obtain ⟨hlen, hslot⟩ := List.getElem?_eq_some_iff.mp
    (show (List.range count)[above.length]? = some slot by simp [hsplit])
  rw [List.getElem_range] at hslot
  have habove : above = List.range slot := by
    have htake := congrArg (List.take slot) hsplit
    rw [List.take_range, List.take_left' hslot] at htake
    rw [← htake]
    congr 1
    rw [List.length_range] at hlen
    omega
  rw [habove, List.mem_range]
  exact hother

/-- Handing out the slot on top keeps the stack in order. -/
theorem Stacked.afterAcquire (hstacked : pool.Stacked history) (h : pool.WellFormed)
    (hfree : pool.freeSlots = slot :: rest) :
    (pool.afterAcquire slot).Stacked (.acquired slot :: history) := by
  intro above next below hsplit
  rw [h.freeSlots_afterAcquire hfree] at hsplit
  have hbusy : ∀ other, pool.isInUse other = true ∨ other ∈ slot :: above →
      (pool.afterAcquire slot).isInUse other = true ∨ other ∈ above := by
    intro other hother
    rw [h.isInUse_afterAcquire hfree, Bool.or_eq_true, decide_eq_true_eq]
    rw [List.mem_cons] at hother
    tauto
  -- before, the slot handed out was the first of those above `next`
  cases hstacked (slot :: above) next below (by rw [hfree, hsplit, List.cons_append]) with
  | @released later earlier hhistory hlast =>
      have hhistory' : .acquired slot :: history =
          (.acquired slot :: later) ++ .released next :: earlier := by
        rw [hhistory, List.cons_append]
      refine .released hhistory' ?_
      intro other hother
      obtain hother := (List.mem_cons.mp hother).resolve_left (by simp)
      exact hbusy other (hlast other hother)
  | fresh hnone hnever hfirst =>
      have hnodup := h.nodup_freeSlots
      rw [hfree, hsplit, List.nodup_cons] at hnodup
      have hne : next ≠ slot := by
        rintro rfl
        exact hnodup.1 (by simp)
      refine .fresh ?_ (by simpa [hne] using hnever) ?_
      · intro other hother
        obtain hother := (List.mem_cons.mp hother).resolve_left (by simp)
        exact hbusy other (hnone other hother)
      · intro other hother
        rw [List.mem_cons, Event.acquired.injEq]
        have := hfirst other hother
        rw [List.mem_cons] at this
        tauto

/-- Giving a slot back keeps the stack in order. -/
theorem Stacked.afterRelease (hstacked : pool.Stacked history) (h : pool.WellFormed)
    (hslot : pool.isInUse slot = true) :
    (pool.afterRelease slot).Stacked (.released slot :: history) := by
  intro above next below hsplit
  rw [freeSlots_afterRelease slot (h.size_free.symm ▸ h.freeLen_lt hslot)] at hsplit
  cases above with
  | nil =>
      obtain ⟨rfl, -⟩ := List.cons.inj hsplit
      exact .released (List.nil_append _).symm (by simp)
  | cons top above =>
      obtain ⟨rfl, hrest⟩ := List.cons.inj hsplit
      have hbusy : ∀ other, pool.isInUse other = true ∨ other ∈ above →
          (pool.afterRelease slot).isInUse other = true ∨ other ∈ slot :: above := by
        intro other hother
        rw [isInUse_afterRelease, List.mem_cons]
        by_cases heq : other = slot <;> simp [heq, hother]
      cases hstacked above next below hrest with
      | @released later earlier hhistory hlast =>
          have hhistory' : .released slot :: history =
              (.released slot :: later) ++ .released next :: earlier := by
            rw [hhistory, List.cons_append]
          refine .released hhistory' ?_
          intro other hother
          rcases List.mem_cons.mp hother with heq | hother
          · exact .inr (by simp [Event.released.inj heq])
          · exact hbusy other (hlast other hother)
      | fresh hnone hnever hfirst =>
          refine .fresh ?_ (by simpa using hnever) ?_
          · intro other hother
            rcases List.mem_cons.mp hother with heq | hother
            · exact .inr (by simp [Event.released.inj heq])
            · exact hbusy other (hnone other hother)
          · intro other hother
            have := hfirst other hother
            simp only [List.mem_cons]
            tauto

/-- **Every call keeps the stack in order.** -/
theorem Stacked.after (hstacked : pool.Stacked history) (h : pool.WellFormed)
    (command : Command) : (pool.after command).Stacked (pool.events command ++ history) := by
  obtain ⟨slot, rest, hfree, hevents, heq⟩ | ⟨slot, hslot, hevents, heq⟩ |
    ⟨slot, payload, -, -, hevents, heq⟩ | ⟨hevents, heq⟩ := h.after_cases command
  · rw [heq, hevents]
    exact hstacked.afterAcquire h hfree
  · rw [heq, hevents]
    exact hstacked.afterRelease h hslot
  · -- neither the stack nor the table of slots in use has changed
    rw [heq, hevents]
    intro above next below hsplit
    cases hstacked above next below hsplit with
    | released hhistory hlast => exact .released hhistory hlast
    | fresh hnone hnever hfirst => exact .fresh hnone hnever hfirst
  · rw [heq, hevents]
    exact hstacked

/-- The stack of every pool that can be reached is in order. -/
theorem Run.stacked (hrun : Run start history pool) (hstart : start.WellFormed)
    (hnew : start.Stacked []) : pool.Stacked history := by
  induction hrun with
  | refl => exact hnew
  | step hrun command ih => exact ih.after (hrun.wellFormed hstart).1 command

/-! ### What can be said of every pool -/

/-- The height of the stack is the number of slots that are not in use. -/
theorem WellFormed.freeCount_eq_count (h : pool.WellFormed) :
    pool.freeCount = pool.inUse.count false := by
  have htable : pool.inUse.toList = (List.range pool.slotCount).map pool.isInUse := by
    apply List.ext_getElem
    · simp [h.size_inUse]
    · intro slot hslot _
      rw [Array.length_toList] at hslot
      simp [isInUse, hslot]
  have hperm : pool.freeSlots.Perm
      ((List.range pool.slotCount).filter fun slot => !pool.isInUse slot) := by
    rw [List.perm_ext_iff_of_nodup h.nodup_freeSlots (List.nodup_range.filter _)]
    intro slot
    simp [h.mem_freeSlots]
  rw [← Array.count_toList, htable, List.count, List.countP_map, ← h.length_freeSlots,
    hperm.length_eq, ← List.countP_eq_length_filter]
  congr 1
  funext slot
  simp

/-- The free slots are exactly the stack, and they are handed out by their history. -/
structure ExactStack (pool : SlotPool) (history : List Event) : Prop where
  /-- No slot is listed twice. -/
  nodup : pool.freeSlots.Nodup
  /-- The slots listed are those flagged as not in use. -/
  mem_iff : ∀ slot, slot ∈ pool.freeSlots ↔ pool.inUse[slot]? = some false
  /-- The height of the stack is their number. -/
  freeCount_eq : pool.freeCount = pool.inUse.count false
  /-- There is nothing to acquire exactly if all slots are in use. -/
  acquire_none_iff : acquire.runOn pool = (.ok none, pool) ↔
    ∀ slot < pool.slotCount, pool.isInUse slot = true
  /-- Otherwise a slot is handed out that is not in use: the free one given back last or, if no free
  one was ever given back, the first that was never handed out. Giving it back at once restores the
  pool. -/
  acquire_some : ∀ free < pool.slotCount, pool.isInUse free = false → ∃ slot after,
    acquire.runOn pool = (.ok (some slot), after) ∧ pool.isInUse slot = false ∧
      pool.Follows history [] slot ∧ (release slot).runOn after = (.ok (), pool)
  /-- A slot in use can be given back, and the stack has room for it. -/
  release : ∀ slot, pool.isInUse slot = true →
    pool.freeLen < pool.free.size ∧ ((release slot).runOn pool).1 = .ok ()
  /-- No other slot can be given back. -/
  release_free : ∀ slot, pool.isInUse slot = false →
    (SlotPool.release slot).runOn pool = (.error (.faulted (.slotNotInUse slot)), pool)

/-- A well-formed pool with its stack in order. -/
theorem WellFormed.exactStack (h : pool.WellFormed) (hstacked : pool.Stacked history) :
    pool.ExactStack history where
  nodup := h.nodup_freeSlots
  mem_iff slot := by
    rw [h.mem_freeSlots]
    constructor
    · rintro ⟨hlt, hfree⟩
      rw [h.getElem?_inUse hlt, hfree]
    · intro hflag
      obtain ⟨hlt, -⟩ := Array.getElem?_eq_some_iff.mp hflag
      exact ⟨h.size_inUse ▸ hlt, by simp [isInUse, hflag]⟩
  freeCount_eq := h.freeCount_eq_count
  acquire_none_iff := by
    cases hfree : pool.freeSlots with
    | nil =>
        refine iff_of_true (runOn_acquire_of_nil h hfree) fun slot hslot => ?_
        rw [← Bool.not_eq_false]
        intro hnot
        have := (h.mem_freeSlots slot).mpr ⟨hslot, hnot⟩
        simp [hfree] at this
    | cons slot rest =>
        obtain ⟨hlt, hnot⟩ := h.isFree_top hfree
        rw [runOn_acquire h hfree]
        refine iff_of_false (by simp) fun hall => ?_
        simp [hall slot hlt] at hnot
  acquire_some free hlt hfree := by
    obtain ⟨slot, rest, hstack⟩ := List.exists_cons_of_ne_nil
      (List.ne_nil_of_mem ((h.mem_freeSlots free).mpr ⟨hlt, hfree⟩))
    have hused : (pool.afterAcquire slot).isInUse slot = true := by
      simp [h.isInUse_afterAcquire hstack]
    refine ⟨slot, _, runOn_acquire h hstack, (h.isFree_top hstack).2,
      hstacked [] slot rest hstack, ?_⟩
    rw [runOn_release (h.afterAcquire hstack) hused, h.afterRelease_afterAcquire hstack]
  release slot hslot := by
    rw [runOn_release h hslot, h.size_free]
    exact ⟨h.freeLen_lt hslot, rfl⟩
  release_free slot := runOn_release_of_free

/-- **The free slots form a stack.** Whatever has been called on a pool, with whatever arguments,
calls that were refused or have faulted included: the stack lists exactly the free slots, and what
is handed out next is settled by what has been handed out and given back. -/
theorem freeStack_exact {count size : Nat} (hnew : SlotPool.new count size = .ok start)
    (hrun : Run start history pool) : pool.slotCount = count ∧ pool.ExactStack history := by
  obtain ⟨hstart, hcount, -⟩ := WellFormed.new hnew
  obtain ⟨hpool, hsame⟩ := hrun.wellFormed hstart
  exact ⟨hsame.trans hcount, hpool.exactStack (hrun.stacked hstart (.new hnew))⟩

/-- A pool of three slots of two bytes. -/
def sample : SlotPool where
  arena := ⟨#[0, 0, 0, 0, 0, 0]⟩
  lengths := #[0, 0, 0]
  inUse := #[false, false, false]
  free := (Array.range 3).reverse
  freeLen := 3
  slotSize := 2

/-- The calls at the sample: two slots are taken, a third one that is not in use is given back,
which faults, and then the first one is given back. -/
def sampleUsed : SlotPool :=
  (((sample.after .acquire).after .acquire).after (.release 2)).after (.release 0)

/-- The slot given back is the next one, although slot 2 has never been handed out. -/
theorem freeStack_exact_sampleUsed :
    SlotPool.new 3 2 = .ok sample ∧
      Run sample [.released 0, .acquired 1, .acquired 0] sampleUsed ∧
      sampleUsed.ExactStack [.released 0, .acquired 1, .acquired 0] := by
  have hnew : SlotPool.new 3 2 = .ok sample := rfl
  have hrun : Run sample [.released 0, .acquired 1, .acquired 0] sampleUsed := by
    have hacquired := ((Run.refl : Run sample [] sample).step .acquire).step .acquire
    convert (hacquired.step (.release 2)).step (.release 0) using 1
    · decide +kernel
    · rfl
  exact ⟨hnew, hrun, (freeStack_exact hnew hrun).2⟩

end StableQueue.SlotPool
