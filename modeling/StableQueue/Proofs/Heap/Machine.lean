import StableQueue.Proofs.Heap.Relabelling

/-!
# Heaps on a Machine

The operations of a heap are written for natural numbers and for indices that are known to lie
within the array. A machine has neither: its numbers are words, an index is only a number, and a
loop goes on until it ends, if it does. This module carries the operations out on a machine. Every
number that is computed is checked to be a word, every index is checked against the array, and
nothing is said about when a loop ends: it is the least solution of its equation, which has no
result where the loop goes on for ever.

On a heap that could be allocated no check ever fails and every loop ends, whatever the entries are
and however they compare. What comes out is what the operations of the heap give.

## Main definitions

* `Machine`: what can become of a computation on a machine.
* `Heap.Cells`: a heap as it lies in memory.

## Main results

* `Cells.siftUp_eq`, `Cells.siftDown_eq`: the loops end.
* `Heap.performAll_cells`: any number of operations.
-/

namespace StableQueue

/-- A computation on a machine either has a result, or faults, or never ends. -/
abbrev Machine := ExceptT Fault Option

namespace Machine

/-- A number that has been computed. It must fit in a word. -/
def word (value : Nat) : Machine Nat :=
  if value < Memory.addressSpace then return value else throw .outOfBounds

/-- The difference of two words. It must not fall below zero. -/
def minus (x y : Nat) : Machine Nat :=
  if y ≤ x then return x - y else throw .outOfBounds

variable {x y : Nat}

/-- A number below the size of the address space is a word. -/
theorem word_of_lt (h : x < Memory.addressSpace) : word x = pure x := if_pos h

/-- A smaller word can be subtracted. -/
theorem minus_of_le (h : y ≤ x) : minus x y = pure (x - y) := if_pos h

end Machine

namespace Heap

/-- A heap as it lies in memory: nothing ties the number of entries to the array. -/
structure Cells where
  /-- The array. -/
  entries : Array Entry
  /-- The number of positions in use. -/
  len : Nat

/-- How a heap lies in memory. -/
@[simps] def cells (heap : Heap) : Cells := ⟨heap.entries, heap.len⟩

namespace Cells

open Machine

/-- The entry at a position of the array. -/
def read (cells : Cells) (i : Nat) : Machine Entry :=
  if h : i < cells.entries.size then return cells.entries[i] else throw .outOfBounds

/-- Store an entry at a position of the array. -/
def write (cells : Cells) (i : Nat) (entry : Entry) : Machine Cells :=
  if h : i < cells.entries.size then return { cells with entries := cells.entries.set i entry }
  else throw .outOfBounds

/-- Exchange the entries at two positions of the array. -/
def swap (cells : Cells) (i j : Nat) : Machine Cells :=
  if h : i < cells.entries.size ∧ j < cells.entries.size then
    return { cells with entries := cells.entries.swap i j h.1 h.2 }
  else throw .outOfBounds

/-- Move the entry at a position up while it outranks its parent. -/
def siftUp (cells : Cells) (index : Nat) : Machine Cells := do
  if index = 0 then
    return cells
  let parent := (← minus index 1) / 2
  if (← cells.read index).outranks (← cells.read parent) then
    (← cells.swap index parent) |>.siftUp parent
  else
    return cells
partial_fixpoint

/-- The child that leaves first, of one or two. -/
def best (cells : Cells) (left right : Nat) : Machine Nat := do
  if right < cells.len then
    if (← cells.read right).outranks (← cells.read left) then
      return right
  return left

/-- Move the entry at a position down while a child outranks it. -/
def siftDown (cells : Cells) (index : Nat) : Machine Cells := do
  let left ← word ((← word (2 * index)) + 1)
  if cells.len ≤ left then
    return cells
  let right ← word (left + 1)
  let child ← cells.best left right
  if (← cells.read child).outranks (← cells.read index) then
    (← cells.swap index child) |>.siftDown child
  else
    return cells
partial_fixpoint

/-- Add an entry, and say whether there was room for it. -/
def insert (cells : Cells) (entry : Entry) : Machine (Bool × Cells) := do
  if cells.len = cells.entries.size then
    return (false, cells)
  let filled ← cells.write cells.len entry
  let len ← word (cells.len + 1)
  return (true, ← siftUp { filled with len } cells.len)

/-- Take out the entry at the root. -/
def extractMax (cells : Cells) : Machine (Option Entry × Cells) := do
  if cells.len = 0 then
    return (none, cells)
  let root ← cells.read 0
  let len ← minus cells.len 1
  if 0 < len then
    let moved ← cells.write 0 (← cells.read len)
    return (some root, ← siftDown { moved with len } 0)
  else
    return (some root, { cells with len })

/-- The entry at the root. -/
def peekMax (cells : Cells) : Machine (Option Entry) := do
  if cells.len = 0 then
    return none
  return some (← cells.read 0)

/-- The entries in use. The part of the array that holds them must lie within it. -/
def live (cells : Cells) : Machine (List Entry) :=
  if cells.len ≤ cells.entries.size then return cells.entries.toList.take cells.len
  else throw .outOfBounds

/-- Carry out an operation. -/
def perform (cells : Cells) : Command → Machine (Reply × Cells)
  | .insert entry => do
    let (accepted, cells) ← cells.insert entry
    return (.inserted accepted, cells)
  | .extractMax => do
    let (root, cells) ← cells.extractMax
    return (.extracted root, cells)
  | .clear => return (.cleared, { cells with len := 0 })

/-- Carry out several operations, one after the other. -/
def performAll (cells : Cells) : List Command → Machine (List Reply × Cells)
  | [] => return ([], cells)
  | command :: commands => do
    let (reply, cells) ← cells.perform command
    let (replies, cells) ← cells.performAll commands
    return (reply :: replies, cells)

/-! ### The array -/

variable {entries : Array Entry} {len index i j : Nat}

/-- Reading within the array. -/
theorem read_of_lt (h : i < entries.size) : read ⟨entries, len⟩ i = pure entries[i] := dif_pos h

/-- Writing within the array. -/
theorem write_of_lt (h : i < entries.size) (entry : Entry) :
    write ⟨entries, len⟩ i entry = pure ⟨entries.set i entry, len⟩ := dif_pos h

/-- Exchanging two positions within the array. -/
theorem swap_of_lt (hi : i < entries.size) (hj : j < entries.size) :
    swap ⟨entries, len⟩ i j = pure ⟨entries.swap i j, len⟩ := dif_pos ⟨hi, hj⟩

/-! ### The loops -/

/-- **Sifting up ends.** The position falls with every round. -/
theorem siftUp_eq (hi : index < entries.size) :
    siftUp ⟨entries, len⟩ index = pure ⟨Heap.siftUp entries index hi, len⟩ := by
  induction entries, index, hi using Heap.siftUp.induct with
  | case1 entries hi =>
      rw [siftUp, Heap.siftUp, if_pos rfl, dif_pos rfl]
  | case2 entries index hi hne hp hup ih =>
      have hparent : (index - 1) / 2 = parent index := rfl
      rw [siftUp, Heap.siftUp, if_neg hne, dif_neg hne, minus_of_le (by omega)]
      simp only [pure_bind, hparent, read_of_lt hi, read_of_lt (hp.trans hi), hup, ↓reduceIte,
        swap_of_lt hi (hp.trans hi)]
      exact ih
  | case3 entries index hi hne hp hup =>
      have hparent : (index - 1) / 2 = parent index := rfl
      rw [siftUp, Heap.siftUp, if_neg hne, dif_neg hne, minus_of_le (by omega)]
      simp only [pure_bind, hparent, read_of_lt hi, read_of_lt (hp.trans hi), hup]
      rfl

/-- The child that leaves first. -/
theorem best_eq (hlen : len ≤ entries.size) (hl : 2 * index + 1 < len) :
    best ⟨entries, len⟩ (2 * index + 1) (2 * index + 1 + 1) =
      pure (leadingChild entries len index hlen hl) := by
  rw [best, leadingChild]
  by_cases hr : 2 * index + 2 < len
  · rw [if_pos hr, dif_pos hr, read_of_lt (by omega), read_of_lt (by omega)]
    simp only [pure_bind]
    split <;> rfl
  · rw [if_neg hr, dif_neg hr]

/-- **Sifting down ends.** The position rises with every round and stays among those in use, so its
children have positions that fit in a word. -/
theorem siftDown_eq (hlen : len ≤ entries.size) (hindex : index < len)
    (hword : 2 * len + 1 < Memory.addressSpace) :
    siftDown ⟨entries, len⟩ index = pure ⟨Heap.siftDown entries len index hlen, len⟩ := by
  induction entries, index, hlen using Heap.siftDown.induct with
  | case1 entries index hlen hl child hc hchild hi hup ih =>
      rw [siftDown, Heap.siftDown, dif_pos hl, word_of_lt (by omega), pure_bind,
        word_of_lt (by omega), pure_bind, if_neg (Nat.not_le.mpr hl), word_of_lt (by omega),
        pure_bind, best_eq hlen hl, pure_bind, read_of_lt hchild, read_of_lt hi]
      simp only [pure_bind]
      rw [if_pos hup, if_pos hup, swap_of_lt hi hchild, pure_bind]
      exact ih hc.2
  | case2 entries index hlen hl child hc hchild hi hup =>
      rw [siftDown, Heap.siftDown, dif_pos hl, word_of_lt (by omega), pure_bind,
        word_of_lt (by omega), pure_bind, if_neg (Nat.not_le.mpr hl), word_of_lt (by omega),
        pure_bind, best_eq hlen hl, pure_bind, read_of_lt hchild, read_of_lt hi]
      simp only [pure_bind]
      rw [if_neg hup, if_neg hup]
  | case3 entries index hlen hl =>
      rw [siftDown, Heap.siftDown, dif_neg hl, word_of_lt (by omega), pure_bind,
        word_of_lt (by omega), pure_bind, if_pos (Nat.not_lt.mp hl)]

end Cells

/-! ### The operations -/

section Operations

open Machine

variable {heap : Heap}

/-- Adding an entry. -/
theorem insert_cells (hword : 2 * heap.capacity + 1 < Memory.addressSpace) (entry : Entry) :
    heap.cells.insert entry = pure ((heap.insert entry).1, (heap.insert entry).2.cells) := by
  rw [capacity] at hword
  by_cases hroom : heap.len < heap.entries.size
  · rw [Cells.insert, cells_len, cells_entries, if_neg hroom.ne, insert_of_lt hroom, cells,
      Cells.write_of_lt hroom, pure_bind, word_of_lt (by omega), pure_bind,
      Cells.siftUp_eq (by simpa), pure_bind]
    rfl
  · rw [insert_refuses entry hroom]
    exact if_pos (le_antisymm heap.len_le (Nat.not_lt.mp hroom))

/-- Taking out the root. -/
theorem extractMax_cells (hword : 2 * heap.capacity + 1 < Memory.addressSpace) :
    heap.cells.extractMax = pure (heap.extractMax.1, heap.extractMax.2.cells) := by
  have hlen := heap.len_le
  rw [capacity] at hword
  by_cases hempty : heap.len = 0
  · rw [extractMax_of_empty hempty]
    exact if_pos hempty
  · have hroot : 0 < heap.entries.size := by omega
    rw [Cells.extractMax, cells_len, cells_entries, if_neg hempty, Heap.extractMax, dif_neg hempty,
      cells, Cells.read_of_lt hroot, pure_bind, minus_of_le (by omega), pure_bind]
    by_cases hone : heap.len - 1 = 0
    · simp only [hone, ↓reduceIte]
      rfl
    · simp only [hone, ↓reduceIte]
      rw [if_pos (by omega), Cells.read_of_lt (by omega), pure_bind, Cells.write_of_lt hroot,
        pure_bind, Cells.siftDown_eq (by simp; omega) (by omega) (by omega), pure_bind]
      rfl

/-- Looking at the root. -/
theorem peekMax_cells (heap : Heap) : heap.cells.peekMax = pure heap.peekMax := by
  have hlen := heap.len_le
  by_cases hempty : heap.len = 0
  · rw [Heap.peekMax, dif_pos hempty]
    exact if_pos hempty
  · have hroot : 0 < heap.entries.size := by omega
    rw [Cells.peekMax, cells_len, if_neg hempty, Heap.peekMax, dif_neg hempty,
      cells, Cells.read_of_lt hroot, pure_bind]

/-- Listing the entries in use. -/
theorem live_cells (heap : Heap) : heap.cells.live = pure heap.live := if_pos heap.len_le

/-- **One operation ends on a machine**, without a fault, in what the heap gives. -/
theorem perform_cells (hword : 2 * heap.capacity + 1 < Memory.addressSpace) (command : Command) :
    heap.cells.perform command = pure (heap.reply command, (heap.after command).cells) := by
  cases command with
  | insert entry =>
      rw [Cells.perform, insert_cells hword, pure_bind]
      rfl
  | extractMax =>
      rw [Cells.perform, extractMax_cells hword, pure_bind]
      rfl
  | clear => rfl

/-- No operation changes the capacity. -/
@[simp] theorem capacity_after (heap : Heap) (command : Command) :
    (heap.after command).capacity = heap.capacity := by
  cases command with
  | insert entry => exact capacity_insert heap entry
  | extractMax => exact capacity_extractMax heap
  | clear => rfl

/-- **So does any number of them.** -/
theorem performAll_cells (hword : 2 * heap.capacity + 1 < Memory.addressSpace)
    (commands : List Command) :
    heap.cells.performAll commands =
      pure (heap.replies commands, (heap.afterAll commands).cells) := by
  induction commands generalizing heap with
  | nil => rfl
  | cons command commands ih =>
      rw [Cells.performAll, perform_cells hword, pure_bind]
      simp only [ih ((capacity_after heap command).symm ▸ hword), pure_bind]
      rfl

/-- The positions of a heap that could be allocated, and those of their children, fit in a word. -/
theorem word_of_new {capacity : Nat} (hnew : Heap.new capacity = .ok heap) :
    heap.capacity = capacity ∧ 2 * heap.capacity + 1 < Memory.addressSpace := by
  obtain ⟨hallocatable, rfl⟩ := new_eq_ok_iff.mp hnew
  have hsize := of_decide_eq_true hallocatable
  simp only [entryBytes, Memory.maxAllocation] at hsize
  simp only [Heap.capacity, Array.size_replicate, Memory.addressSpace, true_and]
  omega

end Operations

end Heap

end StableQueue
