import StableQueue.Failure
import StableQueue.Memory
import StableQueue.Heap.Sift

/-!
# The Heap of a Queue

A `Heap` holds at most a fixed number of entries in an array that never grows. Its first `len`
positions are in use; what lies beyond them is left over from entries that have gone and is never
looked at again. The entry that outranks all others is at the root.

## Main definitions

* `Heap.insert`, `Heap.extractMax`, `Heap.peekMax`, `Heap.clear`
* `Heap.live`, the entries in use, in array order
* `Heap.IsOrdered`, the heap order: no entry in use outranks its parent
-/

namespace StableQueue

/-- A binary heap of entries in an array of fixed size. -/
structure Heap where
  /-- The array; its size is the capacity of the heap. -/
  entries : Array Entry
  /-- The number of positions in use. -/
  len : Nat
  /-- The positions in use lie within the array. -/
  len_le : len ≤ entries.size

namespace Heap

/-- The number of bytes one position of the array takes. -/
def entryBytes : Nat := 24

/-- An empty heap with room for `capacity` entries. -/
def new (capacity : Nat) : Except Fault Heap :=
  if Memory.allocatable capacity entryBytes then
    .ok ⟨Array.replicate capacity .blank, 0, Nat.zero_le _⟩
  else .error .capacityOverflow

/-- The number of entries the heap can hold. -/
def capacity (heap : Heap) : Nat := heap.entries.size

/-- The heap holds no entry. -/
def isEmpty (heap : Heap) : Bool := heap.len = 0

/-- The heap has no room for another entry. -/
def isFull (heap : Heap) : Bool := heap.len = heap.capacity

/-- The entries in use, in array order. -/
def live (heap : Heap) : List Entry := heap.entries.toList.take heap.len

/-- Add an entry, and say whether there was room for it. A full heap is left as it is. -/
def insert (heap : Heap) (entry : Entry) : Bool × Heap :=
  if h : heap.len < heap.entries.size then
    let entries := heap.entries.set heap.len entry
    have hlen : heap.len < entries.size := by rw [Array.size_set]; exact h
    (true, ⟨siftUp entries heap.len hlen, heap.len + 1, by rw [size_siftUp]; exact hlen⟩)
  else (false, heap)

/-- Take out the entry at the root. The last entry in use takes its place and sifts down. -/
def extractMax (heap : Heap) : Option Entry × Heap :=
  if h : heap.len = 0 then (none, heap)
  else
    have hlen := heap.len_le
    have hroot : 0 < heap.entries.size := by omega
    let root := heap.entries[0]
    let last := heap.len - 1
    if last = 0 then
      (some root, ⟨heap.entries, last, by omega⟩)
    else
      let entries := heap.entries.set 0 heap.entries[last]
      have hsize : last ≤ entries.size := by rw [Array.size_set]; omega
      (some root, ⟨siftDown entries last 0 hsize, last, by rw [size_siftDown]; exact hsize⟩)

/-- The entry at the root. -/
def peekMax (heap : Heap) : Option Entry :=
  if h : heap.len = 0 then none
  else
    have hlen := heap.len_le
    have hroot : 0 < heap.entries.size := by omega
    some heap.entries[0]

/-- Forget every entry. The array stays. -/
def clear (heap : Heap) : Heap := ⟨heap.entries, 0, Nat.zero_le _⟩

/-- Add entries one after the other, and say for each whether there was room for it. -/
def insertAll (heap : Heap) : List Entry → List Bool × Heap
  | [] => ([], heap)
  | entry :: entries =>
    let (inserted, heap) := heap.insert entry
    let (others, heap) := heap.insertAll entries
    (inserted :: others, heap)

/-- Take out the root several times. -/
def extractMany (heap : Heap) : Nat → List (Option Entry) × Heap
  | 0 => ([], heap)
  | count + 1 =>
    let (root, heap) := heap.extractMax
    let (others, heap) := heap.extractMany count
    (root :: others, heap)

/-- The heap order: no entry in use outranks its parent. -/
def IsOrdered (heap : Heap) : Prop :=
  ∀ child, ∀ h : child < heap.len, child ≠ 0 →
    have hchild : child < heap.entries.size := Nat.lt_of_lt_of_le h heap.len_le
    have hparent : parent child < heap.entries.size := by unfold parent; omega
    heap.entries[child].outranks heap.entries[parent child] = false

instance (heap : Heap) : Decidable heap.IsOrdered := by
  unfold IsOrdered
  exact Nat.decidableBallLT _ _

/-- There are as many live entries as positions in use. -/
@[simp] theorem length_live (heap : Heap) : heap.live.length = heap.len := by
  have hlen := heap.len_le
  simp [live]
  omega

/-- A cleared heap has no live entries. -/
@[simp] theorem live_clear (heap : Heap) : heap.clear.live = [] := by
  simp [live, clear]

/-- A full heap accepts no entry and stays as it is. -/
theorem insert_of_full {heap : Heap} {entry : Entry} (h : heap.len = heap.capacity) :
    heap.insert entry = (false, heap) := by
  have hsize : ¬ heap.len < heap.entries.size := by
    rw [capacity] at h
    omega
  simp [insert, hsize]

/-- An empty heap gives nothing out and stays as it is. -/
theorem extractMax_of_empty {heap : Heap} (h : heap.len = 0) : heap.extractMax = (none, heap) := by
  simp [extractMax, h]

/-- What is taken out is what was at the root. -/
theorem extractMax_fst (heap : Heap) : heap.extractMax.1 = heap.peekMax := by
  rw [extractMax, peekMax]
  split
  · rfl
  · dsimp only
    split <;> rfl

/-- A new heap is empty and has the capacity asked for. -/
theorem new_eq_ok_iff {capacity : Nat} {heap : Heap} :
    new capacity = .ok heap ↔ Memory.allocatable capacity entryBytes = true ∧
      heap = ⟨Array.replicate capacity .blank, 0, Nat.zero_le _⟩ := by
  rw [new]
  split
  · simpa [*] using eq_comm
  · simp [*]

end Heap

end StableQueue
