import StableQueue.Heap.Entry

/-!
# Sifting

A binary heap lies in an array: the children of position `i` are at `2 * i + 1` and `2 * i + 2`,
its parent is at `(i - 1) / 2`. The two operations here repair the order after one entry has been
put in the wrong place.

* `siftUp` moves an entry towards the root while it outranks its parent.
* `siftDown` moves an entry away from the root while a child outranks it. Of two children the
  right one is taken only if it outranks the left one.

Both only swap positions, so they keep the size of the array.
-/

namespace StableQueue.Heap

/-- The position of the parent. -/
def parent (i : Nat) : Nat := (i - 1) / 2

/-- A parent stands before its child. -/
theorem parent_lt {i : Nat} (h : i ≠ 0) : parent i < i := by
  rw [parent]
  omega

/-- Move the entry at position `i` up while it outranks its parent. -/
def siftUp (entries : Array Entry) (i : Nat) (hi : i < entries.size) : Array Entry :=
  if h : i = 0 then entries
  else
    have hp : parent i < i := parent_lt h
    if entries[i].outranks entries[parent i] then
      siftUp (entries.swap i (parent i)) (parent i) (by rw [Array.size_swap]; omega)
    else entries
termination_by i

/-- Sifting up keeps the size of the array. -/
@[simp] theorem size_siftUp (entries : Array Entry) (i : Nat) (hi : i < entries.size) :
    (siftUp entries i hi).size = entries.size := by
  fun_induction siftUp entries i hi <;> simp_all

/-- The child of `i` that leaves first among the first `len` positions; the left one if neither
outranks the other. -/
def leadingChild (entries : Array Entry) (len i : Nat) (hlen : len ≤ entries.size)
    (_ : 2 * i + 1 < len) : Nat :=
  if hr : 2 * i + 2 < len then
    if entries[2 * i + 2].outranks entries[2 * i + 1] then 2 * i + 2 else 2 * i + 1
  else 2 * i + 1

/-- The leading child is a child, and lies among the first `len` positions. -/
theorem leadingChild_bounds (entries : Array Entry) (len i : Nat) (hlen : len ≤ entries.size)
    (hl : 2 * i + 1 < len) :
    i < leadingChild entries len i hlen hl ∧ leadingChild entries len i hlen hl < len := by
  rw [leadingChild]
  split
  · split <;> omega
  · omega

/-- Move the entry at position `i` down, within the first `len` positions, while a child outranks
it. -/
def siftDown (entries : Array Entry) (len i : Nat) (hlen : len ≤ entries.size) : Array Entry :=
  if hl : 2 * i + 1 < len then
    let child := leadingChild entries len i hlen hl
    have hc := leadingChild_bounds entries len i hlen hl
    have hchild : child < entries.size := Nat.lt_of_lt_of_le hc.2 hlen
    have hi : i < entries.size := Nat.lt_trans hc.1 hchild
    if entries[child].outranks entries[i] then
      siftDown (entries.swap i child) len child (by rw [Array.size_swap]; exact hlen)
    else entries
  else entries
termination_by len - i
decreasing_by omega

/-- Sifting down keeps the size of the array. -/
@[simp] theorem size_siftDown (entries : Array Entry) (len i : Nat) (hlen : len ≤ entries.size) :
    (siftDown entries len i hlen).size = entries.size := by
  fun_induction siftDown entries len i hlen <;> simp_all

end StableQueue.Heap
