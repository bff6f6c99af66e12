import StableQueue.Proofs.Heap.Order

/-!
# What the Heap Operations Do to the Live Entries

A heap is a bag of entries, `Heap.live`, and an order in which they stand in the array. Inserting
adds an entry to the bag and extracting takes the root out of it, whatever the order is like: the
sifts only swap positions in use. If the entries are coherent, that is, if their serial numbers
lie on half of the circle for each priority, then both operations also keep the heap order, and
the root is an entry that no other outranks.

## Main results

* `live_insert_perm`, `live_extractMax_perm`: what happens to the bag, for any entries.
* `isOrdered_insert`, `isOrdered_extractMax`: coherent entries stay in heap order.
* `outranks_peekMax`: no coherent entry outranks the root.
-/

namespace StableQueue

/-- For each priority, the serial numbers of the entries lie on half of the circle. -/
def Entry.Coherent (entries : List Entry) : Prop :=
  ∃ base : Int → UInt64, ∀ entry ∈ entries,
    Serial.distance (base entry.priority) entry.sequence < 2 ^ 63

namespace Heap

/-! ### Swaps within the positions in use -/

/-- Swapping two of the first `len` positions permutes the entries there. -/
theorem take_swap_perm {entries : Array Entry} {len i j : Nat} {hi' : i < entries.size}
    {hj' : j < entries.size} (hlen : len ≤ entries.size) (hi : i < len) (hj : j < len) :
    ((entries.swap i j hi' hj').toList.take len).Perm (entries.toList.take len) := by
  have hsize : (entries.extract 0 len).size = len := by
    simp
    omega
  have hextract : (entries.swap i j hi' hj').extract 0 len =
      (entries.extract 0 len).swap i j (hsize.symm ▸ hi) (hsize.symm ▸ hj) := by
    apply Array.ext
    · simp
    · intro k hk _
      simp only [Array.getElem_extract, Array.getElem_swap, Nat.zero_add]
  have hperm := Array.swap_perm (hsize.symm ▸ hi) (hsize.symm ▸ hj)
  rw [← hextract, Array.perm_iff_toList_perm] at hperm
  simpa using hperm

/-- Sifting up permutes the entries in use. -/
theorem take_siftUp_perm {entries : Array Entry} {len i : Nat} (hi : i < entries.size)
    (hlen : len ≤ entries.size) (hilen : i < len) :
    ((siftUp entries i hi).toList.take len).Perm (entries.toList.take len) := by
  induction entries, i, hi using siftUp.induct with
  | case1 entries hi => rw [siftUp, dif_pos rfl]
  | case2 entries i hi hne hp hup ih =>
      rw [siftUp, dif_neg hne]
      simp only [hup, ↓reduceIte]
      exact (ih (by simpa using hlen) (by omega)).trans (take_swap_perm hlen hilen (by omega))
  | case3 entries i hi hne hp hup =>
      rw [siftUp, dif_neg hne]
      simp [hup]

/-- Sifting down permutes the entries in use. -/
theorem take_siftDown_perm {entries : Array Entry} {len i : Nat} (hlen : len ≤ entries.size) :
    ((siftDown entries len i hlen).toList.take len).Perm (entries.toList.take len) := by
  induction entries, i, hlen using siftDown.induct with
  | case1 entries i hlen hl child hc hchild hi hup ih =>
      rw [siftDown, dif_pos hl]
      simp only [child] at hup ih hchild
      simp only [hup, ↓reduceIte]
      exact ih.trans (take_swap_perm hlen (by omega) hc.2)
  | case2 entries i hlen hl child hc hchild hi hup =>
      rw [siftDown, dif_pos hl]
      simp only [child] at hup
      simp [hup]
  | case3 entries i hlen hl => rw [siftDown, dif_neg hl]

/-! ### The entries in use -/

variable {heap : Heap} {entry root : Entry}

/-- The entry at a position in use is live. -/
theorem entryAt_mem_live {i : Nat} (h : i < heap.len) : entryAt heap.entries i ∈ heap.live := by
  have hlen := heap.len_le
  rw [entryAt_of_lt (by omega), live, List.mem_take_iff_getElem]
  exact ⟨i, by simp; omega, by simp⟩

/-- A live entry is the entry at a position in use. -/
theorem exists_entryAt_of_mem_live (h : entry ∈ heap.live) :
    ∃ i < heap.len, entryAt heap.entries i = entry := by
  have hlen := heap.len_le
  rw [live, List.mem_take_iff_getElem] at h
  obtain ⟨i, hi, rfl⟩ := h
  have hi' : i < heap.len := by omega
  exact ⟨i, hi', by rw [entryAt_of_lt (by omega), Array.getElem_toList]⟩

/-- Coherent entries are ranked. -/
theorem ranked_of_coherent (h : Entry.Coherent heap.live) :
    ∃ base, Ranked (Entry.rank base) heap.entries heap.len := by
  obtain ⟨base, hbase⟩ := h
  exact ⟨base, ranked_of_distance fun i hi => hbase _ (entryAt_mem_live hi)⟩

/-! ### The root -/

/-- The root of a heap that is not empty is the entry at position zero. -/
theorem peekMax_eq_some_iff :
    heap.peekMax = some root ↔ 0 < heap.len ∧ entryAt heap.entries 0 = root := by
  have hlen := heap.len_le
  rw [peekMax]
  split
  · rename_i h
    simp [h]
  · rename_i h
    rw [entryAt_of_lt (by omega)]
    simp
    omega

/-- A heap that is not empty has a root. -/
theorem exists_peekMax (h : 0 < heap.len) : ∃ root, heap.peekMax = some root :=
  ⟨_, peekMax_eq_some_iff.mpr ⟨h, rfl⟩⟩

/-- The root is a live entry. -/
theorem peekMax_mem_live (h : heap.peekMax = some root) : root ∈ heap.live := by
  obtain ⟨hpos, rfl⟩ := peekMax_eq_some_iff.mp h
  exact entryAt_mem_live hpos

/-- **The root leads.** In heap order, no live entry outranks the root if they are coherent. -/
theorem outranks_peekMax (hordered : heap.IsOrdered) (hcoherent : Entry.Coherent heap.live)
    (hroot : heap.peekMax = some root) (hentry : entry ∈ heap.live) :
    entry.outranks root = false := by
  obtain ⟨base, hrank⟩ := ranked_of_coherent hcoherent
  obtain ⟨-, rfl⟩ := peekMax_eq_some_iff.mp hroot
  obtain ⟨i, hi, rfl⟩ := exists_entryAt_of_mem_live hentry
  exact not_outranks_root (isOrdered_iff.mp hordered) hrank hi

/-! ### Inserting -/

/-- The array into which an entry has been put behind the entries in use. -/
theorem take_set_len (h : heap.len < heap.entries.size) :
    (heap.entries.set heap.len entry).toList.take (heap.len + 1) = heap.live ++ [entry] := by
  rw [live, Array.toList_set, List.take_add_one, List.take_set_of_le (Nat.le_refl _)]
  simp [h]

/-- An entry inserted with room to spare is put behind the entries in use and sifts up. -/
theorem insert_of_lt (h : heap.len < heap.entries.size) :
    heap.insert entry = (true,
      ⟨siftUp (heap.entries.set heap.len entry) heap.len (by simpa using h), heap.len + 1,
        by rw [size_siftUp, Array.size_set]; exact h⟩) := by
  rw [insert]
  rw [dif_pos h]

/-- A heap with room accepts an entry. -/
theorem insert_accepts (entry : Entry) (h : heap.len < heap.capacity) :
    (heap.insert entry).1 = true := by
  rw [insert_of_lt h]

/-- A heap without room accepts no entry and stays as it is. -/
theorem insert_refuses (entry : Entry) (h : ¬ heap.len < heap.capacity) :
    heap.insert entry = (false, heap) :=
  insert_of_full (le_antisymm heap.len_le (Nat.not_lt.mp h))

/-- Inserting uses one more position. -/
theorem len_insert (h : heap.len < heap.capacity) : (heap.insert entry).2.len = heap.len + 1 := by
  rw [insert_of_lt h]

/-- Inserting keeps the capacity. -/
@[simp] theorem capacity_insert (heap : Heap) (entry : Entry) :
    (heap.insert entry).2.capacity = heap.capacity := by
  rw [insert]
  split
  · simp [capacity]
  · rfl

/-- **Inserting adds the entry** to the live ones, whatever they are. -/
theorem live_insert_perm (entry : Entry) (h : heap.len < heap.capacity) :
    (heap.insert entry).2.live.Perm (entry :: heap.live) := by
  have hsize : heap.len < heap.entries.size := h
  rw [insert_of_lt hsize]
  refine (take_siftUp_perm _ (by rw [Array.size_set]; exact hsize) (Nat.lt_succ_self _)).trans ?_
  rw [take_set_len hsize]
  exact List.perm_append_singleton entry heap.live

/-- **Inserting keeps the heap order** if the entries are then coherent. -/
theorem isOrdered_insert (hordered : heap.IsOrdered) (h : heap.len < heap.capacity)
    (hcoherent : Entry.Coherent (entry :: heap.live)) : (heap.insert entry).2.IsOrdered := by
  have hlen := heap.len_le
  have hsize : heap.len < heap.entries.size := h
  obtain ⟨base, hbase⟩ := hcoherent
  have hat : ∀ i < heap.len,
      entryAt (heap.entries.set heap.len entry) i = entryAt heap.entries i := by
    intro i hi
    simp [entryAt, hi.ne']
  have hlast : entryAt (heap.entries.set heap.len entry) heap.len = entry := by
    simp [entryAt, hsize]
  have hrank : Ranked (Entry.rank base) (heap.entries.set heap.len entry) (heap.len + 1) := by
    refine ranked_of_distance fun i hi => ?_
    rcases Nat.lt_succ_iff_lt_or_eq.mp hi with hi | rfl
    · rw [hat i hi]
      exact hbase _ (List.mem_cons_of_mem _ (entryAt_mem_live hi))
    · rw [hlast]
      exact hbase _ List.mem_cons_self
  rw [insert_of_lt hsize, isOrdered_iff]
  refine ordered_siftUp _ hrank (by simpa using Nat.succ_le_of_lt hsize) (Nat.lt_succ_self _)
    ⟨?_, ?_⟩
  · intro child hchild hne hnew
    have hold : child < heap.len := Nat.lt_of_le_of_ne (Nat.lt_succ_iff.mp hchild) hnew
    have hlt := parent_lt hne
    rw [EdgeOrdered, hat child hold, hat (parent child) (by omega)]
    exact isOrdered_iff.mp hordered child hold hne
  · -- the new entry stands last and has no children
    intro _ child hchild hne hpi
    have hlt := parent_lt hne
    have := Nat.lt_succ_iff.mp hchild
    omega

/-! ### Extracting -/

/-- If several entries are in use, the last one takes the place of the root and sifts down. -/
theorem extractMax_of_many {last : Nat}
    (hsize : last + 1 < heap.entries.size) (h : heap.len = last + 2) :
    heap.extractMax = (some (entryAt heap.entries 0),
      ⟨siftDown (heap.entries.set 0 heap.entries[last + 1]) (last + 1) 0 (by simp; omega),
        last + 1, by simp; omega⟩) := by
  have hsub : heap.len - 1 = last + 1 := by omega
  rw [extractMax]
  rw [dif_neg (by omega)]
  simp only [hsub, Nat.add_eq_zero_iff, Nat.one_ne_zero, and_false, ↓reduceIte]
  rw [entryAt_of_lt]

/-- Extracting frees one position. -/
theorem len_extractMax (heap : Heap) : heap.extractMax.2.len = heap.len - 1 := by
  rw [extractMax]
  split
  · rename_i h
    simp [h]
  · dsimp only
    split <;> rfl

/-- Extracting keeps the capacity. -/
@[simp] theorem capacity_extractMax (heap : Heap) :
    heap.extractMax.2.capacity = heap.capacity := by
  rw [extractMax]
  split
  · rfl
  · dsimp only
    split <;> simp [capacity]

/-- The last entry in use, put in the place of the root: with the root it makes up all of them. -/
theorem take_set_zero {last : Nat} (hsize : last + 1 < heap.entries.size)
    (h : heap.len = last + 2) :
    heap.live.Perm (entryAt heap.entries 0 ::
      (heap.entries.set 0 heap.entries[last + 1]).toList.take (last + 1)) := by
  obtain ⟨first, rest, hcons⟩ : ∃ first rest, heap.entries.toList = first :: rest := by
    cases htoList : heap.entries.toList with
    | nil =>
        have := congrArg List.length htoList
        rw [Array.length_toList, List.length_nil] at this
        omega
    | cons first rest => exact ⟨first, rest, rfl⟩
  have hrest : last < rest.length := by
    have := congrArg List.length hcons
    simp at this
    omega
  have hroot : entryAt heap.entries 0 = first := by
    rw [entryAt, ← Array.getElem?_toList, hcons]
    rfl
  have hmoved : heap.entries[last + 1] = rest[last] := by
    rw [← Array.getElem_toList]
    simp [hcons]
  have hlast : rest.take (last + 1) = rest.take last ++ [rest[last]] := by
    rw [List.take_add_one, List.getElem?_eq_getElem hrest]
    rfl
  rw [hroot, live, h, hmoved, Array.toList_set, hcons]
  simp only [List.set_cons_zero, List.take_succ_cons]
  rw [hlast]
  exact List.Perm.cons first (List.perm_append_singleton _ _)

/-- **Extracting takes out the root** and nothing else, whatever the entries are. -/
theorem live_extractMax_perm (h : heap.peekMax = some root) :
    heap.live.Perm (root :: heap.extractMax.2.live) := by
  obtain ⟨hpos, rfl⟩ := peekMax_eq_some_iff.mp h
  have hlen := heap.len_le
  by_cases hone : heap.len = 1
  · obtain ⟨only, honly⟩ := List.length_eq_one_iff.mp (heap.length_live.trans hone)
    have hroot := entryAt_mem_live hpos
    rw [honly, List.mem_singleton] at hroot
    have hrest : heap.extractMax.2.live = [] := by
      rw [← List.length_eq_zero_iff, length_live, len_extractMax, hone]
    rw [honly, hroot, hrest]
  · obtain ⟨last, hlast⟩ : ∃ last, heap.len = last + 2 := ⟨heap.len - 2, by omega⟩
    rw [extractMax_of_many (by omega) hlast]
    refine (take_set_zero (by omega) hlast).trans (List.Perm.cons _ ?_)
    exact (take_siftDown_perm _).symm

/-- **Extracting keeps the heap order** of coherent entries. -/
theorem isOrdered_extractMax (hordered : heap.IsOrdered)
    (hcoherent : Entry.Coherent heap.live) : heap.extractMax.2.IsOrdered := by
  have hlen := heap.len_le
  by_cases hfew : heap.len ≤ 1
  · intro child hchild hne
    rw [len_extractMax] at hchild
    omega
  · obtain ⟨last, hlast⟩ : ∃ last, heap.len = last + 2 := ⟨heap.len - 2, by omega⟩
    have hsize : last + 1 < heap.entries.size := by omega
    obtain ⟨base, hbase⟩ := hcoherent
    have hat : ∀ i ≠ 0,
        entryAt (heap.entries.set 0 heap.entries[last + 1]) i = entryAt heap.entries i := by
      intro i hi
      simp [entryAt, hi.symm]
    have hroot : entryAt (heap.entries.set 0 heap.entries[last + 1]) 0 =
        entryAt heap.entries (last + 1) := by
      rw [entryAt_of_lt (by simp; omega), entryAt_of_lt hsize, Array.getElem_set_self]
    have hrank : Ranked (Entry.rank base) (heap.entries.set 0 heap.entries[last + 1])
        (last + 1) := by
      refine ranked_of_distance fun i hi => ?_
      by_cases hi0 : i = 0
      · rw [hi0, hroot]
        exact hbase _ (entryAt_mem_live (by omega))
      · rw [hat i hi0]
        exact hbase _ (entryAt_mem_live (by omega))
    rw [extractMax_of_many hsize hlast, isOrdered_iff]
    refine ordered_siftDown _ hrank ⟨?_, fun h0 => absurd rfl h0⟩
    intro child hchild hne hp0
    rw [EdgeOrdered, hat child hne, hat _ hp0]
    exact isOrdered_iff.mp hordered child (by omega) hne

end Heap

end StableQueue
