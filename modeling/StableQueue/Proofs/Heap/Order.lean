import StableQueue.Heap.Basic
import StableQueue.Proofs.Serial

/-!
# Sifting Restores the Heap Order

The heap order says that no entry outranks its parent. `Entry.outranks` compares serial numbers, so
it is an order only on entries whose numbers lie on half of the circle. On such entries it compares
a *rank*: the priority, highest first, and then the distance from the base of the half circle. All
that the heap needs of an entry is that it has a rank.

Each sift starts with one entry in the wrong place. `UpReady` and `DownReady` say what else is in
order by then: every other edge of the tree, and the edges that are new once the entry at the wrong
place is taken out.

## Main results

* `Entry.outranks_iff_rank_lt`: on half of the circle, outranking is having the lower rank.
* `ordered_siftUp`, `ordered_siftDown`: sifting restores the heap order.
* `not_outranks_root`: in heap order, no entry outranks the root.
-/

namespace StableQueue

/-- The rank of an entry, given a base for the serial numbers of each priority. What leaves first
has the lowest rank. -/
def Entry.rank (base : Int → UInt64) (entry : Entry) : Int ×ₗ Nat :=
  toLex (-entry.priority, Serial.distance (base entry.priority) entry.sequence)

namespace Entry

variable {base : Int → UInt64} {x y : Entry}

/-- **On half of the circle, outranking is having the lower rank.** -/
theorem outranks_iff_rank_lt (hx : Serial.distance (base x.priority) x.sequence < 2 ^ 63)
    (hy : Serial.distance (base y.priority) y.sequence < 2 ^ 63) :
    x.outranks y = true ↔ x.rank base < y.rank base := by
  simp only [rank, Prod.Lex.toLex_lt_toLex, outranks]
  by_cases heq : x.priority = y.priority
  · rw [if_pos heq, Serial.before_iff_of_base (heq ▸ hx) hy, heq]
    omega
  · rw [if_neg heq, decide_eq_true_iff]
    omega

/-- Entries of one rank have the same priority and the same serial number. -/
theorem eq_of_rank_eq (h : x.rank base = y.rank base) :
    x.priority = y.priority ∧ x.sequence = y.sequence := by
  simp only [rank, EmbeddingLike.apply_eq_iff_eq, Prod.mk.injEq, neg_inj] at h
  obtain ⟨hpriority, hdistance⟩ := h
  rw [hpriority] at hdistance
  exact ⟨hpriority, Serial.distance_inj.mp hdistance⟩

end Entry

namespace Heap

/-- The entry at a position of an array; a blank one beyond its end. -/
def entryAt (entries : Array Entry) (i : Nat) : Entry := entries[i]?.getD .blank

/-- Within the array, the entry at a position is the one stored there. -/
theorem entryAt_of_lt {entries : Array Entry} {i : Nat} (h : i < entries.size) :
    entryAt entries i = entries[i] := by
  simp [entryAt, h]

/-- Swapping two positions exchanges their entries and keeps the others. -/
theorem entryAt_swap {entries : Array Entry} {i j : Nat} (hi : i < entries.size)
    (hj : j < entries.size) (k : Nat) :
    entryAt (entries.swap i j) k =
      if k = i then entryAt entries j
      else if k = j then entryAt entries i
      else entryAt entries k := by
  by_cases hk : k < entries.size
  · rw [entryAt_of_lt (by simpa using hk), entryAt_of_lt hi, entryAt_of_lt hj, entryAt_of_lt hk,
      Array.getElem_swap]
  · have hki : k ≠ i := by omega
    have hkj : k ≠ j := by omega
    simp [entryAt, hk, hki, hkj]

/-- The edge above `child` is in order: the entry there does not outrank its parent. -/
def EdgeOrdered (entries : Array Entry) (child : Nat) : Prop :=
  (entryAt entries child).outranks (entryAt entries (parent child)) = false

/-- The first `len` positions are in heap order. -/
def Ordered (entries : Array Entry) (len : Nat) : Prop :=
  ∀ child < len, child ≠ 0 → EdgeOrdered entries child

/-- Among the first `len` positions, outranking is having the lower rank. -/
def Ranked {α : Type} [LT α] (rank : Entry → α) (entries : Array Entry) (len : Nat) : Prop :=
  ∀ i < len, ∀ j < len,
    (entryAt entries i).outranks (entryAt entries j) = true ↔
      rank (entryAt entries i) < rank (entryAt entries j)

/-- The order of a heap, said of its array. -/
theorem isOrdered_iff {heap : Heap} : heap.IsOrdered ↔ Ordered heap.entries heap.len := by
  have hlen := heap.len_le
  constructor
  · intro h child hchild hne
    have hlt := parent_lt hne
    rw [EdgeOrdered, entryAt_of_lt (by omega), entryAt_of_lt (by omega)]
    exact h child hchild hne
  · intro h child hchild hne
    have hlt := parent_lt hne
    have hedge := h child hchild hne
    rw [EdgeOrdered, entryAt_of_lt (by omega), entryAt_of_lt (by omega)] at hedge
    exact hedge

/-- Entries whose serial numbers lie on half of the circle, for each priority after a base of its
own, are ranked. -/
theorem ranked_of_distance {base : Int → UInt64} {entries : Array Entry} {len : Nat}
    (h : ∀ i < len, Serial.distance (base (entryAt entries i).priority)
      (entryAt entries i).sequence < 2 ^ 63) :
    Ranked (Entry.rank base) entries len :=
  fun i hi j hj => Entry.outranks_iff_rank_lt (h i hi) (h j hj)

section Ranked

variable {α : Type} [LinearOrder α] {rank : Entry → α} {entries : Array Entry} {len i : Nat}

/-- In order is being ranked at or after the parent. -/
theorem Ranked.not_outranks_iff (hrank : Ranked rank entries len) {i j : Nat} (hi : i < len)
    (hj : j < len) :
    (entryAt entries i).outranks (entryAt entries j) = false ↔
      rank (entryAt entries j) ≤ rank (entryAt entries i) := by
  rw [← Bool.not_eq_true, hrank i hi j hj, not_lt]

/-- Swapping two positions keeps the entries ranked. -/
theorem Ranked.swap (hrank : Ranked rank entries len) {i j : Nat} (hlen : len ≤ entries.size)
    (hi : i < len) (hj : j < len) :
    Ranked rank (entries.swap i j (by omega) (by omega)) len := by
  have hmoved : ∀ k < len, ∃ k' < len,
      entryAt (entries.swap i j (by omega) (by omega)) k = entryAt entries k' := by
    intro k hk
    rw [entryAt_swap]
    split
    · exact ⟨j, hj, rfl⟩
    · split
      · exact ⟨i, hi, rfl⟩
      · exact ⟨k, hk, rfl⟩
  intro k hk l hl
  obtain ⟨k', hk', hkeq⟩ := hmoved k hk
  obtain ⟨l', hl', hleq⟩ := hmoved l hl
  rw [hkeq, hleq]
  exact hrank k' hk' l' hl'

/-! ### Sifting up -/

/-- What is in order when the entry at `i` may outrank its parent: the other edges, and the edges
from the children of `i` to its parent. -/
structure UpReady (entries : Array Entry) (len i : Nat) : Prop where
  /-- Every edge but the one above `i` is in order. -/
  others : ∀ child < len, child ≠ 0 → child ≠ i → EdgeOrdered entries child
  /-- The children of `i` do not outrank its parent. -/
  grand : i ≠ 0 → ∀ child < len, child ≠ 0 → parent child = i →
    (entryAt entries child).outranks (entryAt entries (parent i)) = false

/-- If the edge above `i` is in order as well, all of them are. -/
theorem UpReady.ordered (h : UpReady entries len i)
    (hedge : i ≠ 0 → EdgeOrdered entries i) : Ordered entries len := by
  intro child hchild hne
  by_cases hci : child = i
  · subst hci
    exact hedge hne
  · exact h.others child hchild hne hci

/-- One step up: the entry changes places with its parent, which it outranks. -/
theorem UpReady.step {hi' : i < entries.size} {hp' : parent i < entries.size}
    (h : UpReady entries len i) (hrank : Ranked rank entries len) (hlen : len ≤ entries.size)
    (hi : i < len) (hne : i ≠ 0)
    (hup : (entryAt entries i).outranks (entryAt entries (parent i)) = true) :
    UpReady (entries.swap i (parent i) hi' hp') len (parent i) := by
  have hp : parent i < i := parent_lt hne
  have hlt := (hrank i hi (parent i) (by omega)).mp hup
  have hedge : ∀ child < len, child ≠ 0 → child ≠ i →
      rank (entryAt entries (parent child)) ≤ rank (entryAt entries child) := by
    intro child hchild hc0 hci
    have hpc := parent_lt hc0
    exact (hrank.not_outranks_iff hchild (by omega)).mp (h.others child hchild hc0 hci)
  constructor
  · intro child hchild hc0 hcp
    have hpc := parent_lt hc0
    rw [EdgeOrdered, (hrank.swap hlen hi (by omega)).not_outranks_iff hchild (by omega),
      entryAt_swap, entryAt_swap]
    by_cases hci : child = i
    · -- the two entries that changed places
      subst hci
      simpa [hcp, Ne.symm hcp] using hlt.le
    · by_cases hpi : parent child = i
      · -- a child of the entry moved down
        simpa [hci, hcp, hpi] using
          (hrank.not_outranks_iff hchild (by omega)).mp (h.grand hne child hchild hc0 hpi)
      · by_cases hpp : parent child = parent i
        · -- the other child of the old parent
          have := hedge child hchild hc0 hci
          rw [hpp] at this
          simpa [hci, hcp, hpi, hpp, hp.ne] using hlt.le.trans this
        · simpa [hci, hcp, hpi, hpp] using hedge child hchild hc0 hci
  · intro hp0 child hchild hc0 hpc
    have hpp := parent_lt hp0
    have habove := hedge (parent i) (by omega) hp0 (by omega)
    rw [(hrank.swap hlen hi (by omega)).not_outranks_iff hchild (by omega), entryAt_swap,
      entryAt_swap]
    have hcp : child ≠ parent i := by
      have := parent_lt hc0
      omega
    by_cases hci : child = i
    · subst hci
      simpa [hpp.ne, (hpp.trans hp).ne] using habove
    · have := hedge child hchild hc0 hci
      rw [hpc] at this
      simpa [hci, hcp, hpp.ne, (hpp.trans hp).ne] using habove.trans this

/-- **Sifting up restores the heap order.** -/
theorem ordered_siftUp (hi : i < entries.size) (hrank : Ranked rank entries len)
    (hlen : len ≤ entries.size) (hilen : i < len) (h : UpReady entries len i) :
    Ordered (siftUp entries i hi) len := by
  induction entries, i, hi using siftUp.induct with
  | case1 entries hi =>
      rw [siftUp, dif_pos rfl]
      exact h.ordered (fun hne => absurd rfl hne)
  | case2 entries i hi hne hp hup ih =>
      rw [siftUp, dif_neg hne]
      simp only [hup, ↓reduceIte]
      rw [← entryAt_of_lt, ← entryAt_of_lt] at hup
      exact ih (hrank.swap hlen hilen (by omega)) (by simpa using hlen) (by omega)
        (h.step hrank hlen hilen hne hup)
  | case3 entries i hi hne hp hup =>
      rw [siftUp, dif_neg hne]
      simp only [hup]
      rw [← entryAt_of_lt, ← entryAt_of_lt] at hup
      exact h.ordered (fun _ => by simpa [EdgeOrdered] using hup)

/-! ### Sifting down -/

/-- What is in order when a child of the entry at `i` may outrank it: the edges that do not leave
`i`, and the edges from the children of `i` to its parent. -/
structure DownReady (entries : Array Entry) (len i : Nat) : Prop where
  /-- Every edge but those below `i` is in order. -/
  others : ∀ child < len, child ≠ 0 → parent child ≠ i → EdgeOrdered entries child
  /-- The children of `i` do not outrank its parent. -/
  grand : i ≠ 0 → ∀ child < len, child ≠ 0 → parent child = i →
    (entryAt entries child).outranks (entryAt entries (parent i)) = false

/-- If the edges below `i` are in order as well, all of them are. -/
theorem DownReady.ordered (h : DownReady entries len i)
    (hedges : ∀ child < len, child ≠ 0 → parent child = i → EdgeOrdered entries child) :
    Ordered entries len := by
  intro child hchild hne
  by_cases hpi : parent child = i
  · exact hedges child hchild hne hpi
  · exact h.others child hchild hne hpi

/-- The leading child is a child. -/
theorem parent_leadingChild (hlen : len ≤ entries.size) (hl : 2 * i + 1 < len) :
    parent (leadingChild entries len i hlen hl) = i := by
  rw [leadingChild, parent]
  split
  · split <;> omega
  · omega

/-- The leading child ranks first among the children. -/
theorem rank_leadingChild_le (hrank : Ranked rank entries len) (hlen : len ≤ entries.size)
    (hl : 2 * i + 1 < len) {child : Nat} (hchild : child < len) (hne : child ≠ 0)
    (hpi : parent child = i) :
    rank (entryAt entries (leadingChild entries len i hlen hl)) ≤
      rank (entryAt entries child) := by
  have hcases : child = 2 * i + 1 ∨ child = 2 * i + 2 := by
    rw [parent] at hpi
    omega
  rw [leadingChild]
  by_cases hr : 2 * i + 2 < len
  · rw [dif_pos hr, ← entryAt_of_lt, ← entryAt_of_lt]
    by_cases hright :
        (entryAt entries (2 * i + 2)).outranks (entryAt entries (2 * i + 1)) = true
    · rw [if_pos hright]
      have hlt := (hrank _ hr _ hl).mp hright
      rcases hcases with rfl | rfl
      · exact hlt.le
      · exact le_rfl
    · rw [if_neg hright]
      rw [hrank _ hr _ hl, not_lt] at hright
      rcases hcases with rfl | rfl
      · exact le_rfl
      · exact hright
  · rw [dif_neg hr]
    rcases hcases with rfl | rfl
    · exact le_rfl
    · exact absurd hchild hr

/-- One step down: the entry changes places with its leading child, which outranks it. -/
theorem DownReady.step (h : DownReady entries len i) (hrank : Ranked rank entries len)
    (hlen : len ≤ entries.size) {next : Nat} (hnext : next < len) (hn0 : next ≠ 0)
    (hpn : parent next = i)
    (hlead : ∀ child < len, child ≠ 0 → parent child = i →
      rank (entryAt entries next) ≤ rank (entryAt entries child))
    (hdown : (entryAt entries next).outranks (entryAt entries i) = true) :
    DownReady (entries.swap i next (by have := parent_lt hn0; omega) (by omega)) len next := by
  have hin : i < next := hpn ▸ parent_lt hn0
  have hlt := (hrank next hnext i (by omega)).mp hdown
  have hranked := hrank.swap hlen (show i < len by omega) hnext
  constructor
  · intro child hchild hc0 hpc
    have hpc' := parent_lt hc0
    rw [EdgeOrdered, hranked.not_outranks_iff hchild (by omega), entryAt_swap, entryAt_swap]
    by_cases hcn : child = next
    · -- the two entries that changed places
      subst hcn
      simpa [hpn, hin.ne'] using hlt.le
    · by_cases hci : child = i
      · -- the entry moved up, below the old parent
        subst hci
        have := h.grand hc0 next hnext hn0 hpn
        rw [hrank.not_outranks_iff hnext (by omega)] at this
        simpa [hpc, hpc'.ne] using this
      · by_cases hpi : parent child = i
        · -- the other child
          simpa [hcn, hci, hpi] using hlead child hchild hc0 hpi
        · have := h.others child hchild hc0 hpi
          rw [EdgeOrdered, hrank.not_outranks_iff hchild (by omega)] at this
          simpa [hcn, hci, hpi, hpc] using this
  · intro _ child hchild hc0 hpc
    have hpc' := parent_lt hc0
    rw [hranked.not_outranks_iff hchild (by omega), entryAt_swap, entryAt_swap, hpn]
    have := h.others child hchild hc0 (by omega)
    rw [EdgeOrdered, hpc, hrank.not_outranks_iff hchild hnext] at this
    simpa [show child ≠ i by omega, show child ≠ next by omega] using this

/-- **Sifting down restores the heap order.** -/
theorem ordered_siftDown (hlen : len ≤ entries.size) (hrank : Ranked rank entries len)
    (h : DownReady entries len i) : Ordered (siftDown entries len i hlen) len := by
  induction entries, i, hlen using siftDown.induct with
  | case1 entries i hlen hl child hc hchild hi hup ih =>
      rw [siftDown, dif_pos hl]
      simp only [child] at hup ih hchild
      simp only [hup, ↓reduceIte]
      rw [← entryAt_of_lt, ← entryAt_of_lt] at hup
      refine ih (hrank.swap hlen (by omega) hc.2) ?_
      exact h.step hrank hlen hc.2 (by omega) (parent_leadingChild hlen hl)
        (fun other hother hne hpi => rank_leadingChild_le hrank hlen hl hother hne hpi) hup
  | case2 entries i hlen hl child hc hchild hi hup =>
      rw [siftDown, dif_pos hl]
      simp only [child] at hup hchild
      simp only [hup]
      rw [← entryAt_of_lt, ← entryAt_of_lt, hrank _ hc.2 _ (by omega), not_lt] at hup
      refine h.ordered (fun other hother hne hpi => ?_)
      rw [EdgeOrdered, hpi, hrank.not_outranks_iff hother (by omega)]
      exact hup.trans (rank_leadingChild_le hrank hlen hl hother hne hpi)
  | case3 entries i hlen hl =>
      rw [siftDown, dif_neg hl]
      refine h.ordered (fun child hchild hne hpi => ?_)
      rw [parent] at hpi
      omega

/-! ### The root -/

/-- In heap order, the root ranks first. -/
theorem Ordered.rank_root_le (h : Ordered entries len) (hrank : Ranked rank entries len)
    (hi : i < len) : rank (entryAt entries 0) ≤ rank (entryAt entries i) := by
  induction i using Nat.strongRecOn with
  | ind i ih =>
      by_cases hi0 : i = 0
      · rw [hi0]
      · have hp := parent_lt hi0
        have hedge := h i hi hi0
        rw [EdgeOrdered, hrank.not_outranks_iff hi (by omega)] at hedge
        exact (ih (parent i) hp (by omega)).trans hedge

/-- **In heap order, no entry outranks the root.** -/
theorem not_outranks_root (h : Ordered entries len) (hrank : Ranked rank entries len)
    (hi : i < len) : (entryAt entries i).outranks (entryAt entries 0) = false :=
  (hrank.not_outranks_iff hi (by omega)).mpr (h.rank_root_le hrank hi)

end Ranked

end Heap

end StableQueue
