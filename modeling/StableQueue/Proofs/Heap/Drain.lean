import StableQueue.Proofs.Heap.Live

/-!
# Heaps Give Out Their Entries in Order

Taking the root out again and again lists the live entries, `Heap.drain`. From a heap in order that
holds coherent entries they come in an order in which no entry outranks one before it. If no two of
them have both the priority and the serial number in common, that settles the order: it is the one
by falling priority and, at the same priority, by ascending serial number.

Entries come and go while a heap is in use, and only those that are live together have to be
coherent. So the serial numbers may wrap any number of times: `Heap.run_sorts` asks for no more than
that the live entries are coherent after every insertion.

## Main results

* `drain_perm`: draining lists the live entries, whatever they are.
* `pairwise_drain`, `pairwise_precedes_drain`: the order in which it lists them.
* `run_sorts`: any run of insertions, extractions and clearings from a new heap on.
-/

namespace StableQueue

namespace Entry

variable {entries : List Entry} {x y : Entry}

/-- One entry comes before another by falling priority and ascending serial number. -/
def Precedes (x y : Entry) : Prop :=
  y.priority < x.priority ∨
    (x.priority = y.priority ∧ Serial.before x.sequence y.sequence = true)

instance (x y : Entry) : Decidable (x.Precedes y) :=
  inferInstanceAs (Decidable (y.priority < x.priority ∨ _))

/-- To outrank another entry is to come before it. -/
theorem outranks_iff_precedes : x.outranks y = true ↔ x.Precedes y := by
  rw [outranks, Precedes]
  split
  · rename_i heq
    simp [heq]
  · rename_i hne
    simp [hne]

/-- Some of the entries are coherent if all are. -/
theorem Coherent.subset {kept : List Entry} (h : Coherent entries) (hsubset : kept ⊆ entries) :
    Coherent kept := by
  obtain ⟨base, hbase⟩ := h
  exact ⟨base, fun entry hentry => hbase entry (hsubset hentry)⟩

/-- Of two coherent entries with different priorities or serial numbers, the one that is not
outranked comes before the other. -/
theorem Coherent.precedes (h : Coherent entries) (hx : x ∈ entries) (hy : y ∈ entries)
    (hkey : (x.priority, x.sequence) ≠ (y.priority, y.sequence))
    (hnot : y.outranks x = false) : x.Precedes y := by
  obtain ⟨base, hbase⟩ := h
  rw [← Bool.not_eq_true, outranks_iff_rank_lt (hbase y hy) (hbase x hx), not_lt] at hnot
  rw [← outranks_iff_precedes, outranks_iff_rank_lt (hbase x hx) (hbase y hy)]
  refine lt_of_le_of_ne hnot fun heq => hkey ?_
  obtain ⟨hpriority, hsequence⟩ := eq_of_rank_eq heq
  rw [hpriority, hsequence]

/-- No two coherent entries come before each other. -/
theorem Coherent.not_precedes (h : Coherent entries) (hx : x ∈ entries) (hy : y ∈ entries)
    (hxy : x.Precedes y) : ¬ y.Precedes x := by
  obtain ⟨base, hbase⟩ := h
  rw [← outranks_iff_precedes, outranks_iff_rank_lt (hbase x hx) (hbase y hy)] at hxy
  rw [← outranks_iff_precedes, outranks_iff_rank_lt (hbase y hy) (hbase x hx)]
  exact lt_asymm hxy

end Entry

namespace Heap

variable {heap : Heap} {root : Entry}

/-! ### Draining -/

/-- Take out the root until none is left. -/
def drain (heap : Heap) : List Entry :=
  match _hroot : heap.peekMax with
  | none => []
  | some root => root :: heap.extractMax.2.drain
termination_by heap.len
decreasing_by
  have := (peekMax_eq_some_iff.mp _hroot).1
  rw [len_extractMax]
  omega

/-- The root is listed first, and then what is left. -/
theorem drain_of_peekMax (hroot : heap.peekMax = some root) :
    heap.drain = root :: heap.extractMax.2.drain := by
  rw [drain]
  split
  · rename_i hnone
    simp [hroot] at hnone
  · rename_i first hfirst
    rw [hroot] at hfirst
    rw [Option.some.inj hfirst]

/-- An empty heap lists nothing. -/
theorem drain_of_empty (h : heap.len = 0) : heap.drain = [] := by
  have hnone : heap.peekMax = none := by simp [peekMax, h]
  rw [drain]
  split
  · rfl
  · rename_i first hfirst
    simp [hnone] at hfirst

/-- Draining is what taking out the root once for every live entry lists, and leaves nothing. -/
theorem extractMany_len (heap : Heap) :
    (heap.extractMany heap.len).1 = heap.drain.map some ∧
      (heap.extractMany heap.len).2.len = 0 := by
  induction hlen : heap.len generalizing heap with
  | zero =>
      rw [drain_of_empty hlen]
      exact ⟨rfl, hlen⟩
  | succ len ih =>
      obtain ⟨root, hroot⟩ := exists_peekMax (show 0 < heap.len by omega)
      obtain ⟨hothers, hempty⟩ := ih heap.extractMax.2 (by rw [len_extractMax, hlen]; rfl)
      have hmax := (extractMax_fst heap).trans hroot
      rw [drain_of_peekMax hroot]
      simp only [extractMany, hothers, hmax]
      exact ⟨rfl, hempty⟩

/-- **Draining lists the live entries**, whatever they are. -/
theorem drain_perm (heap : Heap) : heap.drain.Perm heap.live := by
  induction hlen : heap.len generalizing heap with
  | zero =>
      have hlive := List.length_eq_zero_iff.mp (heap.length_live.trans hlen)
      rw [drain_of_empty hlen, hlive]
  | succ len ih =>
      obtain ⟨root, hroot⟩ := exists_peekMax (show 0 < heap.len by omega)
      rw [drain_of_peekMax hroot]
      exact ((ih _ (by rw [len_extractMax, hlen]; rfl)).cons root).trans
        (live_extractMax_perm hroot).symm

/-- Coherent entries stay coherent when the root is taken out. -/
theorem coherent_extractMax (hcoherent : Entry.Coherent heap.live) :
    Entry.Coherent heap.extractMax.2.live := by
  cases hroot : heap.peekMax with
  | none =>
      have hempty : heap.len = 0 := by
        rcases Nat.eq_zero_or_pos heap.len with hzero | hpos
        · exact hzero
        · obtain ⟨root, hsome⟩ := exists_peekMax hpos
          simp [hroot] at hsome
      rw [extractMax_of_empty hempty]
      exact hcoherent
  | some root =>
      have hperm := live_extractMax_perm hroot
      exact hcoherent.subset fun entry hentry =>
        hperm.mem_iff.mpr (List.mem_cons_of_mem _ hentry)

/-- **From a heap in order, no entry outranks one listed before it.** -/
theorem pairwise_drain (hordered : heap.IsOrdered) (hcoherent : Entry.Coherent heap.live) :
    heap.drain.Pairwise fun earlier later => later.outranks earlier = false := by
  induction hlen : heap.len generalizing heap with
  | zero =>
      rw [drain_of_empty hlen]
      exact .nil
  | succ len ih =>
      obtain ⟨root, hroot⟩ := exists_peekMax (show 0 < heap.len by omega)
      rw [drain_of_peekMax hroot, List.pairwise_cons]
      refine ⟨fun entry hentry => ?_, ih (isOrdered_extractMax hordered hcoherent)
        (coherent_extractMax hcoherent) (by rw [len_extractMax, hlen]; rfl)⟩
      refine outranks_peekMax hordered hcoherent hroot ?_
      rw [(live_extractMax_perm hroot).mem_iff]
      exact List.mem_cons_of_mem _ ((drain_perm _).mem_iff.mp hentry)

/-- **Entries with different keys are listed by falling priority and ascending serial number.** -/
theorem pairwise_precedes_drain (hordered : heap.IsOrdered)
    (hcoherent : Entry.Coherent heap.live)
    (hnodup : (heap.live.map fun entry => (entry.priority, entry.sequence)).Nodup) :
    heap.drain.Pairwise Entry.Precedes := by
  have hkeys : heap.drain.Pairwise fun earlier later =>
      (earlier.priority, earlier.sequence) ≠ (later.priority, later.sequence) := by
    rw [← ((drain_perm heap).map _).nodup_iff] at hnodup
    exact List.pairwise_map.mp hnodup
  refine ((pairwise_drain hordered hcoherent).and hkeys).imp_of_mem ?_
  intro earlier later hearlier hlater hboth
  exact hcoherent.precedes ((drain_perm heap).mem_iff.mp hearlier)
    ((drain_perm heap).mem_iff.mp hlater) hboth.2 hboth.1

/-- There is only one way to list coherent entries in this order. -/
theorem eq_of_pairwise_precedes {entries sorted sorted' : List Entry}
    (hcoherent : Entry.Coherent entries) (hperm : sorted.Perm entries)
    (hperm' : sorted'.Perm entries) (hsorted : sorted.Pairwise Entry.Precedes)
    (hsorted' : sorted'.Pairwise Entry.Precedes) : sorted = sorted' := by
  refine List.Perm.eq_of_pairwise ?_ hsorted hsorted' (hperm.trans hperm'.symm)
  intro x y hx hy hxy hyx
  exact absurd hyx (hcoherent.not_precedes (hperm.mem_iff.mp hx) (hperm'.mem_iff.mp hy) hxy)

/-! ### Runs -/

/-- An operation that changes a heap. -/
inductive Command where
  /-- Add an entry. -/
  | insert (entry : Entry)
  /-- Take out the root. -/
  | extractMax
  /-- Forget every entry. -/
  | clear

/-- The heap that an operation leaves behind. -/
def after (heap : Heap) : Command → Heap
  | .insert entry => (heap.insert entry).2
  | .extractMax => heap.extractMax.2
  | .clear => heap.clear

/-- The heap after several operations. -/
def afterAll (heap : Heap) (commands : List Command) : Heap := commands.foldl after heap

/-- **One operation keeps the heap in order**, and what is live coherent, if an entry that it adds
is coherent with those that are live already. -/
theorem isOrdered_after (hordered : heap.IsOrdered) (hcoherent : Entry.Coherent heap.live)
    (command : Command)
    (hinsert : ∀ entry, command = .insert entry → Entry.Coherent (heap.after command).live) :
    (heap.after command).IsOrdered ∧ Entry.Coherent (heap.after command).live := by
  cases command with
  | insert entry =>
      have hafter := hinsert entry rfl
      refine ⟨?_, hafter⟩
      by_cases hroom : heap.len < heap.capacity
      · exact isOrdered_insert hordered hroom
          (hafter.subset (live_insert_perm entry hroom).symm.subset)
      · rw [after, insert_refuses entry hroom]
        exact hordered
  | extractMax => exact ⟨isOrdered_extractMax hordered hcoherent, coherent_extractMax hcoherent⟩
  | clear =>
      rw [after]
      refine ⟨fun child hchild => absurd hchild (Nat.not_lt_zero child), ?_⟩
      exact hcoherent.subset (by simp)

/-- A run keeps the heap in order if the live entries are coherent after every insertion. -/
theorem isOrdered_afterAll (commands : List Command) (hordered : heap.IsOrdered)
    (hcoherent : Entry.Coherent heap.live)
    (hinserts : ∀ earlier entry, earlier ++ [.insert entry] <+: commands →
      Entry.Coherent (heap.afterAll (earlier ++ [.insert entry])).live) :
    (heap.afterAll commands).IsOrdered ∧ Entry.Coherent (heap.afterAll commands).live := by
  induction commands using List.reverseRecOn with
  | nil => exact ⟨hordered, hcoherent⟩
  | append_singleton commands command ih =>
      obtain ⟨hordered', hcoherent'⟩ := ih fun earlier entry hearlier =>
        hinserts earlier entry (hearlier.trans (List.prefix_append _ _))
      have hlast : heap.afterAll (commands ++ [command]) =
          (heap.afterAll commands).after command := by
        simp [afterAll]
      rw [hlast]
      refine isOrdered_after hordered' hcoherent' command ?_
      rintro entry rfl
      rw [← hlast]
      exact hinserts commands entry (List.prefix_refl _)

/-- A new heap holds nothing. -/
theorem live_new {capacity : Nat} (hnew : Heap.new capacity = .ok heap) : heap.live = [] := by
  obtain ⟨-, rfl⟩ := new_eq_ok_iff.mp hnew
  simp [live]

/-- **Heaps sort.** Entries are inserted into a new heap, taken out and forgotten in any order, with
any priorities, serial numbers and slots. If the live entries are coherent after every insertion,
then after every operation

* the heap is in order,
* the root, unless the heap is empty, is a live entry that no live one outranks,
* draining lists the live entries, and none of them outranks one before it, and
* if no two of them have the same priority and serial number, it lists them in the only way that
  goes by falling priority and ascending serial number. -/
theorem run_sorts {capacity : Nat} {start : Heap} {commands : List Command}
    (hnew : Heap.new capacity = .ok start)
    (hcoherent : ∀ earlier entry, earlier ++ [.insert entry] <+: commands →
      Entry.Coherent (start.afterAll (earlier ++ [.insert entry])).live) :
    ∀ reached, reached <+: commands →
      let heap := start.afterAll reached
      heap.IsOrdered ∧
      (0 < heap.len → ∃ root ∈ heap.live, heap.peekMax = some root ∧
        heap.extractMax.1 = some root ∧ ∀ entry ∈ heap.live, entry.outranks root = false) ∧
      (heap.extractMany heap.len).1 = heap.drain.map some ∧ heap.drain.Perm heap.live ∧
      (heap.drain.Pairwise fun earlier later => later.outranks earlier = false) ∧
      ((heap.live.map fun entry => (entry.priority, entry.sequence)).Nodup →
        heap.drain.Pairwise Entry.Precedes ∧
        ∀ sorted, sorted.Perm heap.live → sorted.Pairwise Entry.Precedes →
          heap.drain = sorted) := by
  intro reached hreached heap
  have hlive := live_new hnew
  have hempty : start.len = 0 := by rw [← length_live, hlive, List.length_nil]
  have hordered : start.IsOrdered := by
    intro child hchild
    omega
  obtain ⟨hordered', hcoherent'⟩ := isOrdered_afterAll reached hordered
    ⟨fun _ => 0, by simp [hlive]⟩
    fun earlier entry hearlier => hcoherent earlier entry (hearlier.trans hreached)
  refine ⟨hordered', fun hpos => ?_, (extractMany_len heap).1, drain_perm heap,
    pairwise_drain hordered' hcoherent', fun hnodup => ?_⟩
  · obtain ⟨root, hroot⟩ := exists_peekMax hpos
    exact ⟨root, peekMax_mem_live hroot, hroot, (extractMax_fst heap).trans hroot,
      fun entry hentry => outranks_peekMax hordered' hcoherent' hroot hentry⟩
  · have hprecedes := pairwise_precedes_drain hordered' hcoherent' hnodup
    exact ⟨hprecedes, fun sorted hperm hsorted =>
      eq_of_pairwise_precedes hcoherent' (drain_perm heap) hperm hprecedes hsorted⟩

/-- A heap with room for three entries. -/
def sample : Heap := ⟨#[.blank, .blank, .blank], 0, by decide⟩

/-- The last serial number before the counter wraps, the first one after it, an urgent entry that
comes and goes, and one more entry in its place. -/
def sampleCommands : List Command :=
  [.insert ⟨0, 0xffffffffffffffff, 0⟩, .insert ⟨0, 0, 1⟩, .insert ⟨5, 7, 2⟩, .extractMax,
    .insert ⟨0, 1, 2⟩]

/-- The sample lists the entry from before the wrap first. -/
theorem run_sorts_sampleCommands :
    Heap.new 3 = .ok sample ∧ (sample.afterAll sampleCommands).drain =
      [⟨0, 0xffffffffffffffff, 0⟩, ⟨0, 0, 1⟩, ⟨0, 1, 2⟩] := by
  have hnew : Heap.new 3 = .ok sample := rfl
  have hcoherent : ∀ reached ∈ sampleCommands.inits,
      ∀ entry ∈ (sample.afterAll reached).live,
        Serial.distance 0xffffffffffffffff entry.sequence < 2 ^ 63 := by decide +kernel
  have hinserts : ∀ earlier entry, earlier ++ [.insert entry] <+: sampleCommands →
      Entry.Coherent (sample.afterAll (earlier ++ [.insert entry])).live :=
    fun earlier entry hearlier =>
      ⟨fun _ => 0xffffffffffffffff, hcoherent _ ((List.mem_inits _ _).mpr hearlier)⟩
  obtain ⟨-, -, -, -, -, hsorted⟩ := run_sorts hnew hinserts sampleCommands (List.prefix_refl _)
  exact ⟨hnew, (hsorted (by decide +kernel)).2 _ (by decide +kernel) (by decide +kernel)⟩

end Heap

end StableQueue
