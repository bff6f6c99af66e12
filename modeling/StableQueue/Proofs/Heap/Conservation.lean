import Mathlib.Data.Multiset.AddSub
import StableQueue.Proofs.Heap.Machine

/-!
# Heaps Conserve Their Entries

Which entry a heap gives out depends on how the entries compare. That it gives out the entries it
was given, each of them once, does not: the entries may have equal keys, outrank each other or go
round in a circle, and still nothing is lost, doubled or made up. The sifts end because of the
positions they go through, and they only exchange what is there.

The bag a heap should hold can be told from its answers alone. `Heap.tally` does this for one
operation and `Heap.kept` for a run.

## Main results

* `Heap.live_afterAll`: after any run, the live entries are those that the answers tell.
* `Heap.conserves`: what every operation does to the bag.
* `Heap.entries_conserved`: runs on a new heap, carried out on a machine.
-/

namespace StableQueue

namespace Heap

/-- What is in a bag of entries after an operation that was answered: an entry that was accepted is
added, an entry that came out is taken away once, and clearing takes away all of them. -/
def tally (bag : Multiset Entry) : Command × Reply → Multiset Entry
  | (.insert entry, .inserted true) => entry ::ₘ bag
  | (.extractMax, .extracted (some root)) => bag.erase root
  | (.clear, _) => 0
  | _ => bag

/-- What is in a bag of entries after several operations that were answered. -/
def kept (bag : Multiset Entry) (commands : List Command) (replies : List Reply) :
    Multiset Entry :=
  (commands.zip replies).foldl tally bag

variable {heap : Heap} {root : Entry}

/-- The root is an entry of the bag, and taking it out takes it away once. -/
theorem live_extractMax (hroot : heap.peekMax = some root) :
    (heap.extractMax.2.live : Multiset Entry) = (heap.live : Multiset Entry).erase root := by
  rw [Multiset.coe_eq_coe.mpr (live_extractMax_perm hroot), ← Multiset.cons_coe,
    Multiset.erase_cons_head]

/-- An empty heap has no root. -/
theorem peekMax_of_empty (hempty : heap.len = 0) : heap.peekMax = none := dif_pos hempty

/-- **One operation** leaves the entries that its answer tells. -/
theorem live_after (heap : Heap) (command : Command) :
    ((heap.after command).live : Multiset Entry) =
      tally heap.live (command, heap.reply command) := by
  cases command with
  | insert entry =>
      by_cases hroom : heap.len < heap.capacity
      · rw [reply, insert_accepts entry hroom, tally, Multiset.cons_coe, Multiset.coe_eq_coe]
        exact live_insert_perm entry hroom
      · rw [after, reply, insert_refuses entry hroom]
        rfl
  | extractMax =>
      rcases Nat.eq_zero_or_pos heap.len with hempty | hpos
      · rw [after, reply, extractMax_of_empty hempty]
        rfl
      · obtain ⟨root, hroot⟩ := exists_peekMax hpos
        rw [after, reply, extractMax_fst, hroot, tally, live_extractMax hroot]
  | clear => simp [after, tally]

/-- **So does any number of them.** -/
theorem live_afterAll (heap : Heap) (commands : List Command) :
    ((heap.afterAll commands).live : Multiset Entry) =
      kept heap.live commands (heap.replies commands) := by
  induction commands generalizing heap with
  | nil => rfl
  | cons command commands ih =>
      rw [kept, replies, List.zip_cons_cons, List.foldl_cons, ← live_after]
      exact ih (heap.after command)

/-- A heap holds a bag of entries, and each operation does to the bag what it should, whatever the
entries are. -/
structure Conserves (heap : Heap) (bag : Multiset Entry) : Prop where
  /-- There is room for the entries in use. -/
  len_le_capacity : heap.len ≤ heap.capacity
  /-- The entries in use are those of the bag. -/
  live_eq : (heap.live : Multiset Entry) = bag
  /-- An entry is accepted exactly if there is room for it, -/
  accepts_iff : ∀ entry, (heap.insert entry).1 = true ↔ heap.len < heap.capacity
  /-- it is then added to the bag, -/
  live_insert : ∀ entry, heap.len < heap.capacity →
    ((heap.insert entry).2.live : Multiset Entry) = entry ::ₘ bag
  /-- and otherwise nothing changes. -/
  insert_full : ∀ entry, ¬ heap.len < heap.capacity → heap.insert entry = (false, heap)
  /-- What is taken out of a heap that is not empty is the root, an entry of the bag, which is taken
  away once. -/
  extracts : 0 < heap.len → ∃ root ∈ bag, heap.peekMax = some root ∧
    heap.extractMax.1 = some root ∧
    (heap.extractMax.2.live : Multiset Entry) = bag.erase root
  /-- An empty heap has no root, nothing is taken out of it, and nothing changes. -/
  extract_empty : heap.len = 0 → heap.peekMax = none ∧ heap.extractMax = (none, heap)
  /-- Clearing empties the bag. -/
  live_clear : (heap.clear.live : Multiset Entry) = 0
  /-- What is left over at positions that are not in use has no effect on any later run. -/
  leftovers : ∀ twin : Heap, twin.capacity = heap.capacity → twin.live = heap.live →
    ∀ later, twin.replies later = heap.replies later ∧
      (twin.afterAll later).live = (heap.afterAll later).live

/-- Two heaps of the same capacity with the same entries in use behave alike. -/
theorem replies_eq_of_live_eq {twin : Heap} (hcapacity : twin.capacity = heap.capacity)
    (hlive : twin.live = heap.live) (later : List Command) :
    twin.replies later = heap.replies later ∧
      (twin.afterAll later).live = (heap.afterAll later).live := by
  have hmirrors : Mirrors id heap twin := ⟨hcapacity, by rw [hlive, List.map_id]⟩
  have hcompare : ∀ x y : Entry, (id x).outranks (id y) = x.outranks y := fun _ _ => rfl
  have hreplies := hmirrors.replies hcompare later
  have hafter := (hmirrors.afterAll hcompare later).live_eq
  rw [Command.map_id, List.map_id] at hreplies hafter
  rw [Reply.map_id, List.map_id] at hreplies
  rw [List.map_id] at hafter
  exact ⟨hreplies, hafter⟩

/-- **Every heap conserves its entries.** -/
theorem conserves (heap : Heap) : heap.Conserves heap.live where
  len_le_capacity := heap.len_le
  live_eq := rfl
  accepts_iff := by
    intro entry
    refine ⟨fun haccepted => ?_, insert_accepts entry⟩
    by_contra hroom
    rw [insert_refuses entry hroom] at haccepted
    contradiction
  live_insert := by
    intro entry hroom
    rw [Multiset.cons_coe, Multiset.coe_eq_coe]
    exact live_insert_perm entry hroom
  insert_full := insert_refuses
  extracts := by
    intro hpos
    obtain ⟨root, hroot⟩ := exists_peekMax hpos
    exact ⟨root, peekMax_mem_live hroot, hroot, (extractMax_fst heap).trans hroot,
      live_extractMax hroot⟩
  extract_empty := fun hempty => ⟨peekMax_of_empty hempty, extractMax_of_empty hempty⟩
  live_clear := by rw [Heap.live_clear, Multiset.coe_nil]
  leftovers := fun _ hcapacity hlive => replies_eq_of_live_eq hcapacity hlive

/-- Runs do not change the capacity. -/
theorem capacity_afterAll (heap : Heap) (commands : List Command) :
    (heap.afterAll commands).capacity = heap.capacity := by
  induction commands generalizing heap with
  | nil => rfl
  | cons command commands ih => exact (ih (heap.after command)).trans (capacity_after heap command)

/-- **Entries are conserved.** Entries are inserted into a new heap, taken out and forgotten in any
order, with any priorities, serial numbers and slots. Carried out on a machine, every operation ends
without a fault, and so does looking at the root or listing the entries at any time. The heap then
conserves the entries that were accepted and have neither come out nor been forgotten since. -/
theorem entries_conserved {capacity : Nat} {start : Heap} (hnew : Heap.new capacity = .ok start)
    (commands : List Command) :
    let heap := start.afterAll commands
    start.cells.performAll commands = pure (start.replies commands, heap.cells) ∧
      heap.cells.peekMax = pure heap.peekMax ∧ heap.cells.live = pure heap.live ∧
      heap.capacity = capacity ∧
      heap.Conserves (kept 0 commands (start.replies commands)) := by
  obtain ⟨hcapacity, hword⟩ := word_of_new hnew
  have hkept := live_afterAll start commands
  rw [live_new hnew, Multiset.coe_nil] at hkept
  exact ⟨performAll_cells hword commands, peekMax_cells _, live_cells _,
    (capacity_afterAll start commands).trans hcapacity, hkept ▸ conserves _⟩

/-- Three entries that go round in a circle, a fourth one that finds no room, one that comes out,
and one half the circle away from the first. -/
def sampleCircle : List Command :=
  [.insert ⟨0, 0, 0⟩, .insert ⟨0, 0x5555555555555555, 1⟩, .insert ⟨0, 0xaaaaaaaaaaaaaaaa, 2⟩,
    .insert ⟨0, 7, 3⟩, .extractMax, .insert ⟨0, 0x8000000000000000, 4⟩]

/-- The entries of the sample outrank one another all round, and each that was accepted is there
until it comes out. -/
theorem entries_conserved_sampleCircle :
    Entry.outranks ⟨0, 0, 0⟩ ⟨0, 0x5555555555555555, 1⟩ ∧
      Entry.outranks ⟨0, 0x5555555555555555, 1⟩ ⟨0, 0xaaaaaaaaaaaaaaaa, 2⟩ ∧
      Entry.outranks ⟨0, 0xaaaaaaaaaaaaaaaa, 2⟩ ⟨0, 0, 0⟩ ∧
      Heap.new 3 = .ok sample ∧
      sample.cells.performAll sampleCircle =
        pure (sample.replies sampleCircle, (sample.afterAll sampleCircle).cells) ∧
      ((sample.afterAll sampleCircle).live : Multiset Entry) =
        {⟨0, 0, 0⟩, ⟨0, 0x5555555555555555, 1⟩, ⟨0, 0x8000000000000000, 4⟩} := by
  have hnew : Heap.new 3 = .ok sample := rfl
  obtain ⟨hends, -, -, -, hconserves⟩ := entries_conserved hnew sampleCircle
  refine ⟨by decide +kernel, by decide +kernel, by decide +kernel, hnew, hends,
    hconserves.live_eq.trans ?_⟩
  decide +kernel

end Heap

end StableQueue
