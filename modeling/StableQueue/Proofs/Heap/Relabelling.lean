import StableQueue.Proofs.Heap.Drain

/-!
# Heaps Only Compare

A heap never looks at an entry other than to ask whether it outranks another one, and never at the
positions beyond those in use. So if the entries are replaced by others that compare alike, the heap
goes through the same motions: `Heap.Mirrors` says that one heap holds, position by position, what a
map makes of the entries of another, and every operation keeps it so. Nothing is asked of the
comparison itself, which need not be an order.

Two maps are of interest. Adding a number to all serial numbers, modulo `2 ^ 64`, keeps the way
between any two of them, so it does not matter to a heap where the counter stands or when it wraps.
And with the map that changes nothing, two heaps with the same entries in use behave alike, whatever
is left over in their arrays from entries that have gone.

## Main results

* `Heap.Mirrors.insert`, `Heap.Mirrors.extractMax`: one operation on two heaps.
* `Heap.Mirrors.afterAll`, `Heap.Mirrors.replies`: any number of them.
* `Heap.wrap_is_invisible`: heaps whose serial numbers are all moved by the same amount.
-/

namespace StableQueue

namespace Heap

/-! ### Runs with their answers -/

/-- What an operation answers. -/
inductive Reply where
  /-- Whether there was room for the entry. -/
  | inserted (accepted : Bool)
  /-- The entry that was at the root. -/
  | extracted (root : Option Entry)
  /-- Nothing. -/
  | cleared

/-- The answer of an operation. -/
def reply (heap : Heap) : Command → Reply
  | .insert entry => .inserted (heap.insert entry).1
  | .extractMax => .extracted heap.extractMax.1
  | .clear => .cleared

/-- The answers of several operations, one after the other. -/
def replies (heap : Heap) : List Command → List Reply
  | [] => []
  | command :: commands => heap.reply command :: (heap.after command).replies commands

/-- An operation with another entry. -/
def Command.map (f : Entry → Entry) : Command → Command
  | insert entry => insert (f entry)
  | extractMax => extractMax
  | clear => clear

/-- An answer with another entry. -/
def Reply.map (f : Entry → Entry) : Reply → Reply
  | inserted accepted => inserted accepted
  | extracted root => extracted (root.map f)
  | cleared => cleared

/-- An operation with the same entry. -/
@[simp] theorem Command.map_id : Command.map id = id := by
  funext command
  cases command <;> rfl

/-- An answer with the same entry. -/
@[simp] theorem Reply.map_id : Reply.map id = id := by
  funext reply
  cases reply with
  | extracted root => cases root <;> rfl
  | _ => rfl

/-! ### Two arrays -/

/-- On its first `len` positions, an array holds what a map makes of the entries of another. -/
def Matches (f : Entry → Entry) (len : Nat) (entries others : Array Entry) : Prop :=
  ∀ i < len, entryAt others i = f (entryAt entries i)

/-- Storing an entry changes one position. -/
theorem entryAt_set {entries : Array Entry} {i : Nat} (hi : i < entries.size) (entry : Entry)
    (k : Nat) : entryAt (entries.set i entry) k = if k = i then entry else entryAt entries k := by
  split
  · rename_i hki
    simp [entryAt, hki, hi]
  · rename_i hki
    simp [entryAt, Ne.symm hki]

section Sifting

variable {f : Entry → Entry} {len i j : Nat} {entries others : Array Entry}

/-- Swapping the same positions of both arrays. -/
theorem Matches.swap (h : Matches f len entries others) (hi : i < len) (hj : j < len)
    {hi₁ : i < entries.size} {hj₁ : j < entries.size} {hi₂ : i < others.size}
    {hj₂ : j < others.size} :
    Matches f len (entries.swap i j hi₁ hj₁) (others.swap i j hi₂ hj₂) := by
  intro k hk
  rw [entryAt_swap, entryAt_swap]
  split
  · exact h j hj
  · split
    · exact h i hi
    · exact h k hk

variable (hf : ∀ x y, (f x).outranks (f y) = x.outranks y)
include hf

/-- Entries at the same positions of both arrays compare alike. -/
theorem Matches.outranks_eq (h : Matches f len entries others) (hi : i < len) (hj : j < len)
    {hi₁ : i < entries.size} {hj₁ : j < entries.size} {hi₂ : i < others.size}
    {hj₂ : j < others.size} :
    others[i].outranks others[j] = entries[i].outranks entries[j] := by
  have hiᵢ := h i hi
  have hjⱼ := h j hj
  rw [entryAt_of_lt hi₂, entryAt_of_lt hi₁] at hiᵢ
  rw [entryAt_of_lt hj₂, entryAt_of_lt hj₁] at hjⱼ
  rw [hiᵢ, hjⱼ, hf]

/-- Sifting up takes the same way in both arrays. -/
theorem Matches.siftUp (h : Matches f len entries others) (hi : i < len)
    (hi₁ : i < entries.size) (hi₂ : i < others.size) :
    Matches f len (siftUp entries i hi₁) (siftUp others i hi₂) := by
  induction entries, i, hi₁ using Heap.siftUp.induct generalizing others with
  | case1 entries hi₁ =>
      rw [Heap.siftUp, Heap.siftUp, dif_pos rfl, dif_pos rfl]
      exact h
  | case2 entries i hi₁ hne hp hup ih =>
      rw [Heap.siftUp, Heap.siftUp, dif_neg hne, dif_neg hne]
      rw [if_pos hup, if_pos ((h.outranks_eq hf hi (hp.trans hi)).trans hup)]
      exact ih (h.swap hi (hp.trans hi)) (hp.trans hi) _
  | case3 entries i hi₁ hne hp hup =>
      rw [Heap.siftUp, Heap.siftUp, dif_neg hne, dif_neg hne]
      rw [if_neg hup, if_neg (by rwa [h.outranks_eq hf hi (hp.trans hi)])]
      exact h

/-- The same child leads in both arrays. -/
theorem Matches.leadingChild_eq (h : Matches f len entries others) (hl : 2 * i + 1 < len)
    (hlen₁ : len ≤ entries.size) (hlen₂ : len ≤ others.size) :
    leadingChild others len i hlen₂ hl = leadingChild entries len i hlen₁ hl := by
  rw [leadingChild, leadingChild]
  split
  · rename_i hr
    rw [h.outranks_eq hf hr hl]
  · rfl

/-- Sifting down takes the same way in both arrays. -/
theorem Matches.siftDown (h : Matches f len entries others) (hlen₁ : len ≤ entries.size)
    (hlen₂ : len ≤ others.size) :
    Matches f len (siftDown entries len i hlen₁) (siftDown others len i hlen₂) := by
  induction entries, i, hlen₁ using Heap.siftDown.induct generalizing others with
  | case1 entries i hlen₁ hl child hc hchild hi hup =>
      rename_i ih
      rw [Heap.siftDown, Heap.siftDown, dif_pos hl, dif_pos hl]
      simp only [h.leadingChild_eq hf hl hlen₁]
      rw [if_pos hup, if_pos ((h.outranks_eq hf hc.2 (hc.1.trans hc.2)).trans hup)]
      exact ih (h.swap (hc.1.trans hc.2) hc.2) _
  | case2 entries i hlen₁ hl child hc hchild hi =>
      rename_i hup
      rw [Heap.siftDown, Heap.siftDown, dif_pos hl, dif_pos hl]
      simp only [h.leadingChild_eq hf hl hlen₁]
      rw [if_neg hup, if_neg (by rwa [h.outranks_eq hf hc.2 (hc.1.trans hc.2)])]
      exact h
  | case3 entries i hlen₁ hl =>
      rw [Heap.siftDown, Heap.siftDown, dif_neg hl, dif_neg hl]
      exact h

end Sifting

/-! ### Two heaps -/

/-- A heap of the same capacity holds, position by position, what a map makes of the entries of
another. -/
structure Mirrors (f : Entry → Entry) (heap twin : Heap) : Prop where
  /-- Both have room for as many entries. -/
  capacity_eq : twin.capacity = heap.capacity
  /-- The entries in use correspond. -/
  live_eq : twin.live = heap.live.map f

variable {f : Entry → Entry} {heap twin : Heap} {entry : Entry}

/-- The entries of two heaps correspond exactly if they do so in the two arrays. -/
theorem live_eq_map_iff :
    twin.live = heap.live.map f ↔
      twin.len = heap.len ∧ Matches f heap.len heap.entries twin.entries := by
  have hlen₁ := heap.len_le
  have hlen₂ := twin.len_le
  constructor
  · intro hlive
    have hlen : twin.len = heap.len := by
      simpa using congrArg List.length hlive
    refine ⟨hlen, fun i hi => ?_⟩
    have hat := congrArg (fun entries => entries[i]?) hlive
    have hi' : i < twin.len := hlen ▸ hi
    simp only [live, List.getElem?_map, List.getElem?_take_of_lt hi', List.getElem?_take_of_lt hi,
      Array.getElem?_toList] at hat
    rw [entryAt, entryAt, hat, Array.getElem?_eq_getElem (by omega)]
    rfl
  · rintro ⟨hlen, hmatch⟩
    apply List.ext_getElem
    · simp [hlen]
    · intro i hi₂ hi₁
      have hi : i < heap.len := by simpa using hi₁
      have hat := hmatch i hi
      rw [entryAt_of_lt (by omega), entryAt_of_lt (by omega)] at hat
      simpa [live] using hat

/-- Both heaps hold as many entries. -/
theorem Mirrors.len_eq (h : Mirrors f heap twin) : twin.len = heap.len :=
  (live_eq_map_iff.mp h.live_eq).1

/-- The arrays of both heaps correspond as far as they are in use. -/
theorem Mirrors.matches (h : Mirrors f heap twin) :
    Matches f heap.len heap.entries twin.entries :=
  (live_eq_map_iff.mp h.live_eq).2

/-- The roots correspond. -/
theorem Mirrors.peekMax (h : Mirrors f heap twin) : twin.peekMax = heap.peekMax.map f := by
  have hlen₁ := heap.len_le
  rcases Nat.eq_zero_or_pos heap.len with hempty | hpos
  · have hempty' : twin.len = 0 := h.len_eq.trans hempty
    simp [Heap.peekMax, hempty, hempty']
  · rw [peekMax_eq_some_iff.mpr ⟨hpos, rfl⟩,
      peekMax_eq_some_iff.mpr ⟨h.len_eq.symm ▸ hpos, h.matches 0 hpos⟩, Option.map_some]

/-- Cleared heaps correspond. -/
theorem Mirrors.clear (h : Mirrors f heap twin) : Mirrors f heap.clear twin.clear :=
  ⟨h.capacity_eq, by simp⟩

section Compare

variable (hf : ∀ x y, (f x).outranks (f y) = x.outranks y)
include hf

/-- Either both heaps are in order or neither is. -/
theorem Mirrors.isOrdered_iff (h : Mirrors f heap twin) : twin.IsOrdered ↔ heap.IsOrdered := by
  rw [Heap.isOrdered_iff, Heap.isOrdered_iff, Ordered, Ordered, h.len_eq]
  refine forall₃_congr fun child hchild hne => ?_
  rw [EdgeOrdered, EdgeOrdered, h.matches child hchild,
    h.matches (parent child) ((parent_lt hne).trans hchild), hf]

/-- **Inserting corresponding entries.** -/
theorem Mirrors.insert (h : Mirrors f heap twin) (entry : Entry) :
    (twin.insert (f entry)).1 = (heap.insert entry).1 ∧
      Mirrors f (heap.insert entry).2 (twin.insert (f entry)).2 := by
  by_cases hroom : heap.len < heap.capacity
  · have hroom' : twin.len < twin.capacity := by rwa [h.len_eq, h.capacity_eq]
    have hsize : heap.len < heap.entries.size := hroom
    have hsize' : twin.len < twin.entries.size := hroom'
    rw [insert_accepts entry hroom, insert_accepts (f entry) hroom']
    refine ⟨rfl, by rw [capacity_insert, capacity_insert, h.capacity_eq], ?_⟩
    rw [live_eq_map_iff, len_insert hroom, len_insert hroom', h.len_eq]
    refine ⟨rfl, ?_⟩
    rw [insert_of_lt hsize, insert_of_lt hsize']
    simp only [h.len_eq]
    refine Matches.siftUp hf (fun i hi => ?_) (Nat.lt_succ_self _) _ _
    rw [entryAt_set, entryAt_set]
    split
    · rfl
    · rename_i hne
      exact h.matches i (by omega)
  · have hroom' : ¬ twin.len < twin.capacity := by rwa [h.len_eq, h.capacity_eq]
    rw [insert_refuses entry hroom, insert_refuses (f entry) hroom']
    exact ⟨rfl, h⟩

/-- **Extracting from both heaps.** -/
theorem Mirrors.extractMax (h : Mirrors f heap twin) :
    twin.extractMax.1 = heap.extractMax.1.map f ∧
      Mirrors f heap.extractMax.2 twin.extractMax.2 := by
  have hlen₁ := heap.len_le
  have hlen₂ := twin.len_le
  refine ⟨by rw [extractMax_fst, extractMax_fst, h.peekMax],
    by rw [capacity_extractMax, capacity_extractMax, h.capacity_eq], ?_⟩
  rw [live_eq_map_iff, len_extractMax, len_extractMax, h.len_eq]
  refine ⟨rfl, ?_⟩
  by_cases hfew : heap.len ≤ 1
  · intro i hi
    omega
  · obtain ⟨last, hlast⟩ : ∃ last, heap.len = last + 2 := ⟨heap.len - 2, by omega⟩
    have hlast' := h.len_eq.trans hlast
    rw [extractMax_of_many (by omega) hlast, extractMax_of_many (by omega) hlast', hlast]
    refine Matches.siftDown hf (fun i hi => ?_) _ _
    -- the last entries have moved to the root, the others stand where they stood
    rw [entryAt_set, entryAt_set]
    split
    · rw [← entryAt_of_lt, ← entryAt_of_lt]
      exact h.matches (last + 1) (by omega)
    · exact h.matches i (by omega)

/-- **One operation on two heaps** gives corresponding answers and leaves corresponding heaps. -/
theorem Mirrors.after (h : Mirrors f heap twin) (command : Command) :
    twin.reply (command.map f) = (heap.reply command).map f ∧
      Mirrors f (heap.after command) (twin.after (command.map f)) := by
  cases command with
  | insert entry =>
      obtain ⟨hreply, hafter⟩ := h.insert hf entry
      exact ⟨congrArg Reply.inserted hreply, hafter⟩
  | extractMax =>
      obtain ⟨hreply, hafter⟩ := h.extractMax hf
      exact ⟨congrArg Reply.extracted hreply, hafter⟩
  | clear => exact ⟨rfl, h.clear⟩

/-- **Any number of operations on two heaps** leave corresponding heaps, -/
theorem Mirrors.afterAll (h : Mirrors f heap twin) (commands : List Command) :
    Mirrors f (heap.afterAll commands) (twin.afterAll (commands.map (Command.map f))) := by
  induction commands generalizing heap twin with
  | nil => exact h
  | cons command commands ih => exact ih (h.after hf command).2

/-- and give corresponding answers. -/
theorem Mirrors.replies (h : Mirrors f heap twin) (commands : List Command) :
    twin.replies (commands.map (Command.map f)) =
      (heap.replies commands).map (Reply.map f) := by
  induction commands generalizing heap twin with
  | nil => rfl
  | cons command commands ih =>
      obtain ⟨hreply, hafter⟩ := h.after hf command
      simp only [List.map_cons, Heap.replies, hreply, ih hafter]

end Compare

end Heap

/-! ### Serial numbers moved along the circle -/

/-- Numbers that are moved by the same amount compare as before. -/
@[simp] theorem Serial.before_add_right (a b amount : UInt64) :
    Serial.before (a + amount) (b + amount) = Serial.before a b := by
  rw [Serial.before, Serial.before, add_sub_add_right_eq_sub]

/-- An entry whose serial number is moved by some amount. -/
def Entry.shift (amount : UInt64) (entry : Entry) : Entry :=
  { entry with sequence := entry.sequence + amount }

/-- Entries that are moved by the same amount compare as before. -/
theorem Entry.outranks_shift (amount : UInt64) (x y : Entry) :
    (x.shift amount).outranks (y.shift amount) = x.outranks y := by
  rw [outranks, outranks, ← Serial.before_add_right x.sequence y.sequence amount]
  rfl

namespace Heap

/-- The entries inserted are numbered in a row. -/
def numbered (next : UInt64) : List Command → List Command
  | [] => []
  | .insert entry :: commands =>
    .insert { entry with sequence := next } :: numbered (next + 1) commands
  | command :: commands => command :: numbered next commands

/-- The slots of the entries that come out, in the order in which they do. -/
def slotsOut (replies : List Reply) : List Nat :=
  replies.filterMap fun
    | .extracted root => root.map Entry.slot
    | _ => none

/-- Numbering from a later number on is moving all numbers. -/
theorem map_shift_numbered (amount next : UInt64) (commands : List Command) :
    (numbered next commands).map (Command.map (Entry.shift amount)) =
      numbered (next + amount) commands := by
  induction commands generalizing next with
  | nil => rfl
  | cons command commands ih =>
      cases command with
      | insert entry =>
          have hnext : next + 1 + amount = next + amount + 1 := add_right_comm _ _ _
          simp only [numbered, List.map_cons, ih, hnext]
          rfl
      | _ =>
          simp only [numbered, List.map_cons, ih]
          rfl

/-- Moving the numbers does not touch the slots. -/
theorem slotsOut_map_shift (amount : UInt64) (replies : List Reply) :
    slotsOut (replies.map (Reply.map (Entry.shift amount))) = slotsOut replies := by
  rw [slotsOut, slotsOut, List.filterMap_map]
  congr 1
  funext reply
  cases reply with
  | extracted root => cases root <;> rfl
  | _ => rfl

/-- A heap without entries corresponds to itself. -/
theorem Mirrors.of_empty (hempty : heap.live = []) : Mirrors f heap heap :=
  ⟨rfl, by rw [hempty, List.map_nil]⟩

/-- **The wrap is invisible.** Entries are inserted into a new heap, taken out and forgotten in any
order, with any priorities, serial numbers and slots, any number of times. If the serial numbers are
all moved by the same amount, modulo `2 ^ 64`, then

* every answer is the same but for the serial number of what was taken out,
* there are as many entries in the end, and the heap is in order if it was, and
* the entries are at the same positions, each with its serial number moved.

So if the entries are numbered in a row, their slots come out in the same order from whatever number
on they are numbered. -/
theorem wrap_is_invisible {capacity : Nat} {start : Heap} (hnew : Heap.new capacity = .ok start)
    (commands : List Command) :
    (∀ amount,
      let moved := commands.map (Command.map (Entry.shift amount))
      start.replies moved = (start.replies commands).map (Reply.map (Entry.shift amount)) ∧
      (start.afterAll moved).len = (start.afterAll commands).len ∧
      ((start.afterAll moved).IsOrdered ↔ (start.afterAll commands).IsOrdered) ∧
      (start.afterAll moved).peekMax = (start.afterAll commands).peekMax.map (Entry.shift amount) ∧
      (start.afterAll moved).live = (start.afterAll commands).live.map (Entry.shift amount)) ∧
    ∀ first, slotsOut (start.replies (numbered first commands)) =
      slotsOut (start.replies (numbered 0 commands)) := by
  have hstart (amount : UInt64) : Mirrors (Entry.shift amount) start start :=
    .of_empty (live_new hnew)
  refine ⟨fun amount => ?_, fun first => ?_⟩
  · have hcompare := Entry.outranks_shift amount
    have hafter := (hstart amount).afterAll hcompare commands
    exact ⟨(hstart amount).replies hcompare commands, hafter.len_eq, hafter.isOrdered_iff hcompare,
      hafter.peekMax, hafter.live_eq⟩
  · have hreplies := (hstart first).replies (Entry.outranks_shift first) (numbered 0 commands)
    rw [map_shift_numbered, zero_add] at hreplies
    rw [hreplies, slotsOut_map_shift]

/-- Four entries of one priority are inserted into a heap with room for three, and taken out. -/
def sampleRow : List Command :=
  [.insert ⟨0, 0, 4⟩, .insert ⟨0, 0, 5⟩, .extractMax, .insert ⟨0, 0, 6⟩, .insert ⟨0, 0, 7⟩,
    .extractMax, .extractMax, .extractMax]

/-- Numbered in a row across the wrap, the entries of the sample come out as they were inserted. And
of three entries, one with a high priority, all are where they were after some have been moved
across the wrap and some not. -/
theorem wrap_is_invisible_sampleRow :
    Heap.new 3 = .ok sample ∧
      slotsOut (sample.replies (numbered 0xfffffffffffffffe sampleRow)) = [4, 5, 6, 7] ∧
      (sample.afterAll [.insert ⟨0, 0, 0⟩, .insert ⟨0, 1, 1⟩, .insert ⟨5, 2, 2⟩]).live =
        [⟨5, 2, 2⟩, ⟨0, 1, 1⟩, ⟨0, 0, 0⟩] ∧
      (sample.afterAll [.insert ⟨0, 0xffffffffffffffff, 0⟩, .insert ⟨0, 0, 1⟩,
        .insert ⟨5, 1, 2⟩]).live = [⟨5, 1, 2⟩, ⟨0, 0, 1⟩, ⟨0, 0xffffffffffffffff, 0⟩] := by
  have hnew : Heap.new 3 = .ok sample := rfl
  obtain ⟨-, hslots⟩ := wrap_is_invisible hnew sampleRow
  obtain ⟨hmoved, -⟩ := wrap_is_invisible hnew
    [.insert ⟨0, 0, 0⟩, .insert ⟨0, 1, 1⟩, .insert ⟨5, 2, 2⟩]
  obtain ⟨-, -, -, -, hlive⟩ := hmoved 0xffffffffffffffff
  have hbefore : (sample.afterAll [.insert ⟨0, 0, 0⟩, .insert ⟨0, 1, 1⟩, .insert ⟨5, 2, 2⟩]).live =
      [⟨5, 2, 2⟩, ⟨0, 1, 1⟩, ⟨0, 0, 0⟩] := by decide +kernel
  rw [hbefore] at hlive
  exact ⟨hnew, (hslots 0xfffffffffffffffe).trans (by decide +kernel), hbefore, hlive⟩

end Heap

end StableQueue
