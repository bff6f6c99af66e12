import StableQueue.Proofs.Heap.Live

/-!
# Where Outranking Is an Order

`Serial.before` goes by the way between two numbers on the circle, so on all numbers together it is
no order: two numbers opposite each other come before each other, and three numbers spread over the
circle come before each other in turn. On numbers that lie within half of the circle after one of
them it is a strict total order, and this module says that there are no others: a finite set of
numbers is ordered by `Serial.before` if and only if it fits in half of the circle.

Entries of different priorities are never compared by their numbers. So `Entry.outranks` is a strict
weak order on a finite set of entries if and only if, for each priority on its own, the numbers of
the entries of that priority fit in half of the circle.

## Main results

* `Serial.onHalfCircle_of_transitive`, `Serial.isStrictTotalOrder_of_base`: the two directions for
  numbers.
* `Entry.coherent_of_onHalfCircle`, `Entry.isStrictWeakOrder_of_coherent`: from half circles to the
  order of entries.
* `Entry.ordered_exactly_on_half_circles`: all of it together.
-/

namespace StableQueue

namespace Serial

variable {a b base : UInt64} {numbers : Finset UInt64}

/-- The numbers lie on half of the circle, after one of them. -/
def OnHalfCircle (numbers : Finset UInt64) : Prop :=
  ∃ base ∈ numbers, ∀ number ∈ numbers, distance base number < 2 ^ 63

/-- Two different numbers are once around the circle apart, there and back. -/
theorem distance_add_distance (h : a ≠ b) : distance a b + distance b a = 2 ^ 64 := by
  have ha := a.toNat_lt
  have hb := b.toNat_lt
  have hne : a.toNat ≠ b.toNat := fun heq => h (UInt64.toNat_inj.mp heq)
  simp only [distance, UInt64.toNat_sub]
  omega

/-- A number comes before another one if it lies in the second half of the circle after it. -/
theorem before_iff_distance : before a b = true ↔ 2 ^ 63 ≤ distance b a := before_iff

/-- **Two numbers are compared in one way only**, unless they are equal or opposite each other. -/
theorem xor_before (hne : a ≠ b) (hopposite : distance a b ≠ 2 ^ 63) :
    Xor (before a b = true) (before b a = true) := by
  have haround := distance_add_distance hne
  rw [before_iff_distance, before_iff_distance, xor_iff_iff_not]
  omega

/-- Two numbers opposite each other come before each other. -/
theorem before_of_opposite (hopposite : distance a b = 2 ^ 63) :
    before a b = true ∧ before b a = true := by
  have hne : a ≠ b := by
    rintro rfl
    simp [distance] at hopposite
  have haround := distance_add_distance hne
  rw [before_iff_distance, before_iff_distance]
  omega

/-- A base comes before all other numbers in the half circle after it. -/
theorem before_of_base (hne : a ≠ base) (hbase : distance base a < 2 ^ 63) :
    before base a = true := by
  have haround := distance_add_distance hne
  rw [before_iff_distance]
  omega

/-- **What is transitive fits in half of the circle.** The relation is irreflexive, so a number
comes first, in the sense that none comes before it. The others are in the half circle after it. -/
theorem onHalfCircle_of_transitive (hnonempty : numbers.Nonempty)
    (htrans : ∀ a ∈ numbers, ∀ b ∈ numbers, ∀ c ∈ numbers,
      before a b = true → before b c = true → before a c = true) : OnHalfCircle numbers := by
  let Earlier (a b : numbers) : Prop := before a b = true
  have : IsTrans numbers Earlier := ⟨fun a b c => htrans a a.2 b b.2 c c.2⟩
  have : Std.Irrefl Earlier := ⟨fun a => by simp [Earlier]⟩
  have hwf := Finite.wellFounded_of_trans_of_irrefl Earlier
  obtain ⟨some, hsome⟩ := hnonempty
  obtain ⟨first, -, hfirst⟩ := hwf.has_min Set.univ ⟨⟨some, hsome⟩, Set.mem_univ _⟩
  refine ⟨first, first.2, fun number hnumber => ?_⟩
  have hnot : ¬ before number first = true := hfirst ⟨number, hnumber⟩ (Set.mem_univ _)
  rwa [before_iff_distance, not_le] at hnot

/-- **Numbers in the half circle after a base are in strict total order**, the order of their
distances from the base. -/
theorem isStrictTotalOrder_of_base (hbase : ∀ number ∈ numbers, distance base number < 2 ^ 63) :
    IsStrictTotalOrder numbers (fun a b => before a b = true) := by
  have hbefore (a b : numbers) :
      before a b = true ↔ distance base a < distance base b :=
    before_iff_of_base (hbase a a.2) (hbase b b.2)
  refine { irrefl := fun a => by simp, trichotomous := fun a b => ?_, trans := fun a b c => ?_ }
  · rw [hbefore, hbefore, not_lt, not_lt]
    intro hle hge
    exact Subtype.ext (distance_inj.mp (le_antisymm hge hle))
  · rw [hbefore, hbefore, hbefore]
    exact lt_trans

/-- A finite set of numbers is ordered exactly if it fits in half of the circle. -/
theorem isStrictTotalOrder_iff (hnonempty : numbers.Nonempty) :
    IsStrictTotalOrder numbers (fun a b => before a b = true) ↔ OnHalfCircle numbers := by
  constructor
  · intro horder
    exact onHalfCircle_of_transitive hnonempty fun a ha b hb c hc =>
      horder.trans ⟨a, ha⟩ ⟨b, hb⟩ ⟨c, hc⟩
  · rintro ⟨base, -, hbase⟩
    exact isStrictTotalOrder_of_base hbase

end Serial

namespace Entry

variable {entries : Finset Entry} {priority : Int}

/-- The numbers of the entries of one priority. -/
def numbersAt (entries : Finset Entry) (priority : Int) : Finset UInt64 :=
  (entries.filter fun entry => entry.priority = priority).image Entry.sequence

/-- The numbers of one priority are those of its entries. -/
theorem mem_numbersAt {number : UInt64} : number ∈ numbersAt entries priority ↔
    ∃ entry ∈ entries, entry.priority = priority ∧ entry.sequence = number := by
  simp [numbersAt, and_assoc]

/-- Entries of one priority are compared by their numbers. -/
theorem outranks_of_priority_eq {x y : Entry} (h : x.priority = y.priority) :
    x.outranks y = Serial.before x.sequence y.sequence := by
  rw [outranks, if_pos h]

/-- Entries are coherent if the numbers of each priority among them fit in half of the circle. -/
theorem coherent_of_onHalfCircle (h : ∀ priority ∈ entries.image Entry.priority,
    Serial.OnHalfCircle (numbersAt entries priority)) : Coherent entries.toList := by
  choose! base hbase using h
  refine ⟨base, fun entry hentry => ?_⟩
  rw [Finset.mem_toList] at hentry
  exact (hbase entry.priority (Finset.mem_image_of_mem _ hentry)).2 entry.sequence
    (mem_numbersAt.mpr ⟨entry, hentry, rfl, rfl⟩)

/-- **Coherent entries are in strict weak order**, the order of their ranks. -/
theorem isStrictWeakOrder_of_coherent (h : Coherent entries.toList) :
    IsStrictWeakOrder entries (fun x y => x.1.outranks y = true) := by
  obtain ⟨base, hbase⟩ := h
  have hrank (x y : entries) : x.1.outranks y = true ↔ x.1.rank base < y.1.rank base :=
    outranks_iff_rank_lt (hbase x (Finset.mem_toList.mpr x.2)) (hbase y (Finset.mem_toList.mpr y.2))
  refine { irrefl := fun x => by simp, trans := fun x y z => ?_, incomp_trans := fun x y z => ?_ }
  · rw [hrank, hrank, hrank]
    exact lt_trans
  · simp only [hrank, not_lt]
    rintro ⟨hyx, hxy⟩ ⟨hzy, hyz⟩
    exact ⟨hzy.trans hyx, hxy.trans hyz⟩

/-- Entries in strict weak order have the numbers of each priority on half of the circle. -/
theorem onHalfCircle_of_isStrictWeakOrder
    (h : IsStrictWeakOrder entries (fun x y => x.1.outranks y = true))
    (hpriority : priority ∈ entries.image Entry.priority) :
    Serial.OnHalfCircle (numbersAt entries priority) := by
  obtain ⟨entry, hentry, hat⟩ := Finset.mem_image.mp hpriority
  refine Serial.onHalfCircle_of_transitive ⟨_, mem_numbersAt.mpr ⟨entry, hentry, hat, rfl⟩⟩ ?_
  intro a ha b hb c hc
  obtain ⟨x, hx, hxp, rfl⟩ := mem_numbersAt.mp ha
  obtain ⟨y, hy, hyp, rfl⟩ := mem_numbersAt.mp hb
  obtain ⟨z, hz, hzp, rfl⟩ := mem_numbersAt.mp hc
  rw [← outranks_of_priority_eq (hxp.trans hyp.symm),
    ← outranks_of_priority_eq (hyp.trans hzp.symm),
    ← outranks_of_priority_eq (hxp.trans hzp.symm)]
  exact h.trans ⟨x, hx⟩ ⟨y, hy⟩ ⟨z, hz⟩

/-- **Half circles are exactly where the order is an order.**

* A set of numbers, not empty, is in strict total order exactly if it fits in half of the circle.
  The base is then the first number, and a number comes before another one if it is closer to the
  base.
* No number comes before itself. Two different numbers come before each other in one way only,
  unless they are opposite each other, and then they do so in both.
* A set of entries is in strict weak order exactly if the numbers of each priority that occurs fit
  in half of the circle. -/
theorem ordered_exactly_on_half_circles :
    (∀ numbers : Finset UInt64, numbers.Nonempty →
      (IsStrictTotalOrder numbers (fun a b => Serial.before a b = true) ↔
        Serial.OnHalfCircle numbers) ∧
      ∀ base ∈ numbers, (∀ number ∈ numbers, Serial.distance base number < 2 ^ 63) →
        (∀ number ∈ numbers, number ≠ base → Serial.before base number = true) ∧
        ∀ a ∈ numbers, ∀ b ∈ numbers,
          Serial.before a b = true ↔ Serial.distance base a < Serial.distance base b) ∧
    (∀ a, Serial.before a a = false) ∧
    (∀ a b, a ≠ b → Serial.distance a b ≠ 2 ^ 63 →
      Xor (Serial.before a b = true) (Serial.before b a = true)) ∧
    (∀ a b, Serial.distance a b = 2 ^ 63 →
      Serial.before a b = true ∧ Serial.before b a = true) ∧
    ∀ entries : Finset Entry,
      IsStrictWeakOrder entries (fun x y => x.1.outranks y = true) ↔
        ∀ priority ∈ entries.image Entry.priority,
          Serial.OnHalfCircle (numbersAt entries priority) := by
  refine ⟨fun numbers hnonempty => ⟨Serial.isStrictTotalOrder_iff hnonempty, ?_⟩,
    Serial.before_self, fun a b => Serial.xor_before, fun a b => Serial.before_of_opposite,
    fun entries => ⟨fun horder priority => onHalfCircle_of_isStrictWeakOrder horder,
      fun hhalf => isStrictWeakOrder_of_coherent (coherent_of_onHalfCircle hhalf)⟩⟩
  intro base _ hbase
  exact ⟨fun number hnumber hne => Serial.before_of_base hne (hbase number hnumber),
    fun a ha b hb => Serial.before_iff_of_base (hbase a ha) (hbase b hb)⟩

/-- The last number before the counter wraps, and the two after it. -/
def sampleWrapped : Finset UInt64 := {0xffffffffffffffff, 0, 1}

/-- Three numbers spread over the circle. Each comes before the next one, and the last one before
the first one. -/
def sampleSpread : Finset UInt64 := {0, 0x5555555555555556, 0xaaaaaaaaaaaaaaab}

/-- The numbers around the wrap are ordered, starting before it; those spread over the circle are
not. -/
theorem ordered_exactly_on_half_circles_samples :
    IsStrictTotalOrder sampleWrapped (fun a b => Serial.before a b = true) ∧
      Serial.before 0xffffffffffffffff 1 = true ∧
      ¬ IsStrictTotalOrder sampleSpread (fun a b => Serial.before a b = true) := by
  obtain ⟨hnumbers, -⟩ := ordered_exactly_on_half_circles
  obtain ⟨hwrapped, hfrom⟩ := hnumbers sampleWrapped ⟨0, by decide +kernel⟩
  obtain ⟨hspread, -⟩ := hnumbers sampleSpread ⟨0, by decide +kernel⟩
  have hbase : ∀ number ∈ sampleWrapped, Serial.distance 0xffffffffffffffff number < 2 ^ 63 := by
    simp only [sampleWrapped, Finset.forall_mem_insert, Finset.mem_singleton, forall_eq]
    decide +kernel
  have hnone : ¬ Serial.OnHalfCircle sampleSpread := by
    rintro ⟨base, hmem, hhalf⟩
    -- from each of the three, the one before it is too far
    rw [sampleSpread, Finset.mem_insert, Finset.mem_insert, Finset.mem_singleton] at hmem
    rcases hmem with rfl | rfl | rfl
    · exact absurd (hhalf 0xaaaaaaaaaaaaaaab (by decide +kernel)) (by decide +kernel)
    · exact absurd (hhalf 0 (by decide +kernel)) (by decide +kernel)
    · exact absurd (hhalf 0x5555555555555556 (by decide +kernel)) (by decide +kernel)
  refine ⟨hwrapped.mpr ⟨_, by decide +kernel, hbase⟩, ?_, fun horder => hnone (hspread.mp horder)⟩
  exact (hfrom _ (by decide +kernel) hbase).1 1 (by decide +kernel) (by decide +kernel)

end Entry

end StableQueue
