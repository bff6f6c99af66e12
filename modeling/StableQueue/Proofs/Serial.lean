import Mathlib
import StableQueue.Serial

/-!
# Serial Numbers on Half of the Circle

`Serial.before` compares the numbers of messages by the way between them on the circle, so it is
not an order on all of them. On numbers that lie within half of the circle after some base it is:
there, the number closer to the base comes first.

## Main results

* `Serial.before_iff_of_base`: above a common base, `before` compares the distances from it.
* `Serial.before_iff_of_lt`: below `2 ^ 63`, `before` is the usual order.
-/

namespace StableQueue.Serial

/-- A number comes before another exactly if their difference on the circle is at least half of
it. -/
theorem before_iff {a b : UInt64} : before a b = true ↔ 2 ^ 63 ≤ (a - b).toNat := by
  simp [before, halfCircle, UInt64.le_iff_toNat_le]

/-- How far a number lies after a base, going up on the circle. -/
def distance (base number : UInt64) : Nat := (number - base).toNat

/-- From zero, a number is as far as its value. -/
@[simp] theorem distance_zero (number : UInt64) : distance 0 number = number.toNat := by
  simp [distance]

/-- Different numbers are differently far. -/
theorem distance_inj {base a b : UInt64} : distance base a = distance base b ↔ a = b := by
  rw [distance, distance, UInt64.toNat_inj, sub_left_inj]

/-- **Half of the circle is ordered.** Of two numbers less than `2 ^ 63` after a common base, the
one closer to the base comes before the other. -/
theorem before_iff_of_base {base a b : UInt64} (ha : distance base a < 2 ^ 63)
    (hb : distance base b < 2 ^ 63) :
    before a b = true ↔ distance base a < distance base b := by
  have hbase := base.toNat_lt
  have ha' := a.toNat_lt
  have hb' := b.toNat_lt
  rw [before_iff]
  simp only [distance, UInt64.toNat_sub] at ha hb ⊢
  omega

/-- Below `2 ^ 63`, numbers are compared by their values. -/
theorem before_iff_of_lt {a b : UInt64} (ha : a.toNat < 2 ^ 63) (hb : b.toNat < 2 ^ 63) :
    before a b = true ↔ a.toNat < b.toNat := by
  have h0 : distance 0 a < 2 ^ 63 := by simpa using ha
  have h1 : distance 0 b < 2 ^ 63 := by simpa using hb
  rw [before_iff_of_base h0 h1, distance_zero, distance_zero]

end StableQueue.Serial
