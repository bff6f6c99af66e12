/-!
# Serial Numbers

Messages are numbered on arrival by a 64-bit counter that may wrap. Two numbers are compared on
the circle of `2 ^ 64` values: `a` comes before `b` when the way down from `a` to `b`, taken
modulo `2 ^ 64`, covers at least half of the circle.

Numbers that span less than half of the circle are thereby ordered as they were issued. Two
numbers exactly `2 ^ 63` apart each come before the other, so the relation is an order only on
sets that fit in half of the circle.
-/

namespace StableQueue.Serial

/-- Half of the circle of serial numbers. -/
def halfCircle : UInt64 := 0x8000000000000000

/-- The number `a` was issued before `b`. -/
def before (a b : UInt64) : Bool := halfCircle ≤ a - b

/-- No number comes before itself. -/
@[simp] theorem before_self (a : UInt64) : before a a = false := by
  simp [before, halfCircle]

end StableQueue.Serial
