/-!
# Sets of Code Points

A property of characters is kept as the list of the ranges of code points that have it, in
ascending order.
-/

namespace StableQueue.Text

/-- Ranges of code points, each given by its first and its last member. -/
abbrev CodePoints := List (Nat × Nat)

/-- The character lies in one of the ranges. -/
def CodePoints.has (ranges : CodePoints) (c : Char) : Bool :=
  ranges.any fun range => range.1 ≤ c.toNat && c.toNat ≤ range.2

end StableQueue.Text
