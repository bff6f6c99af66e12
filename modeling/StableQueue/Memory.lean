/-!
# Limits of the Machine

Sizes, slot numbers and lengths are natural numbers. They describe the memory of a 64-bit
machine, which sets two limits: a size must be below `addressSpace`, and one allocation may have
at most `maxAllocation` bytes. What lies in memory is compared byte by byte.
-/

namespace StableQueue.Memory

/-- The number of sizes that fit into a machine word. -/
def addressSpace : Nat := 0x10000000000000000

/-- The largest allocation, in bytes. -/
def maxAllocation : Nat := 0x7fffffffffffffff

/-- An allocation of `count` items of `itemSize` bytes is within the limit. -/
def allocatable (count itemSize : Nat) : Bool :=
  count * itemSize ≤ maxAllocation

instance (priority := high) decidableEqByteArray : DecidableEq ByteArray := ByteArray.decEq

end StableQueue.Memory
