import Mathlib
import StableQueue.SlotPool

/-!
# Overwriting Bytes

Payloads go into the arena, and out of it into a buffer, by overwriting a range of a byte array.
The range afterwards holds what was written, and every range apart from it holds what it held.

## Main results

* `size_overwrite`: overwriting within the array keeps its size.
* `extract_overwrite_self`, `extract_overwrite_apart`: what a range holds afterwards.
-/

namespace StableQueue

/-- Overwrite the bytes from `start` on. -/
def overwrite (target : ByteArray) (start : Nat) (bytes : ByteArray) : ByteArray :=
  bytes.copySlice 0 target start bytes.size

variable {target bytes : ByteArray} {start : Nat}

/-- An overwritten array consists of what stands before the range, of the new bytes, and of what
stands behind it. -/
theorem overwrite_eq_append : overwrite target start bytes =
    target.extract 0 start ++ bytes ++ target.extract (start + bytes.size) target.size := by
  simp [overwrite, ByteArray.copySlice_eq_append]

/-- Overwriting the front of an array keeps what stands behind. -/
theorem overwrite_zero : overwrite target 0 bytes =
    bytes ++ target.extract bytes.size target.size := by
  simp [overwrite_eq_append]

/-- Overwriting within an array keeps its size. -/
theorem size_overwrite (h : start + bytes.size ≤ target.size) :
    (overwrite target start bytes).size = target.size := by
  simp [overwrite_eq_append]
  omega

/-- The byte at some position after overwriting. -/
theorem getElem_overwrite (h : start + bytes.size ≤ target.size) {i : Nat}
    (hi : i < (overwrite target start bytes).size) (hi' : i < target.size) :
    (overwrite target start bytes)[i] =
      if hin : start ≤ i ∧ i < start + bytes.size then bytes[i - start] else target[i] := by
  have hfront : (target.extract 0 start).size = start := by
    simp
    omega
  by_cases hlow : i < start
  · rw [dif_neg (by omega)]
    simp only [overwrite_eq_append]
    rw [ByteArray.getElem_append_left (by simp; omega),
      ByteArray.getElem_append_left (by omega), ByteArray.getElem_extract]
    simp
  · by_cases hhigh : i < start + bytes.size
    · rw [dif_pos ⟨by omega, hhigh⟩]
      simp only [overwrite_eq_append]
      rw [ByteArray.getElem_append_left (by simp; omega),
        ByteArray.getElem_append_right (by rw [hfront]; omega)]
      simp [hfront]
    · rw [dif_neg (by omega)]
      simp only [overwrite_eq_append]
      rw [ByteArray.getElem_append_right (by simp; omega), ByteArray.getElem_extract]
      congr 1
      simp [hfront]
      omega

/-- The range that was overwritten holds the new bytes. -/
theorem extract_overwrite_self (h : start + bytes.size ≤ target.size) :
    (overwrite target start bytes).extract start (start + bytes.size) = bytes := by
  have hsize := size_overwrite h
  apply ByteArray.ext_getElem
  · simp [hsize]
    omega
  · intro i hi hi'
    rw [ByteArray.getElem_extract, getElem_overwrite h _ (by omega), dif_pos ⟨by omega, by omega⟩]
    simp

/-- A range apart from the one overwritten holds what it held. -/
theorem extract_overwrite_apart (h : start + bytes.size ≤ target.size) {first last : Nat}
    (hapart : last ≤ start ∨ start + bytes.size ≤ first) :
    (overwrite target start bytes).extract first last = target.extract first last := by
  have hsize := size_overwrite h
  apply ByteArray.ext_getElem
  · simp [hsize]
  · intro i hi hi'
    simp only [ByteArray.size_extract, hsize] at hi
    rw [ByteArray.getElem_extract, ByteArray.getElem_extract,
      getElem_overwrite h _ (by omega), dif_neg (by omega)]

end StableQueue
