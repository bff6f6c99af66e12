/-!
# Reading Bytes as Text

A name that comes from outside is a sequence of bytes which should be UTF-8 but may be anything.
`decodeLossy` reads it so that every byte counts: well-formed sequences become their characters,
and each longest run of bytes that starts a well-formed sequence but is not continued, or failing
that a single byte, becomes the replacement character U+FFFD.

The first byte of a sequence fixes how many bytes follow and which values the second byte may
have; every later byte is between `0x80` and `0xBF`.
-/

namespace StableQueue.Text.Utf8

/-- The character that stands for bytes which are not text. -/
def replacement : Char := '\uFFFD'

/-- What the first byte of a sequence says about the bytes after it. -/
structure Lead where
  /-- The number of bytes that follow. -/
  trailing : Nat
  /-- The least value of the second byte. -/
  low : UInt8
  /-- The greatest value of the second byte. -/
  high : UInt8
  /-- The bits that the first byte adds to the code point. -/
  bits : Nat
  deriving DecidableEq, Repr

/-- Classify the first byte of a sequence; some bytes start none. -/
def lead? (b : UInt8) : Option Lead :=
  if b < 0x80 then some ⟨0, 0x80, 0xBF, b.toNat⟩
  else if b < 0xC2 then none
  else if b < 0xE0 then some ⟨1, 0x80, 0xBF, b.toNat % 0x20⟩
  else if b = 0xE0 then some ⟨2, 0xA0, 0xBF, b.toNat % 0x10⟩
  else if b = 0xED then some ⟨2, 0x80, 0x9F, b.toNat % 0x10⟩
  else if b < 0xF0 then some ⟨2, 0x80, 0xBF, b.toNat % 0x10⟩
  else if b = 0xF0 then some ⟨3, 0x90, 0xBF, b.toNat % 0x08⟩
  else if b < 0xF4 then some ⟨3, 0x80, 0xBF, b.toNat % 0x08⟩
  else if b = 0xF4 then some ⟨3, 0x80, 0x8F, b.toNat % 0x08⟩
  else none

/-- Read on inside a sequence of which `trailing` bytes are missing. The next byte must lie between
`low` and `high`, `value` is the code point read so far. The answer is the character, or nothing if
the sequence breaks off, and the bytes that have not been read. -/
def continue? : Nat → UInt8 → UInt8 → Nat → List UInt8 → Option Char × List UInt8
  | 0, _, _, value, rest => (some (Char.ofNat value), rest)
  | _ + 1, _, _, _, [] => (none, [])
  | trailing + 1, low, high, value, b :: rest =>
    if low ≤ b ∧ b ≤ high then
      continue? trailing 0x80 0xBF (value * 0x40 + b.toNat % 0x40) rest
    else (none, b :: rest)

/-- Reading on never gives bytes back. -/
theorem length_continue?_le (trailing : Nat) (low high : UInt8) (value : Nat)
    (bytes : List UInt8) :
    (continue? trailing low high value bytes).2.length ≤ bytes.length := by
  fun_induction continue? trailing low high value bytes <;> simp_all
  omega

/-- Read the first character, or the replacement for what stands in its place. -/
def next (b : UInt8) (rest : List UInt8) : Char × List UInt8 :=
  match lead? b with
  | none => (replacement, rest)
  | some lead =>
    let (character, rest) := continue? lead.trailing lead.low lead.high lead.bits rest
    (character.getD replacement, rest)

/-- Every step reads at least the first byte. -/
theorem length_next_le (b : UInt8) (rest : List UInt8) :
    (next b rest).2.length ≤ rest.length := by
  rw [next]
  split
  · exact Nat.le_refl _
  · exact length_continue?_le ..

/-- Read bytes as text, putting the replacement character in place of what is not UTF-8. -/
def decodeLossy : List UInt8 → List Char
  | [] => []
  | b :: rest =>
    have := length_next_le b rest
    (next b rest).1 :: decodeLossy (next b rest).2
termination_by bytes => bytes.length

/-- No bytes are no text. -/
@[simp] theorem decodeLossy_nil : decodeLossy [] = [] := by
  rw [decodeLossy]

/-- Bytes are read character by character. -/
theorem decodeLossy_cons (b : UInt8) (rest : List UInt8) :
    decodeLossy (b :: rest) = (next b rest).1 :: decodeLossy (next b rest).2 := by
  rw [decodeLossy]

end StableQueue.Text.Utf8
