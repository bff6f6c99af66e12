import Mathlib
import StableQueue.Foreign

/-!
# Well-Formed Text Comes Back

`Text.Utf8.decodeLossy` makes a text of any bytes. This file says which text: the bytes of a text
are read as that text, and a text that is read without the replacement character has the bytes that
were read. So the replacement stands for bytes that are not UTF-8, and for nothing else but itself.

Both directions go character by character. `Leads` says once what the first byte of a character
tells of the others; it has a case for each number of bytes.

## Main results

* `decodeLossy_encode`: the bytes of a text are read as that text.
* `encode_decodeLossy`: bytes that are read without a replacement are those of the text read.
* `Foreign.nameOf_toUTF8_append`: a foreign caller gives a queue the name that it writes.
-/

namespace StableQueue.Text.Utf8

/-- The bytes of a text. -/
def encode (text : List Char) : List UInt8 := text.flatMap String.utf8EncodeChar

variable {b : UInt8} {lead : Lead} {low high : UInt8} {trailing value n m k l : Nat} {c : Char}
  {bytes rest : List UInt8}

/-! ### First bytes -/

/-- A byte that starts a character, and what it tells of the others. The bounds of the second byte
leave out the characters that have a shorter form, surrogates, and what lies beyond the last
character. -/
inductive Leads : UInt8 → Lead → Prop
  /-- The character has no other byte. -/
  | one {n : Nat} (hn : n < 0x80) : Leads (.ofNat n) ⟨0, 0x80, 0xBF, n⟩
  /-- One byte follows. -/
  | two {n : Nat} (hlow : 2 ≤ n) (hn : n < 0x20) : Leads (.ofNat (n + 0xC0)) ⟨1, 0x80, 0xBF, n⟩
  /-- Two bytes follow. -/
  | three {n : Nat} (hn : n < 0x10) : Leads (.ofNat (n + 0xE0))
      ⟨2, if n = 0 then 0xA0 else 0x80, if n = 0xD then 0x9F else 0xBF, n⟩
  /-- Three bytes follow. -/
  | four {n : Nat} (hn : n < 5) : Leads (.ofNat (n + 0xF0))
      ⟨3, if n = 0 then 0x90 else 0x80, if n = 4 then 0x8F else 0xBF, n⟩

/-- A byte that starts a character is recognized. -/
theorem Leads.lead?_eq (h : Leads b lead) : lead? b = some lead := by
  cases h with
  | one hn =>
      have hall : ∀ n < 0x80, lead? (.ofNat n) = some ⟨0, 0x80, 0xBF, n⟩ := by decide
      exact hall _ hn
  | two hlow hn =>
      have hall : ∀ n < 0x20, 2 ≤ n → lead? (.ofNat (n + 0xC0)) = some ⟨1, 0x80, 0xBF, n⟩ := by
        decide
      exact hall _ hn hlow
  | three hn =>
      have hall : ∀ n < 0x10, lead? (.ofNat (n + 0xE0)) =
          some ⟨2, if n = 0 then 0xA0 else 0x80, if n = 0xD then 0x9F else 0xBF, n⟩ := by decide
      exact hall _ hn
  | four hn =>
      have hall : ∀ n < 5, lead? (.ofNat (n + 0xF0)) =
          some ⟨3, if n = 0 then 0x90 else 0x80, if n = 4 then 0x8F else 0xBF, n⟩ := by decide
      exact hall _ hn

/-- A byte starts a character, or is not recognized. -/
theorem exists_leads_or_eq_none (b : UInt8) : (∃ lead, Leads b lead) ∨ lead? b = none := by
  obtain ⟨n, hn, rfl⟩ : ∃ n < 0x100, b = .ofNat n :=
    ⟨b.toNat, b.toNat_lt, UInt8.ofNat_toNat.symm⟩
  by_cases hone : n < 0x80
  · exact .inl ⟨_, .one hone⟩
  by_cases hgap : n < 0xC2
  · have hnone : ∀ m < 0x42, lead? (.ofNat (m + 0x80)) = none := by decide
    obtain ⟨m, rfl⟩ : ∃ m, n = m + 0x80 := ⟨n - 0x80, by omega⟩
    exact .inr (hnone m (by omega))
  by_cases htwo : n < 0xE0
  · obtain ⟨m, rfl⟩ : ∃ m, n = m + 0xC0 := ⟨n - 0xC0, by omega⟩
    exact .inl ⟨_, .two (by omega) (by omega)⟩
  by_cases hthree : n < 0xF0
  · obtain ⟨m, rfl⟩ : ∃ m, n = m + 0xE0 := ⟨n - 0xE0, by omega⟩
    exact .inl ⟨_, .three (by omega)⟩
  by_cases hfour : n < 0xF5
  · obtain ⟨m, rfl⟩ : ∃ m, n = m + 0xF0 := ⟨n - 0xF0, by omega⟩
    exact .inl ⟨_, .four (by omega)⟩
  · have hnone : ∀ m < 0xB, lead? (.ofNat (m + 0xF5)) = none := by decide
    obtain ⟨m, rfl⟩ : ∃ m, n = m + 0xF5 := ⟨n - 0xF5, by omega⟩
    exact .inr (hnone m (by omega))

/-- **The bytes that are recognized are those that start a character.** -/
theorem lead?_eq_some_iff : lead? b = some lead ↔ Leads b lead := by
  refine ⟨fun h => ?_, Leads.lead?_eq⟩
  obtain ⟨other, hother⟩ | hnone := exists_leads_or_eq_none b
  · obtain rfl := Option.some.inj (hother.lead?_eq.symm.trans h)
    exact hother
  · rw [hnone] at h
    contradiction

/-! ### The other bytes -/

/-- A byte within the bounds is read on. -/
theorem continue?_ofNat (hn : n < 0x40) (hlow : low.toNat ≤ n + 0x80)
    (hhigh : n + 0x80 ≤ high.toNat) :
    continue? (trailing + 1) low high value (.ofNat (n + 0x80) :: rest) =
      continue? trailing 0x80 0xBF (value * 0x40 + n) rest := by
  have hbyte : (UInt8.ofNat (n + 0x80)).toNat = n + 0x80 := by
    rw [UInt8.toNat_ofNat', Nat.mod_eq_of_lt (by omega)]
  rw [continue?, if_pos, hbyte]
  · congr 2
    omega
  · rw [UInt8.le_iff_toNat_le, UInt8.le_iff_toNat_le, hbyte]
    exact ⟨hlow, hhigh⟩

/-- A sequence that does not break off goes on with a byte within the bounds. -/
theorem exists_of_continue?_eq_some (hlow : 0x80 ≤ low.toNat) (hhigh : high.toNat ≤ 0xBF)
    (h : continue? (trailing + 1) low high value bytes = (some c, rest)) :
    ∃ n tail, bytes = .ofNat (n + 0x80) :: tail ∧ n < 0x40 ∧ low.toNat ≤ n + 0x80 ∧
      n + 0x80 ≤ high.toNat ∧
      continue? trailing 0x80 0xBF (value * 0x40 + n) tail = (some c, rest) := by
  cases bytes with
  | nil => simp [continue?] at h
  | cons b tail =>
      have hbounds : low ≤ b ∧ b ≤ high := by
        by_contra hbad
        rw [continue?, if_neg hbad] at h
        simp at h
      rw [UInt8.le_iff_toNat_le, UInt8.le_iff_toNat_le] at hbounds
      have hb : b = .ofNat (b.toNat - 0x80 + 0x80) := by
        rw [Nat.sub_add_cancel (by omega), UInt8.ofNat_toNat]
      refine ⟨b.toNat - 0x80, tail, by rw [← hb], by omega, by omega, by omega, ?_⟩
      rw [hb, continue?_ofNat (by omega) (by omega) (by omega)] at h
      exact h

/-! ### Characters -/

/-- After the last byte the character is known. -/
theorem continue?_zero (hvalue : value = c.toNat) :
    continue? 0 low high value rest = (some c, rest) := by
  rw [continue?, hvalue, Char.ofNat_toNat]

/-- After a first byte the others decide. -/
theorem next_of_leads (h : Leads b lead)
    (hcontinue : continue? lead.trailing lead.low lead.high lead.bits bytes = (some c, rest)) :
    next b bytes = (c, rest) := by
  rw [next, h.lead?_eq]
  simp only [hcontinue, Option.getD_some]

/-- **A character comes back**, and what stands behind it is left. -/
theorem next_utf8EncodeChar (c : Char) (rest : List UInt8) :
    ∃ b tail, String.utf8EncodeChar c = b :: tail ∧ next b (tail ++ rest) = (c, rest) := by
  have hvalid : c.toNat.isValidChar := c.valid
  have hdigit : ∀ m : Nat, m % 0x40 < 0x40 := fun m => Nat.mod_lt _ (by decide)
  fun_cases String.utf8EncodeChar c with
  | case1 v hone =>
      refine ⟨_, _, rfl, next_of_leads (.one (Nat.lt_succ_of_le hone)) ?_⟩
      exact continue?_zero rfl
  | case2 v hone htwo =>
      have hv : v = c.toNat := rfl
      refine ⟨_, _, rfl, next_of_leads (.two (by omega) (Nat.mod_lt _ (by decide))) ?_⟩
      simp only [List.cons_append, List.nil_append]
      rw [continue?_ofNat (hdigit _) (by simp) (by simp; omega)]
      exact continue?_zero (by omega)
  | case3 v hone htwo hthree =>
      -- the second byte is within its bounds: two bytes do not suffice, and `c` is no surrogate
      have hv : v = c.toNat := rfl
      refine ⟨_, _, rfl, next_of_leads (.three (Nat.mod_lt _ (by decide))) ?_⟩
      simp only [List.cons_append, List.nil_append]
      rw [continue?_ofNat (hdigit _) (by split <;> simp; omega) (by split <;> simp <;> omega),
        continue?_ofNat (hdigit _) (by simp) (by simp; omega)]
      exact continue?_zero (by omega)
  | case4 v hone htwo hthree =>
      -- as before: three bytes do not suffice, and there are no characters beyond the last one
      have hv : v = c.toNat := rfl
      refine ⟨_, _, rfl, next_of_leads (.four (by omega)) ?_⟩
      simp only [List.cons_append, List.nil_append]
      rw [continue?_ofNat (hdigit _) (by split <;> simp; omega) (by split <;> simp <;> omega),
        continue?_ofNat (hdigit _) (by simp) (by simp; omega),
        continue?_ofNat (hdigit _) (by simp) (by simp; omega)]
      exact continue?_zero (by omega)

/-- The characters are the numbers up to the last of them that are no surrogates. -/
theorem exists_toNat_eq (hvalue : value.isValidChar) : ∃ c : Char, c.toNat = value :=
  ⟨.ofNat value, by rw [Char.toNat_ofNat, if_pos hvalue]⟩

/-- The byte of a character that needs one. -/
theorem utf8EncodeChar_of_one (hc : c.toNat = n) (hn : n < 0x80) :
    String.utf8EncodeChar c = [.ofNat n] := by
  rw [String.utf8EncodeChar]
  simp only [Char.toNat_val, hc]
  rw [if_pos (by omega)]

/-- The bytes of a character that needs two. -/
theorem utf8EncodeChar_of_two (hc : c.toNat = n * 0x40 + m) (hlow : 2 ≤ n) (hn : n < 0x20)
    (hm : m < 0x40) :
    String.utf8EncodeChar c = [.ofNat (n + 0xC0), .ofNat (m + 0x80)] := by
  have hfirst : (n * 0x40 + m) / 0x40 % 0x20 = n := by omega
  have hsecond : (n * 0x40 + m) % 0x40 = m := by omega
  rw [String.utf8EncodeChar]
  simp only [Char.toNat_val, hc]
  rw [if_neg (by omega), if_pos (by omega), hfirst, hsecond]

/-- The bytes of a character that needs three. -/
theorem utf8EncodeChar_of_three (hc : c.toNat = n * 0x1000 + m * 0x40 + k)
    (hlow : n = 0 → 0x20 ≤ m) (hn : n < 0x10) (hm : m < 0x40) (hk : k < 0x40) :
    String.utf8EncodeChar c = [.ofNat (n + 0xE0), .ofNat (m + 0x80), .ofNat (k + 0x80)] := by
  have hfirst : (n * 0x1000 + m * 0x40 + k) / 0x1000 % 0x10 = n := by omega
  have hsecond : (n * 0x1000 + m * 0x40 + k) / 0x40 % 0x40 = m := by omega
  have hthird : (n * 0x1000 + m * 0x40 + k) % 0x40 = k := by omega
  rw [String.utf8EncodeChar]
  simp only [Char.toNat_val, hc]
  rw [if_neg (by omega), if_neg (by omega), if_pos (by omega), hfirst, hsecond, hthird]

/-- The bytes of a character that needs four. -/
theorem utf8EncodeChar_of_four (hc : c.toNat = n * 0x40000 + m * 0x1000 + k * 0x40 + l)
    (hlow : n = 0 → 0x10 ≤ m) (hn : n < 0x8) (hm : m < 0x40) (hk : k < 0x40) (hl : l < 0x40) :
    String.utf8EncodeChar c =
      [.ofNat (n + 0xF0), .ofNat (m + 0x80), .ofNat (k + 0x80), .ofNat (l + 0x80)] := by
  have hfirst : (n * 0x40000 + m * 0x1000 + k * 0x40 + l) / 0x40000 % 0x8 = n := by omega
  have hsecond : (n * 0x40000 + m * 0x1000 + k * 0x40 + l) / 0x1000 % 0x40 = m := by omega
  have hthird : (n * 0x40000 + m * 0x1000 + k * 0x40 + l) / 0x40 % 0x40 = k := by omega
  have hfourth : (n * 0x40000 + m * 0x1000 + k * 0x40 + l) % 0x40 = l := by omega
  rw [String.utf8EncodeChar]
  simp only [Char.toNat_val, hc]
  rw [if_neg (by omega), if_neg (by omega), if_neg (by omega), hfirst, hsecond, hthird, hfourth]

/-- A first byte and two bytes within its bounds are a character. -/
theorem exists_char_of_three (hn : n < 0x10)
    (hcontinue : continue? 2 (if n = 0 then 0xA0 else 0x80) (if n = 0xD then 0x9F else 0xBF) n
      bytes = (some c, rest)) :
    ∃ c rest, .ofNat (n + 0xE0) :: bytes = String.utf8EncodeChar c ++ rest := by
  obtain ⟨m, tail, rfl, hm, hlow, hhigh, hcontinue⟩ :=
    exists_of_continue?_eq_some (by split <;> decide) (by split <;> decide) hcontinue
  obtain ⟨k, tail, rfl, hk, -, -, -⟩ :=
    exists_of_continue?_eq_some (by decide) (by decide) hcontinue
  have hshort : n = 0 → 0x20 ≤ m := by
    rintro rfl
    simpa using hlow
  have hsurrogate : n = 0xD → m < 0x20 := by
    rintro rfl
    simp at hhigh
    omega
  have hvalid : (n * 0x1000 + m * 0x40 + k).isValidChar := by
    rw [Nat.isValidChar]
    omega
  obtain ⟨c, hc⟩ := exists_toNat_eq hvalid
  exact ⟨c, tail, by rw [utf8EncodeChar_of_three hc hshort hn hm hk]; rfl⟩

/-- A first byte and three bytes within its bounds are a character. -/
theorem exists_char_of_four (hn : n < 5)
    (hcontinue : continue? 3 (if n = 0 then 0x90 else 0x80) (if n = 4 then 0x8F else 0xBF) n
      bytes = (some c, rest)) :
    ∃ c rest, .ofNat (n + 0xF0) :: bytes = String.utf8EncodeChar c ++ rest := by
  obtain ⟨m, tail, rfl, hm, hlow, hhigh, hcontinue⟩ :=
    exists_of_continue?_eq_some (by split <;> decide) (by split <;> decide) hcontinue
  obtain ⟨k, tail, rfl, hk, -, -, hcontinue⟩ :=
    exists_of_continue?_eq_some (by decide) (by decide) hcontinue
  obtain ⟨l, tail, rfl, hl, -, -, -⟩ :=
    exists_of_continue?_eq_some (by decide) (by decide) hcontinue
  have hshort : n = 0 → 0x10 ≤ m := by
    rintro rfl
    simpa using hlow
  have hlast : n = 4 → m < 0x10 := by
    rintro rfl
    simp at hhigh
    omega
  have hvalid : (n * 0x40000 + m * 0x1000 + k * 0x40 + l).isValidChar := by
    rw [Nat.isValidChar]
    omega
  obtain ⟨c, hc⟩ := exists_toNat_eq hvalid
  exact ⟨c, tail, by rw [utf8EncodeChar_of_four hc hshort (by omega) hm hk hl]; rfl⟩

/-- **A first byte and bytes within its bounds are a character.** -/
theorem Leads.exists_char (h : Leads b lead)
    (hcontinue : continue? lead.trailing lead.low lead.high lead.bits bytes = (some c, rest)) :
    ∃ c rest, b :: bytes = String.utf8EncodeChar c ++ rest := by
  cases h with
  | @one n hn =>
      have hvalid : n.isValidChar := .inl (by omega)
      obtain ⟨c, hc⟩ := exists_toNat_eq hvalid
      exact ⟨c, bytes, by rw [utf8EncodeChar_of_one hc hn]; rfl⟩
  | @two n hlow hn =>
      obtain ⟨m, tail, rfl, hm, -, -, -⟩ :=
        exists_of_continue?_eq_some (by simp) (by simp) hcontinue
      have hvalid : (n * 0x40 + m).isValidChar := .inl (by omega)
      obtain ⟨c, hc⟩ := exists_toNat_eq hvalid
      exact ⟨c, tail, by rw [utf8EncodeChar_of_two hc hlow hn hm]; rfl⟩
  | three hn => exact exists_char_of_three hn hcontinue
  | four hn => exact exists_char_of_four hn hcontinue

/-- **What is read as something else than the replacement is a character.** -/
theorem eq_append_of_next_ne (hne : (next b bytes).1 ≠ replacement) :
    b :: bytes = String.utf8EncodeChar (next b bytes).1 ++ (next b bytes).2 := by
  cases hlead : lead? b with
  | none =>
      rw [next, hlead] at hne
      contradiction
  | some lead =>
      rcases hcontinue : continue? lead.trailing lead.low lead.high lead.bits bytes with
        ⟨_ | c, rest⟩
      · simp [next, hlead, hcontinue] at hne
      · obtain ⟨c, tail, hbytes⟩ := (lead?_eq_some_iff.mp hlead).exists_char hcontinue
        -- the bytes start with a character, and that is the one that is read
        obtain ⟨b', tail', hc, hnext⟩ := next_utf8EncodeChar c tail
        rw [hc, List.cons_append] at hbytes
        obtain ⟨rfl, rfl⟩ := List.cons.inj hbytes
        rw [hnext, hc]
        rfl

/-! ### Texts -/

/-- **The bytes of a text are read as that text.** -/
theorem decodeLossy_encode (text : List Char) : decodeLossy (encode text) = text := by
  induction text with
  | nil => exact decodeLossy_nil
  | cons c text ih =>
      obtain ⟨b, tail, hc, hnext⟩ := next_utf8EncodeChar c (encode text)
      have hbytes : encode (c :: text) = b :: (tail ++ encode text) := by
        rw [encode, List.flatMap_cons, hc]
        rfl
      rw [hbytes, decodeLossy_cons, hnext, ih]

/-- **Bytes that are read without a replacement are those of the text read.** -/
theorem encode_decodeLossy (h : replacement ∉ decodeLossy bytes) :
    encode (decodeLossy bytes) = bytes := by
  induction bytes using decodeLossy.induct with
  | case1 =>
      rw [decodeLossy_nil]
      rfl
  | case2 b rest _ ih =>
      rw [decodeLossy_cons, List.mem_cons, not_or] at h
      have hrest : encode (decodeLossy (next b rest).2) = (next b rest).2 := ih h.2
      rw [decodeLossy_cons, eq_append_of_next_ne (Ne.symm h.1)]
      exact congrArg (String.utf8EncodeChar (next b rest).1 ++ ·) hrest

/-- Only the zero character has a zero byte. -/
theorem toNat_eq_zero_of_mem : 0 ∈ String.utf8EncodeChar c → c.toNat = 0 := by
  have hvalue : c.val.toNat = c.toNat := rfl
  fun_cases String.utf8EncodeChar c <;>
    simp only [List.mem_cons, List.not_mem_nil, or_false, ← UInt8.toNat_inj, UInt8.toNat_ofNat',
      UInt8.toNat_zero] <;>
    omega

/-- A text without the zero character has no zero byte. -/
theorem zero_notMem_encode {text : List Char} (h : '\x00' ∉ text) : 0 ∉ encode text := by
  rw [encode, List.mem_flatMap]
  rintro ⟨c, hc, hzero⟩
  have hsame : c.toNat = '\x00'.toNat := toNat_eq_zero_of_mem hzero
  rw [Char.toNat_inj] at hsame
  exact h (hsame ▸ hc)

end StableQueue.Text.Utf8

/-! ### Names -/

namespace StableQueue.Foreign

open Text.Utf8

/-- The loop that lists the bytes of an array appends those that are left. -/
theorem toList_loop_eq (bytes : ByteArray) (i : Nat) (listed : List UInt8) :
    ByteArray.toList.loop bytes i listed = listed.reverse ++ bytes.data.toList.drop i := by
  fun_induction ByteArray.toList.loop bytes i listed with
  | case1 i listed hi ih =>
      have hlt : i < bytes.data.toList.length := by simpa using hi
      rw [ih, List.drop_eq_getElem_cons hlt]
      simp [ByteArray.get!, hi]
  | case2 i listed hi =>
      rw [List.drop_eq_nil_of_le (by simpa using hi), List.append_nil]

/-- The bytes of an array in their order. -/
theorem toList_eq (bytes : ByteArray) : bytes.toList = bytes.data.toList := by
  rw [ByteArray.toList, toList_loop_eq, List.drop_zero]
  rfl

/-- **A foreign caller gives a queue the name that it writes**, up to the first zero byte. -/
theorem nameOf_toUTF8_append {name : String} (hname : '\x00' ∉ name.toList) {block : ByteArray}
    (hblock : ∀ b ∈ block.data[0]?, b = 0) : nameOf (name.toUTF8 ++ block) = name := by
  have hbytes : name.toUTF8.data.toList = encode name.toList := by
    rw [String.toUTF8_eq_toByteArray, ← String.utf8Encode_toList, List.utf8Encode,
      List.toList_data_toByteArray]
    rfl
  have hend : block.data.toList.takeWhile (· ≠ 0) = [] := by
    cases hlist : block.data.toList with
    | nil => rfl
    | cons b rest =>
        rw [← Array.getElem?_toList, hlist] at hblock
        simp [hblock b rfl]
  rw [nameOf, toList_eq, ByteArray.data_append, Array.toList_append, hbytes,
    List.takeWhile_append_of_pos, hend, List.append_nil, decodeLossy_encode, String.ofList_toList]
  intro b hb
  have hne : b ≠ 0 := fun hzero => zero_notMem_encode hname (hzero ▸ hb)
  simpa using hne

end StableQueue.Foreign
