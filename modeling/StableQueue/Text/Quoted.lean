import StableQueue.Text.GraphemeExtend
import StableQueue.Text.Unprintable

/-!
# Quoted Text

A name is shown between double quotes, written so that it can be told from any other name by eye.
The quote, the backslash and four control characters have short escapes. Every other character that
cannot be seen by itself is written as its code point in lower-case hexadecimal digits. All else,
the single quote and letters of any script included, stands for itself.

The classes of characters are those of version 17 of Unicode. Two of them are corrected by what is
seen on paper: some letters are blank, and some marks do not sit on the character before.
-/

namespace StableQueue.Text

/-- Letters without a form: the fillers, each of which stands for a missing part of a Hangul
syllable. -/
def fillers : CodePoints := [(0x115F, 0x1160), (0x3164, 0x3164), (0xFFA0, 0xFFA0)]

/-- Marks with a place of their own: the halfwidth katakana sound marks, which extend the character
before but are written beside it. -/
def spacedMarks : CodePoints := [(0xFF9E, 0xFF9F)]

/-- The character merges with the one before, so that it cannot be seen by itself. -/
def merges (c : Char) : Bool := graphemeExtend.has c && !spacedMarks.has c

/-- The character cannot be seen by itself. Between the space and the tilde every character can. -/
def hidden (c : Char) : Bool :=
  if ' ' ≤ c ∧ c ≤ '~' then false else unprintable.has c || fillers.has c || merges c

/-- A character as it stands between the quotes. -/
def quotedChar (c : Char) : List Char :=
  match c with
  | '\x00' => ['\\', '0']
  | '\t' => ['\\', 't']
  | '\r' => ['\\', 'r']
  | '\n' => ['\\', 'n']
  | '"' => ['\\', '"']
  | '\\' => ['\\', '\\']
  | c =>
    if hidden c then ['\\', 'u', '\x7b'] ++ Nat.toDigits 16 c.toNat ++ ['\x7d'] else [c]

/-- A text between double quotes. -/
def quoted (text : String) : String :=
  .ofList ('"' :: text.toList.flatMap quotedChar ++ ['"'])

end StableQueue.Text
