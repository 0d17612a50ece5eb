namespace Phrasebook.Text

/-!
# Halves of surrogate pairs

An escape may name one half of a surrogate pair alone, which is no character but has a place in a
text like one.  A text being a sequence of characters, a half is kept as the character `0xD0000`
above its code, so that lengths and places come out right.

* `ofCode`, `codeOf` — the character that stands for a code, half or not, and back;
* `halfOf?`, `isHalf` — whether a character stands for a half, and for which.

The characters from U+DD800 to U+DDFFF, which no character is assigned to, are given up for this: in
a text they are halves, however they came into it.  Halves have no octets (`Utf8.encode`).
-/

/-- Codes of the first half of a pair. -/
def isHighHalf (n : Nat) : Bool := 0xD800 ≤ n && n ≤ 0xDBFF

/-- Codes of the second half of a pair. -/
def isLowHalf (n : Nat) : Bool := 0xDC00 ≤ n && n ≤ 0xDFFF

/-- The distance of the characters that stand for halves. -/
def halfOffset : Nat := 0xD0000

/-- The code that two halves stand for together. -/
def joinHalves (high low : Nat) : Nat := 0x10000 + (high - 0xD800) * 0x400 + (low - 0xDC00)

/-- The character with a code, or the one that stands for a half. -/
def ofCode (n : Nat) : Char :=
  if isHighHalf n || isLowHalf n then Char.ofNat (n + halfOffset) else Char.ofNat n

/-- The half that a character stands for. -/
def halfOf? (c : Char) : Option Nat :=
  let n := c.toNat - halfOffset
  if isHighHalf n || isLowHalf n then some n else none

/-- Whether a character stands for a half. -/
def isHalf (c : Char) : Bool := (halfOf? c).isSome

/-- The code of a character, or of the half that it stands for. -/
def codeOf (c : Char) : Nat := (halfOf? c).getD c.toNat

end Phrasebook.Text
