import Phrasebook.Binary64
import Phrasebook.Text.Blank
import Phrasebook.Text.Class

namespace Phrasebook.Decimal

/-!
# Reading numbers

* `naturalOf` — the value of a run of digits in a base;
* `readInt?` — an integer in a base: a sign, the mark of the base (`0x`, `0o`, `0b`), digits with
  single underscores between them, blanks around it;
* `readNumber?` — a floating-point number: digits with a point and an exponent, or one of the words
  for infinity and NaN.

Digits of every script count as the ASCII digits of the same value.
-/

open Text

/-- Digits of other scripts in ASCII, and blanks as spaces. -/
def toAscii (text : List Char) : List Char :=
  text.map fun c =>
    if c.toNat < 128 then c
    else if isBlank c then ' '
    else match digitValue? c with
      | some d => Nat.digitChar d
      | none => c

/-- The value of a digit or letter as a digit, up to 35. -/
def digitOf? (c : Char) : Option Nat :=
  if c.isDigit then some (c.toNat - '0'.toNat)
  else if c.isLower then some (c.toNat - 'a'.toNat + 10)
  else if c.isUpper then some (c.toNat - 'A'.toNat + 10)
  else none

/-- The value of a run of digits, continued from `start`; no value if one is too large for the
    base. -/
def naturalOf (base : Nat) (start : Nat) : List Char → Option Nat
  | [] => some start
  | c :: rest =>
    match digitOf? c with
    | some d => if d < base then naturalOf base (start * base + d) rest else none
    | none => none

/-- Removes single underscores that stand between two characters other than underscores; no result
    if one stands elsewhere. -/
def joinGroups : List Char → Option (List Char)
  | [] => some []
  | ['_'] => none
  | '_' :: _ => none
  | c :: '_' :: d :: rest => if d == '_' then none else (joinGroups (d :: rest)).map (c :: ·)
  | c :: rest => (joinGroups rest).map (c :: ·)

/-- A sign, if there is one, and the rest. -/
def splitSign : List Char → Bool × List Char
  | '-' :: rest => (true, rest)
  | '+' :: rest => (false, rest)
  | text => (false, text)

/-- The text after the mark of a base, which one underscore may follow. -/
def dropBaseMark (base : Nat) : List Char → List Char
  | '0' :: m :: rest =>
    let marked := (base == 16 && (m == 'x' || m == 'X')) || (base == 8 && (m == 'o' || m == 'O'))
      || (base == 2 && (m == 'b' || m == 'B'))
    if !marked then '0' :: m :: rest
    else match rest with
      | '_' :: rest => rest
      | rest => rest
  | text => text

/-- An integer in a base. -/
def readInt? (base : Nat) (text : List Char) : Option Int := do
  let (negative, digits) := splitSign (trim (toAscii text))
  let digits ← joinGroups (dropBaseMark base digits)
  if digits.isEmpty then none
  else
    let n ← naturalOf base 0 digits
    return if negative then -n else n

/-- The words for infinity and NaN, in any case. -/
def word? (negative : Bool) (text : List Char) : Option Binary64 :=
  let folded := String.ofList (text.map Char.toLower)
  if folded == "inf" || folded == "infinity" then some (Binary64.infinity negative)
  else if folded == "nan" then some (if negative then Binary64.nan.negate else Binary64.nan)
  else none

/-- An exponent at the end of a number: nothing, or `e` and an integer. -/
def readExponent? : List Char → Option Int
  | [] => some 0
  | c :: rest =>
    if c != 'e' && c != 'E' then none
    else
      let (negative, digits) := splitSign rest
      if digits.isEmpty then none
      else (naturalOf 10 0 digits).map fun n => if negative then -(n : Int) else n

/-- A number without a sign: digits, a point among or before or after them, an exponent. -/
def readUnsigned? (negative : Bool) (text : List Char) : Option Binary64 := do
  let whole := text.takeWhile Char.isDigit
  let rest := text.dropWhile Char.isDigit
  let (fraction, rest) := match rest with
    | '.' :: rest => (rest.takeWhile Char.isDigit, rest.dropWhile Char.isDigit)
    | rest => ([], rest)
  if whole.isEmpty && fraction.isEmpty then none
  else
    let exponent ← readExponent? rest
    let digits ← naturalOf 10 0 (whole ++ fraction)
    return Binary64.ofScientific negative digits (exponent - fraction.length)

/-- Removes underscores that stand between two digits; no result if one stands elsewhere. -/
def joinDigits (text : List Char) : Option (List Char) :=
  let rec go (previous : Char) : List Char → Option (List Char)
    | [] => some []
    | '_' :: d :: rest =>
      if previous.isDigit && d.isDigit then (go d rest).map (d :: ·) else none
    | c :: rest => if c == '_' then none else (go c rest).map (c :: ·)
  go ' ' text

/-- A floating-point number. -/
def readNumber? (text : List Char) : Option Binary64 := do
  let digits ← joinDigits (trim (toAscii text))
  let (negative, rest) := splitSign digits
  match word? negative rest with
  | some x => return x
  | none => readUnsigned? negative rest

end Phrasebook.Decimal
