namespace Phrasebook

/-!
# Binary floating-point numbers of 64 bits

A number is its bit pattern, so equality is decidable and every operation here is exact arithmetic
on integers followed, where needed, by one rounding to nearest, ties to even.

* `magnitude` — the significand and the power of two of a finite number;
* `ofRatio` — the nearest number to a quotient of naturals;
* `toInt?` — the integer that a number is, if it is one;
* `sameAs`, `sameAsInt` — numerical equality, in which the two zeros agree and a NaN equals nothing.
-/

/-- A binary floating-point number, as its bits: sign, eleven of exponent, fifty-two of fraction. -/
structure Binary64 where
  bits : UInt64
  deriving DecidableEq, Repr, Inhabited

namespace Binary64

/-- The bits below the sign. -/
def unsigned (x : Binary64) : Nat := x.bits.toNat % Nat.pow 2 63

/-- The sign bit. -/
def isNegative (x : Binary64) : Bool := Nat.pow 2 63 ≤ x.bits.toNat

/-- The pattern of infinity below the sign; a greater one is a NaN. -/
def infinityBits : Nat := 0x7FF0000000000000

/-- Neither infinite nor a NaN. -/
def isFinite (x : Binary64) : Bool := x.unsigned < infinityBits

/-- Not a number. -/
def isNaN (x : Binary64) : Bool := infinityBits < x.unsigned

/-- Of magnitude zero. -/
def isZero (x : Binary64) : Bool := x.unsigned == 0

/-- The number with a given sign and given bits below it. -/
def ofUnsigned (negative : Bool) (n : Nat) : Binary64 :=
  ⟨(if negative then Nat.pow 2 63 + n else n).toUInt64⟩

/-- Zero with a sign. -/
def zero (negative : Bool) : Binary64 := ofUnsigned negative 0

/-- Infinity with a sign. -/
def infinity (negative : Bool) : Binary64 := ofUnsigned negative infinityBits

/-- The quiet NaN. -/
def nan : Binary64 := ofUnsigned false (infinityBits + Nat.pow 2 51)

/-- The same number with the opposite sign. -/
def negate (x : Binary64) : Binary64 := ofUnsigned (!x.isNegative) x.unsigned

/-- `(m, q)` with `|x| = m · 2 ^ (q - 1074)`, for a finite number. -/
def magnitude (x : Binary64) : Nat × Nat :=
  let exponent := x.unsigned / Nat.pow 2 52
  let fraction := x.unsigned % Nat.pow 2 52
  if exponent == 0 then (fraction, 0) else (Nat.pow 2 52 + fraction, exponent - 1)

/-- The nearest integer to `num / den`, a tie going to the even one. -/
def roundDiv (num den : Nat) : Nat :=
  let quotient := num / den
  let rest := num % den
  if den < 2 * rest || (den == 2 * rest && quotient % 2 == 1) then quotient + 1 else quotient

/-- The bits of the number nearest to `num / den`.  The quotient is scaled so that it has 53 binary
    digits, fewer where the least exponent is reached; a carry out of the significand moves into the
    exponent by itself. -/
def ratioBits (num den : Nat) : Nat :=
  if num == 0 then 0
  else
    -- `scaled e` compares `num / den` in units of `2 ^ (e - 1074)`
    let scaled (e : Nat) : Nat × Nat :=
      if 1074 ≤ e then (num, den * Nat.pow 2 (e - 1074)) else (num * Nat.pow 2 (1074 - e), den)
    let guess := num.log2 + 1074 - den.log2 - 53
    let (n, d) := scaled guess
    let e := if Nat.pow 2 53 ≤ n / d then guess + 1 else guess
    let (n, d) := scaled e
    min infinityBits (e * Nat.pow 2 52 + roundDiv n d)

/-- The number nearest to `num / den` with a given sign; too large a quotient gives infinity. -/
def ofRatio (negative : Bool) (num den : Nat) : Binary64 :=
  ofUnsigned negative (ratioBits num den)

/-- The number nearest to `digits · 10 ^ exponent`. -/
def ofScientific (negative : Bool) (digits : Nat) (exponent : Int) : Binary64 :=
  if digits == 0 then zero negative
  else if exponent > 400 then infinity negative
  else match exponent with
    | .ofNat e => ofRatio negative (digits * Nat.pow 10 e) 1
    | .negSucc e =>
      -- far below the least positive number whatever the digits are
      if Nat.log2 digits + 1200 < 3 * e then zero negative
      else ofRatio negative digits (Nat.pow 10 (e + 1))

/-- The number nearest to an integer. -/
def ofInt (n : Int) : Binary64 := ofRatio (n < 0) n.natAbs 1

/-- The value of a finite number as a quotient, the denominator positive. -/
def toRatio (x : Binary64) : Int × Nat :=
  let (m, q) := x.magnitude
  let n := m * Nat.pow 2 q
  (if x.isNegative then -(n : Int) else n, Nat.pow 2 1074)

/-- The integer that a number is, if it is one. -/
def toInt? (x : Binary64) : Option Int :=
  if x.isFinite then
    let (num, den) := x.toRatio
    if num % den == 0 then some (num / den) else none
  else none

/-- The number nearest to the value of a quotient. -/
def ofQuotient (num : Int) (den : Nat) : Binary64 := ofRatio (num < 0) num.natAbs den

/-- The rounded sum of two numbers. -/
def add (x y : Binary64) : Binary64 :=
  if x.isNaN || y.isNaN then nan
  else if x.isFinite then
    if y.isFinite then ofQuotient (x.toRatio.1 + y.toRatio.1) (Nat.pow 2 1074) else y
  else if y.isFinite || x == y then x
  else nan

/-- The rounded product of two numbers. -/
def times (x y : Binary64) : Binary64 :=
  let negative := x.isNegative != y.isNegative
  if x.isNaN || y.isNaN then nan
  else if x.isFinite && y.isFinite then
    ofRatio negative (x.toRatio.1.natAbs * y.toRatio.1.natAbs) (Nat.pow 2 2148)
  else if x.isZero || y.isZero then nan
  else infinity negative

/-- Numerical equality. -/
def sameAs (x y : Binary64) : Bool :=
  !x.isNaN && !y.isNaN && (x == y || (x.isZero && y.isZero))

/-- Numerical equality with an integer. -/
def sameAsInt (x : Binary64) (n : Int) : Bool := x.toInt? == some n

end Binary64

end Phrasebook
