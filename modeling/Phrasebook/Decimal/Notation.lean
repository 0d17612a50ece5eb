import Phrasebook.Decimal.Shortest

namespace Phrasebook.Decimal

/-!
# The written form of a number

Shortest digits, positional when the power of the first digit is at least `-4` and below `16` and
with an exponent otherwise.  A positional form always has a point, an integer ending in `.0`; an
exponent has a sign and at least two digits.  Infinities and the NaN are words.
-/

/-- Decimal digits of a natural number. -/
def natText (n : Nat) : List Char := Nat.toDigits 10 n

/-- Decimal digits of an integer, with a minus sign where it is negative. -/
def intText (n : Int) : List Char :=
  if n < 0 then '-' :: natText n.natAbs else natText n.natAbs

/-- An exponent: sign and at least two digits. -/
def exponentText (e : Int) : List Char :=
  let digits := natText e.natAbs
  (if e < 0 then '-' else '+') :: (if digits.length < 2 then '0' :: digits else digits)

/-- Digits with a point, without an exponent. -/
def positional (d : Digits) : List Char :=
  match d.point with
  | .ofNat 0 => '0' :: '.' :: d.digits
  | .negSucc k => '0' :: '.' :: List.replicate (k + 1) '0' ++ d.digits
  | .ofNat k =>
    if d.digits.length ≤ k then d.digits ++ List.replicate (k - d.digits.length) '0' ++ ['.', '0']
    else d.digits.take k ++ '.' :: d.digits.drop k

/-- One digit, the others after a point if there are any, and an exponent. -/
def withExponent (d : Digits) : List Char :=
  let fraction := d.digits.drop 1
  d.digits.take 1 ++ (if fraction.isEmpty then [] else '.' :: fraction)
    ++ 'e' :: exponentText (d.point - 1)

/-- The written form of a number. -/
def numberText (x : Binary64) : List Char :=
  let sign := if x.isNegative then ['-'] else []
  if x.isNaN then ['n', 'a', 'n']
  else if !x.isFinite then sign ++ ['i', 'n', 'f']
  else if x.isZero then sign ++ ['0', '.', '0']
  else
    let d := shortest x
    sign ++ if -4 < d.point && d.point ≤ 16 then positional d else withExponent d

end Phrasebook.Decimal
