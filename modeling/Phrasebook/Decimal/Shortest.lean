import Phrasebook.Binary64

namespace Phrasebook.Decimal

/-!
# Shortest decimal digits

The fewest decimal digits that read back as a given number, and of those the nearest to it.  A
finite positive number `m · 2 ^ e` is what every real of an interval around it rounds to; the ends
of the interval belong to it when `m` is even.  `shortest` tries one digit, two digits and so on:
the first decimal grid on which a neighbour of the number lies in the interval wins, and of two
neighbours the nearer.
-/

/-- Decimal digits with the place of the point: the value is `0.d₁d₂… · 10 ^ point`. -/
structure Digits where
  digits : List Char
  point : Int
  deriving DecidableEq, Repr

/-- A positive number with the reals that round to it, all four times over and in the unit
    `num / den`: the number is `4 m`, the interval goes from `low` to `high`. -/
structure Interval where
  value : Nat
  low : Nat
  high : Nat
  closed : Bool
  num : Nat
  den : Nat

/-- The interval of a finite number.  Below a power of two the gap is half as wide. -/
def Interval.of (x : Binary64) : Interval :=
  let (m, q) := x.magnitude
  let low := if m == Nat.pow 2 52 && 0 < q then 4 * m - 1 else 4 * m - 2
  ⟨4 * m, low, 4 * m + 2, m % 2 == 0, Nat.pow 2 q, Nat.pow 2 1076⟩

/-- Whether the decimal `d · up / down` lies in the interval. -/
def Interval.holds (i : Interval) (up down d : Nat) : Bool :=
  let a := i.num * down
  let b := d * up * i.den
  if i.closed then i.low * a ≤ b && b ≤ i.high * a else i.low * a < b && b < i.high * a

/-- The decimal with unit `up / down` that lies in the interval and is nearest to the number. -/
def Interval.nearest? (i : Interval) (up down : Nat) : Option Nat :=
  let a := i.value * i.num * down
  let unit := up * i.den
  let d := a / unit
  let below := a - d * unit
  let above := (d + 1) * unit - a
  match i.holds up down d, i.holds up down (d + 1) with
  | true, true => if below < above || (below == above && d % 2 == 0) then some d else some (d + 1)
  | true, false => some d
  | false, true => some (d + 1)
  | false, false => none

/-- The least `k` among `k, k + 1, …` with `value < 10 ^ k`, where `value = num / den`. -/
def digitsBefore (num den : Nat) : Nat → Nat → Nat
  | 0, k => k
  | fuel + 1, k => if num < den * Nat.pow 10 k then k else digitsBefore num den fuel (k + 1)

/-- The least `j` among `j, j + 1, …` with `value · 10 ^ (j + 1) ≥ 1`: the zeros after the point. -/
def zerosAfter (num den : Nat) : Nat → Nat → Nat
  | 0, j => j
  | fuel + 1, j => if den ≤ num * Nat.pow 10 (j + 1) then j else zerosAfter num den fuel (j + 1)

/-- The power of ten just above a positive quotient. -/
def magnitudeOf (num den : Nat) : Int :=
  if den ≤ num then digitsBefore num den 310 0
  else -(zerosAfter num den 330 0 : Int)

/-- The digits on the first grid with a hit, starting with `n` digits. -/
def search (i : Interval) (point : Int) : Nat → Nat → Option Digits
  | 0, _ => none
  | fuel + 1, n =>
    let place := point - n
    match i.nearest? (Nat.pow 10 place.toNat) (Nat.pow 10 (-place).toNat) with
    | some d =>
      let text := Nat.toDigits 10 d
      -- a carry out of the first place moves the point
      let point := point + ((text.length : Int) - n)
      some ⟨(text.reverse.dropWhile (· == '0')).reverse, point⟩
    | none => search i point fuel (n + 1)

/-- The shortest digits of a finite positive number. -/
def shortest (x : Binary64) : Digits :=
  let i := Interval.of x
  let point := magnitudeOf (i.value * i.num) i.den
  (search i point 17 1).getD ⟨['0'], 1⟩

end Phrasebook.Decimal
