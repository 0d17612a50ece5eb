import Phrasebook.Decimal.Reading
import Phrasebook.Text.Case
import Phrasebook.Yaml.Fault

namespace Phrasebook.Yaml.Number

/-!
# Numbers in scalars

Integers are decimal, octal (`0…`), binary (`0b…`), hexadecimal (`0x…`) or sexagesimal (`1:40`);
floating-point numbers have a point, and an exponent with a sign, or are sexagesimal or one of the
words for infinity and NaN.  Underscores among the digits have no meaning.

* `isInteger`, `isFloat` — plain scalars that are numbers;
* `readInteger`, `readFloat` — the number of any scalar whose tag demands one.
-/

open Decimal

/-- The parts of a text between occurrences of a separator. -/
def parts (separator : Char) : List Char → List (List Char)
  | [] => [[]]
  | c :: rest =>
    let more := parts separator rest
    if c == separator then [] :: more
    else match more with
      | first :: others => (c :: first) :: others
      | [] => [[c]]

/-- A text without the sign it may start with. -/
def dropSign (text : List Char) : List Char := (splitSign text).2

/-- Digits of a kind and underscores, at least one of them. -/
def isRun (isDigit : Char → Bool) (text : List Char) : Bool :=
  !text.isEmpty && text.all fun c => isDigit c || c == '_'

/-- A run of decimal digits and underscores that starts with a digit. -/
def isGrouped (text : List Char) : Bool :=
  text.head?.any Char.isDigit && isRun Char.isDigit text

/-- A number below sixty, of one or two digits. -/
def isSixtieth : List Char → Bool
  | [d] => d.isDigit
  | [t, d] => '0' ≤ t && t ≤ '5' && d.isDigit
  | _ => false

/-- Whether a plain scalar is an integer. -/
def isInteger (text : List Char) : Bool :=
  match dropSign text with
  | [] => false
  | ['0'] => true
  | '0' :: c :: rest =>
    (c == 'b' && isRun (fun c => c == '0' || c == '1') rest)
      || (c == 'x' && isRun (fun c => c.isDigit || ('a' ≤ c && c ≤ 'f') || ('A' ≤ c && c ≤ 'F'))
        rest)
      || isRun (fun c => '0' ≤ c && c ≤ '7') (c :: rest)
  | digits =>
    match parts ':' digits with
    | first :: others => isGrouped first && others.all isSixtieth
    | [] => false

/-- An exponent with a sign, or nothing. -/
def isExponent : List Char → Bool
  | [] => true
  | e :: s :: d :: rest =>
    (e == 'e' || e == 'E') && (s == '+' || s == '-') && d.isDigit && rest.all Char.isDigit
  | _ => false

/-- Whether the part of a number before its point is sound, `tail` being what follows the digits
    after the point. -/
def isWhole (whole tail : List Char) : Bool :=
  match parts ':' whole with
  | [] => false
  | [digits] => isGrouped digits && isExponent tail
  | first :: others => isGrouped first && others.all isSixtieth && tail.isEmpty

/-- Whether a plain scalar is a floating-point number. -/
def isFloat (text : List Char) : Bool :=
  let unsigned := dropSign text
  let hasSign := unsigned.length != text.length
  if [".inf".toList, ".Inf".toList, ".INF".toList].contains unsigned then true
  else if !hasSign && [".nan".toList, ".NaN".toList, ".NAN".toList].contains text then true
  else
    let whole := unsigned.takeWhile (· != '.')
    match unsigned.drop whole.length with
    | [] => false
    | _ :: rest =>
      let fraction := rest.takeWhile fun c => c.isDigit || c == '_'
      let tail := rest.drop fraction.length
      if whole.isEmpty then !hasSign && isGrouped fraction && isExponent tail
      else isWhole whole tail

/-- The greatest number of decimal digits of an integer. -/
def digitLimit : Nat := 4300

/-- The digits that a text starts with, after blanks and a sign. -/
def leadingDigits (text : List Char) : List Char :=
  (dropSign (Text.trim (toAscii text))).takeWhile Char.isDigit

/-- An integer in a base.  Too many decimal digits are found before what is wrong after them. -/
def integerIn (base : Nat) (text : List Char) : Except Fault Int :=
  let count := (leadingDigits text).length
  if base == 10 && digitLimit < count then .error (.longInteger count)
  else match readInt? base text with
    | some n => .ok n
    | none => .error (.notInteger base text)

/-- The value of sexagesimal parts. -/
def sixties (digits : List Int) : Int := digits.foldl (fun n d => n * 60 + d) 0

/-- An integer without its sign. -/
def unsignedInteger (text : List Char) : Except Fault Int :=
  match text with
  | [] => .error .emptyNumber
  | ['0'] => .ok 0
  | '0' :: 'b' :: rest => integerIn 2 rest
  | '0' :: 'x' :: rest => integerIn 16 rest
  | '0' :: _ => integerIn 8 text
  | _ =>
    if text.contains ':' then do
      let digits ← (parts ':' text).mapM (integerIn 10)
      return sixties digits
    else integerIn 10 text

/-- The integer of a scalar. -/
def readInteger (text : List Char) : Except Fault Int := do
  let (negative, rest) := splitSign (text.filter (· != '_'))
  let n ← unsignedInteger rest
  return if negative then -n else n

/-- A floating-point number. -/
def floatIn (text : List Char) : Except Fault Binary64 :=
  match readNumber? text with
  | some x => .ok x
  | none => .error (.notFloat text)

/-- The sum of sexagesimal parts, the last one first, `weight` being that of the next. -/
def floatSixties (weight : Nat) (sum : Binary64) : List Binary64 → Except Fault Binary64
  | [] => .ok sum
  | d :: rest =>
    let factor := Binary64.ofInt weight
    if !factor.isFinite then .error .floatOverflow
    else floatSixties (weight * 60) (sum.add (d.times factor)) rest

/-- The floating-point number of a scalar. -/
def readFloat (text : List Char) : Except Fault Binary64 := do
  let (negative, rest) := splitSign (Text.lower (text.filter (· != '_')))
  if (text.filter (· != '_')).isEmpty then throw .emptyNumber
  let x ←
    if rest == ".inf".toList then pure (Binary64.infinity false)
    else if rest == ".nan".toList then pure Binary64.nan
    else if rest.contains ':' then do
      let digits ← (parts ':' rest).mapM floatIn
      floatSixties 1 (Binary64.zero false) digits.reverse
    else floatIn rest
  return if negative then x.negate else x

end Phrasebook.Yaml.Number
