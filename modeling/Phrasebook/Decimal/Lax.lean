import Phrasebook.Decimal.Reading

namespace Phrasebook.Decimal

/-!
# Integers in settings

The integers that a setting may give as text: blanks around it, at most one sign, digits with single
underscores between them, and possibly a point with zeros alone after it.
-/

/-- The blanks that may stand around an integer: white space without the information separators. -/
def isLaxBlank (c : Char) : Bool := Text.isBlank c && !(0x1C ≤ c.toNat && c.toNat ≤ 0x1F)

/-- Why a text gives no integer. -/
inductive LaxFault where
  | unreadable
  /-- It has more digits than the limit. -/
  | tooLong
  deriving DecidableEq, Repr

/-- The greatest number of digits. -/
def laxLimit : Nat := 4300

/-- A text without a point and the zeros after it. -/
def dropZeroFraction (text : List Char) : List Char :=
  let whole := text.takeWhile (· != '.')
  match text.dropWhile (· != '.') with
  | _ :: zeros => if !zeros.isEmpty && zeros.all (· == '0') then whole else text
  | [] => text

/-- The integer of a text. -/
def readLaxInt (text : List Char) : Except LaxFault Int :=
  let (negative, rest) := splitSign (Text.trimBy isLaxBlank text)
  match joinGroups (dropZeroFraction rest) with
  | none => .error .unreadable
  | some digits =>
    if digits.isEmpty || !digits.all Char.isDigit then .error .unreadable
    else if laxLimit < (digits.dropWhile (· == '0')).length then .error .tooLong
    else
      let n := (naturalOf 10 0 digits).getD 0
      .ok (if negative then -n else n)

end Phrasebook.Decimal
