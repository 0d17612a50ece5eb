namespace Phrasebook.Base64

/-!
# Base 64

`decode?` reads octets written with 64 characters, four of them for three octets.  Characters of
other kinds are passed over; `=` fills up the last group, and what follows it is not read.
-/

/-- The value of a digit. -/
def digit? (c : Char) : Option Nat :=
  if c.isUpper then some (c.toNat - 'A'.toNat)
  else if c.isLower then some (c.toNat - 'a'.toNat + 26)
  else if c.isDigit then some (c.toNat - '0'.toNat + 52)
  else if c == '+' then some 62
  else if c == '/' then some 63
  else none

/-- The octet that a digit completes, as the `count`-th digit of its group after one whose unused
    bits are `left`. -/
def completed? (count left digit : Nat) : Option UInt8 :=
  match count with
  | 1 => some (left * 4 + digit / 16).toUInt8
  | 2 => some (left * 16 + digit / 4).toUInt8
  | 3 => some (left * 64 + digit).toUInt8
  | _ => none

/-- The bits of a digit that belong to the next octet. -/
def unused (count digit : Nat) : Nat :=
  match count with
  | 0 => digit
  | 1 => digit % 16
  | 2 => digit % 4
  | _ => 0

/-- Reads on in a group of which `count` digits are read, the last of them leaving `left`, and
    `fillers` fill characters since. -/
def decodeFrom (count left fillers : Nat) : List Char → Option (List UInt8)
  | [] => if count == 0 then some [] else none
  | '=' :: rest =>
    if 2 ≤ count && 4 ≤ count + fillers + 1 then some []
    else decodeFrom count left (if 2 ≤ count then fillers + 1 else fillers) rest
  | c :: rest =>
    match digit? c with
    | none => decodeFrom count left fillers rest
    | some d => do
      let octets ← decodeFrom ((count + 1) % 4) (unused count d) 0 rest
      return (completed? count left d).toList ++ octets

/-- The octets of a text; no result if its last group is cut short. -/
def decode? (text : List Char) : Option (List UInt8) := decodeFrom 0 0 0 text

end Phrasebook.Base64
