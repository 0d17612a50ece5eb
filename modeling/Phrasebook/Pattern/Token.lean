import Phrasebook.Decimal.Reading
import Phrasebook.Pattern.Fault
import Phrasebook.Pattern.Syntax

namespace Phrasebook.Pattern

/-!
# Tokens of a pattern, and a reader over them

A token is one character, or a backslash with the character after it.  A backslash at the very end
is a fault, found as soon as it becomes the next token.

* `tokens` — the tokens of a text;
* `Reading` — what a reader has seen: the tokens ahead, the groups opened and closed, the global
  switches;
* `Read` — readers; `peek`, `next`, `accept`, `failAt` are the steps they are made of.
-/

/-- A token with its place. -/
structure Token where
  text : List Char
  position : Nat
  deriving DecidableEq, Repr

/-- A backslash without a character after it. -/
def Token.isDangling (t : Token) : Bool := t.text == ['\\']

/-- The tokens of a text that starts at `position`. -/
def tokens (position : Nat) : List Char → List Token
  | [] => []
  | '\\' :: c :: rest => ⟨['\\', c], position⟩ :: tokens (position + 2) rest
  | c :: rest => ⟨[c], position⟩ :: tokens (position + 1) rest

/-- What a reader has seen. -/
structure Reading where
  /-- The tokens ahead. -/
  ahead : List Token
  /-- The length of the text. -/
  size : Nat
  /-- The global switches. -/
  flags : Flags
  /-- The names of capture groups. -/
  names : List (List Char × Nat)
  /-- The widths of the capture groups by number, group 0 included; none for an open group. -/
  widths : List (Option Width)
  /-- Inside a look-behind, the number of groups opened before it. -/
  behind : Option Nat
  /-- The groups that conditions have asked for by number, with the place of the first. -/
  asked : List (Nat × Nat)

/-- Readers. -/
abbrev Read := StateT Reading (Except Fault)

/-- The place of the next token. -/
def Reading.position (r : Reading) : Nat :=
  match r.ahead with
  | [] => r.size
  | t :: _ => t.position

/-- The place of the next token. -/
def here : Read Nat := return (← get).position

/-- Fails `back` characters before the next token. -/
def failBack {α : Type} (cause : Cause) (back : Nat) : Read α := do
  throw (.malformed cause ((← here) - back))

/-- Fails at a place. -/
def failAt {α : Type} (cause : Cause) (position : Nat) : Read α :=
  throw (.malformed cause position)

/-- The text of the next token. -/
def peek : Read (Option (List Char)) := do
  match (← get).ahead with
  | [] => return none
  | t :: _ => return some t.text

/-- Moves to the tokens `ahead`. -/
def moveTo (ahead : List Token) : Read Unit := do
  match ahead with
  | t :: _ => if t.isDangling then throw (.malformed .danglingBackslash t.position)
  | [] => pure ()
  modify fun r => { r with ahead := ahead }

/-- Takes the next token. -/
def next : Read (Option (List Char)) := do
  match (← get).ahead with
  | [] => return none
  | t :: rest => do
    moveTo rest
    return some t.text

/-- Takes the next token if it is the character `c`. -/
def accept (c : Char) : Read Bool := do
  if (← peek) == some [c] then
    let _ ← next
    return true
  else return false

/-- Takes up to `n` characters that satisfy `p`. -/
def takeWhile (p : Char → Bool) : Nat → Read (List Char)
  | 0 => return []
  | n + 1 => do
    match ← peek with
    | some [c] =>
      if p c then
        let _ ← next
        return c :: (← takeWhile p n)
      else return []
    | _ => return []

/-- Takes the characters up to `terminator`, which is taken too; `what` names what they spell.
    `fuel` bounds the number of tokens. -/
def takeUntil (terminator : Char) (what : String) : Nat → List Char → Read (List Char)
  | 0, _ => failBack .unexpectedEnd 0
  | fuel + 1, taken => do
    match ← next with
    | none =>
      if taken.isEmpty then failBack (.missingName what) 0
      else failBack (.unterminatedName terminator) taken.length
    | some t =>
      if t == [terminator] then
        if taken.isEmpty then failBack (.missingName what) 1 else return taken
      else takeUntil terminator what fuel (taken ++ t)

/-- The characters up to `terminator`. -/
def name (terminator : Char) (what : String) : Read (List Char) := do
  takeUntil terminator what ((← get).ahead.length + 1) []

/-- The value of hexadecimal digits. -/
def hexValue (digits : List Char) : Nat := (Decimal.naturalOf 16 0 digits).getD 0

/-- The value of octal digits. -/
def octalValue (digits : List Char) : Nat := (Decimal.naturalOf 8 0 digits).getD 0

/-- Whether a character is a hexadecimal digit. -/
def isHexDigit (c : Char) : Bool :=
  c.isDigit || ('a' ≤ c && c ≤ 'f') || ('A' ≤ c && c ≤ 'F')

/-- Whether a character is an octal digit. -/
def isOctalDigit (c : Char) : Bool := '0' ≤ c && c ≤ '7'

end Phrasebook.Pattern
