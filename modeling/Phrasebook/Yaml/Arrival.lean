import Phrasebook.Yaml.Value

namespace Phrasebook.Yaml

/-!
# Texts that arrive in pieces

A text is read while it arrives.  Each piece is checked for characters that may not stand in a text
when its first character is asked for, so a fault further up is found first, even if the rest of the
text is bad or cannot be had at all.

* `pieceStart` — where the piece of a character starts;
* `faultBefore?` — the fault that is found before a piece is asked for;
* `faultIn?` — the fault that is found in a text before the piece after it is asked for;
* `read` — the value of the only document of a text.
-/

/-- Where the piece of the character at an index starts: a piece has 4096 characters, the first one
    twice as many. -/
def pieceStart (index : Nat) : Nat := if index < 8192 then 0 else index / 4096 * 4096

/-- The fault that is found before the piece that starts at `start` is asked for. -/
def faultBefore? (start : Nat) (text : List Char) : Option Fault :=
  match Document.ofText? (text.take start) with
  | .error stop => if stop.index < start then some stop.fault else none
  | .ok _ => none

/-- The fault of a text in which a character may not stand. -/
def faultOfCharacters? (text : List Char) : Option Fault :=
  (text.findIdx? (!isAllowed ·)).map fun index =>
    (faultBefore? (pieceStart index) text).getD (.malformed .controlCharacter)

/-- The fault that is found in a text before the piece after it is asked for. -/
def faultIn? (text : List Char) : Option Fault :=
  (faultOfCharacters? text).or (faultBefore? text.length text)

/-- The value of the only document of a text; nothing at all is null. -/
def read (text : List Char) : Except Fault Value :=
  match faultOfCharacters? text with
  | some fault => .error fault
  | none =>
    match Document.ofText? text with
    | .error stop => .error stop.fault
    | .ok none => .ok .null
    | .ok (some d) => d.value

end Phrasebook.Yaml
