import Phrasebook.Text.Class.Alphanumeric
import Phrasebook.Text.Class.Digit
import Phrasebook.Text.Class.Hidden
import Phrasebook.Text.Class.Identifier
import Phrasebook.Text.Class.Letter

namespace Phrasebook.Text

/-!
# Character classes

The classes that keys, patterns and quoting ask for, over all of Unicode 14:

* `isLetter`, `isAlphanumeric`, `isWordChar` — letters; with numerals; with the underscore too;
* `isDigit`, `digitValue?` — decimal digits of every script;
* `isHidden` — characters that quoting writes as escapes;
* `isIdentifier` — texts that are identifiers.

ASCII is decided without the tables.
-/

/-- Membership in a table of inclusive code point ranges. -/
def inRanges (table : List (Nat × Nat)) (n : Nat) : Bool :=
  table.any fun range => range.1 ≤ n && n ≤ range.2

/-- Letters. -/
def isLetter (c : Char) : Bool :=
  if c.toNat < 128 then c.isAlpha else inRanges letterRanges c.toNat

/-- Letters and numerals. -/
def isAlphanumeric (c : Char) : Bool :=
  if c.toNat < 128 then c.isAlphanum else inRanges alphanumericRanges c.toNat

/-- Word characters: letters, numerals and the underscore. -/
def isWordChar (c : Char) : Bool := c == '_' || isAlphanumeric c

/-- Decimal digits of any script. -/
def isDigit (c : Char) : Bool :=
  if c.toNat < 128 then c.isDigit else inRanges digitRanges c.toNat

/-- The value of a decimal digit: its distance from the zero of its run, modulo ten. -/
def digitValue? (c : Char) : Option Nat :=
  (digitRanges.find? fun range => range.1 ≤ c.toNat && c.toNat ≤ range.2).map
    fun range => (c.toNat - range.1) % 10

/-- Characters without a printed form; the ASCII space has one. -/
def isHidden (c : Char) : Bool :=
  if c.toNat < 128 then c.toNat < 32 || c.toNat == 127 else inRanges hiddenRanges c.toNat

/-- Characters that may start an identifier. -/
def startsIdentifier (c : Char) : Bool :=
  if c.toNat < 128 then c.isAlpha || c == '_' else inRanges identifierStartRanges c.toNat

/-- Characters that may follow in an identifier. -/
def continuesIdentifier (c : Char) : Bool :=
  if c.toNat < 128 then c.isAlphanum || c == '_' else inRanges identifierRanges c.toNat

/-- A text that is an identifier. -/
def isIdentifier : List Char → Bool
  | [] => false
  | c :: rest => startsIdentifier c && rest.all continuesIdentifier

end Phrasebook.Text
