import Phrasebook.Text.Surrogate
import Phrasebook.Value.Description

namespace Phrasebook.Json

/-!
# Writing JSON

`Json.write` writes a value as one line of ASCII.  Lists and tuples are arrays and dictionaries are
objects, their keys in the words of JSON; any other value is written as the text that describes it.
-/

open Text

/-- An escape by code. -/
def codeEscape (n : Nat) : List Char := '\\' :: 'u' :: hex 4 n

/-- One character between quotes. -/
def writeChar (c : Char) : List Char :=
  let n := c.toNat
  if c == '"' || c == '\\' then ['\\', c]
  else if c == '\n' then ['\\', 'n']
  else if c == '\r' then ['\\', 'r']
  else if c == '\t' then ['\\', 't']
  else if 32 ≤ n && n < 127 then [c]
  else match halfOf? c with
    | some half => codeEscape half
    | none =>
      if n < 0x10000 then codeEscape n
      else codeEscape (0xD800 + (n - 0x10000) / 0x400) ++ codeEscape (0xDC00 + (n - 0x10000) % 0x400)

/-- A text between quotes. -/
def writeText (text : List Char) : List Char := '"' :: text.flatMap writeChar ++ ['"']

/-- A number; infinities and the NaN are words. -/
def writeNumber (x : Binary64) : List Char :=
  if x.isNaN then "NaN".toList
  else if !x.isFinite then (if x.isNegative then "-Infinity" else "Infinity").toList
  else Decimal.numberText x

/-- A key in words. -/
def keyText : Value → List Char
  | .text s => s.toList
  | .null => "null".toList
  | .bool b => if b then "true".toList else "false".toList
  | .float x => writeNumber x
  | v => v.describeChars

mutual

/-- The characters of a value. -/
def write : Value → List Char
  | .null => "null".toList
  | .bool b => if b then "true".toList else "false".toList
  | .int n => Decimal.intText n
  | .float x => writeNumber x
  | .text s => writeText s.toList
  | .list items | .tuple items => '[' :: Value.commaSeparated (writeItems items) ++ [']']
  | .map entries => '\x7b' :: Value.commaSeparated (writeEntries entries) ++ ['\x7d']
  | v => writeText v.describeChars
termination_by structural v => v

/-- The characters of some values. -/
def writeItems : List Value → List (List Char)
  | [] => []
  | v :: rest => write v :: writeItems rest
termination_by structural v => v

/-- The characters of entries. -/
def writeEntries : List (Value × Value) → List (List Char)
  | [] => []
  | (k, v) :: rest => (writeText (keyText k) ++ ':' :: ' ' :: write v) :: writeEntries rest
termination_by structural v => v

end

end Phrasebook.Json
