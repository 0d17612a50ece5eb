import Phrasebook.Text.Quoted
import Phrasebook.Value.Basic

namespace Phrasebook

/-!
# The text of a value

`Value.describe` writes any value in the notation that messages and unsupported arguments use:
texts quoted, lists in brackets, tuples in parentheses with a comma after a single item, sets and
dictionaries in braces, and marked arguments as the name of the mark with its content.
-/

namespace Value

open Text

/-- One octet inside quotes of the kind `quote`. -/
def describeOctet (quote : Char) (b : UInt8) : List Char :=
  let c := Char.ofNat b.toNat
  if c == quote || c == '\\' then ['\\', c]
  else if c == '\t' then ['\\', 't']
  else if c == '\n' then ['\\', 'n']
  else if c == '\r' then ['\\', 'r']
  else if b < 0x20 || 0x7F ≤ b then '\\' :: 'x' :: hex 2 b.toNat
  else [c]

/-- A sequence of octets: a `b` and the octets between quotes. -/
def describeBytes (octets : List UInt8) : List Char :=
  let quote := quoteFor (octets.map fun b => Char.ofNat b.toNat)
  'b' :: quote :: octets.flatMap (describeOctet quote) ++ [quote]

/-- Texts with `, ` between them. -/
def commaSeparated (texts : List (List Char)) : List Char := [',', ' '].intercalate texts

/-- The parts of a date. -/
def datePieces (d : Date) : List (List Char) := [d.year, d.month, d.day].map Decimal.natText

/-- The parts of a time of day: seconds and microseconds only where they are not zero. -/
def timePieces (t : Moment) : List (List Char) :=
  let parts :=
    if t.microsecond != 0 then [t.hour, t.minute, t.second, t.microsecond]
    else if t.second != 0 then [t.hour, t.minute, t.second]
    else [t.hour, t.minute]
  parts.map Decimal.natText

/-- An offset from universal time. -/
def offsetPiece (minutes : Int) : List Char :=
  if minutes == 0 then "tzinfo=datetime.timezone.utc".toList
  else "tzinfo=datetime.timezone(".toList ++ spanText minutes ++ [')']

mutual

/-- The text of a value. -/
def describeChars : Value → List Char
  | .null => "None".toList
  | .bool b => if b then "True".toList else "False".toList
  | .int n => Decimal.intText n
  | .float x => Decimal.numberText x
  | .text s => quoted s.toList
  | .bytes octets => describeBytes octets
  | .date d => "datetime.date(".toList ++ commaSeparated (datePieces d) ++ [')']
  | .moment t =>
    "datetime.datetime(".toList
      ++ commaSeparated (datePieces t.date ++ timePieces t ++ (t.offset.map offsetPiece).toList)
      ++ [')']
  | .list items => '[' :: commaSeparated (describeItems items) ++ [']']
  | .tuple items =>
    let texts := describeItems items
    '(' :: commaSeparated texts ++ (if texts.length == 1 then [',', ')'] else [')'])
  | .set members =>
    let texts := describeItems members
    if texts.isEmpty then "set()".toList else '\x7b' :: commaSeparated texts ++ ['\x7d']
  | .map entries => '\x7b' :: commaSeparated (describeEntries entries) ++ ['\x7d']
  | .literal s => "StringLiteral(value=".toList ++ quoted s.toList ++ [')']
  | .literalMap entries =>
    "MapLiteral(entries=\x7b".toList ++ commaSeparated (describeEntries entries) ++ ['\x7d', ')']
  | .expression source => "UnsupportedExpression(source=".toList ++ quoted source.toList ++ [')']
  | .enclosing _ isMap => (if isMap then "\x7b...\x7d" else "[...]").toList
termination_by structural v => v

/-- The texts of some values. -/
def describeItems : List Value → List (List Char)
  | [] => []
  | v :: rest => describeChars v :: describeItems rest
termination_by structural v => v

/-- The texts of entries, a colon after the key. -/
def describeEntries : List (Value × Value) → List (List Char)
  | [] => []
  | (k, v) :: rest => (describeChars k ++ ':' :: ' ' :: describeChars v) :: describeEntries rest
termination_by structural v => v

end

/-- The text of a value. -/
def describe (v : Value) : String := String.ofList v.describeChars

end Value

end Phrasebook
