import Phrasebook.Text.Class
import Phrasebook.Text.Surrogate

namespace Phrasebook.Text

/-!
# Quoted text

The form in which messages show a text: between single quotes, or between double quotes when it
holds a single one and no double one.  The backslash, the quote in use, tab, line feed and carriage
return are escaped by a backslash, other hidden characters by their code in the shortest of the
forms `\xNN`, `\uNNNN` and `\UNNNNNNNN`.
-/

/-- The lower-case hexadecimal digits of `n`, the lowest `width` of them. -/
def hex : Nat → Nat → List Char
  | 0, _ => []
  | width + 1, n => hex width (n / 16) ++ [Nat.digitChar (n % 16)]

/-- The escape of a hidden character by its code. -/
def codeEscape (n : Nat) : List Char :=
  if n < 0x100 then '\\' :: 'x' :: hex 2 n
  else if n < 0x10000 then '\\' :: 'u' :: hex 4 n
  else '\\' :: 'U' :: hex 8 n

/-- One character inside quotes of the kind `quote`. -/
def quoteChar (quote c : Char) : List Char :=
  if c == quote || c == '\\' then ['\\', c]
  else if c == '\t' then ['\\', 't']
  else if c == '\n' then ['\\', 'n']
  else if c == '\r' then ['\\', 'r']
  else if isHidden c then codeEscape (codeOf c)
  else [c]

/-- The quote that a text is put between. -/
def quoteFor (text : List Char) : Char :=
  if text.contains '\'' && !text.contains '"' then '"' else '\''

/-- The text between quotes, with escapes. -/
def quoted (text : List Char) : List Char :=
  let quote := quoteFor text
  quote :: text.flatMap (quoteChar quote) ++ [quote]

end Phrasebook.Text
