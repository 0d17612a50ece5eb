import Phrasebook.Yaml.Fault

namespace Phrasebook.Yaml

/-!
# Places in a text

A cursor is a place in a text: the characters ahead, how many are behind, and the line and column.
Line ends are line feeds, next-line characters, and line and paragraph separators; a carriage
return is none, so a text has its line ends unified before it is read.
-/

/-- The characters that may stand in a text. -/
def isAllowed (c : Char) : Bool :=
  let n := c.toNat
  c == '\t' || c == '\n' || c == '\r' || (0x20 ≤ n && n ≤ 0x7E) || n == 0x85
    || (0xA0 ≤ n && n != 0xFFFE && n != 0xFFFF)

/-- Characters that end a line. -/
def isBreak (c : Char) : Bool := c == '\n' || c == '\x85' || c == '\u2028' || c == '\u2029'

/-- What a line end stands for in a text: a line feed, unless it is a Unicode separator. -/
def breakText (c : Char) : Char := if c == '\x85' then '\n' else c

/-- Spaces and tabs. -/
def isSpaceOrTab (c : Char) : Bool := c == ' ' || c == '\t'

/-- Whether a word ends before a text: the text is empty or starts with a blank. -/
def endsWord : List Char → Bool
  | [] => true
  | c :: _ => isSpaceOrTab c || isBreak c

/-- The same without tabs. -/
def endsTag : List Char → Bool
  | [] => true
  | c :: _ => c == ' ' || isBreak c

/-- Whether a text starts with a separator of documents, `---` or `...`. -/
def isSeparator : List Char → Bool
  | '-' :: '-' :: '-' :: rest => endsWord rest
  | '.' :: '.' :: '.' :: rest => endsWord rest
  | _ => false

/-- The characters of names: ASCII letters and digits, `-` and `_`. -/
def isNameChar (c : Char) : Bool := c.isAlphanum || c == '-' || c == '_'

/-- Hexadecimal digits. -/
def isHexDigit (c : Char) : Bool :=
  c.isDigit || ('a' ≤ c && c ≤ 'f') || ('A' ≤ c && c ≤ 'F')

/-- A place in a text. -/
structure Cursor where
  ahead : List Char
  index : Nat
  line : Nat
  column : Nat
  deriving DecidableEq, Repr

namespace Cursor

/-- The start of a text. -/
def ofText (text : List Char) : Cursor := ⟨text, 0, 0, 0⟩

/-- Refuses a text for what stands at a place. -/
def refuse {α : Type} (p : Cursor) (rule : Malformed) : Except Stop α :=
  .error ⟨.malformed rule, p.index⟩

/-- The place after the next character.  A byte order mark takes no column. -/
def step (p : Cursor) : Cursor :=
  match p.ahead with
  | [] => p
  | c :: rest =>
    if isBreak c then ⟨rest, p.index + 1, p.line + 1, 0⟩
    else ⟨rest, p.index + 1, p.line, if c == '\uFEFF' then p.column else p.column + 1⟩

/-- The place after the next `n` characters. -/
def skip : Nat → Cursor → Cursor
  | 0, p => p
  | n + 1, p => skip n p.step

/-- The run of characters ahead that are in a class, and the place after it. -/
def span (p : Cursor) (f : Char → Bool) : List Char × Cursor :=
  let run := p.ahead.takeWhile f
  (run, p.skip run.length)

/-- The place after the characters ahead that are in a class. -/
def dropWhile (p : Cursor) (f : Char → Bool) : Cursor := (p.span f).2

/-- The next character. -/
def head? (p : Cursor) : Option Char := p.ahead.head?

/-- At the end of the text. -/
def atEnd (p : Cursor) : Bool := p.ahead.isEmpty

/-- At the end of a line or of the text. -/
def atLineEnd (p : Cursor) : Bool := p.ahead.head?.all isBreak

/-- The place after a comment, if one is ahead. -/
def dropComment (p : Cursor) : Cursor :=
  if p.head? == some '#' then p.dropWhile (!isBreak ·) else p

/-- The place after spaces and a comment and the end of their line, if nothing else is ahead on
    it. -/
def dropRestOfLine? (p : Cursor) : Option Cursor :=
  let p := (p.dropWhile (· == ' ')).dropComment
  if p.atLineEnd then some p.step else none

end Cursor

end Phrasebook.Yaml
