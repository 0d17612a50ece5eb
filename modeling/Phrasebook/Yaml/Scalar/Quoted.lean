import Phrasebook.Decimal.Reading
import Phrasebook.Text.Surrogate
import Phrasebook.Yaml.Cursor

namespace Phrasebook.Yaml.Scalar

/-!
# Quoted scalars

A text between single or double quotes.  A line end within it, with the blanks around it, is one
space, and each empty line after it a line feed.  In single quotes a doubled quote is one; in double
quotes a backslash starts an escape.
-/

/-- The text of a line end and the empty lines after it. -/
def fold (lineEnd : Char) (empty : List Char) : List Char :=
  if breakText lineEnd != '\n' then breakText lineEnd :: empty
  else if empty.isEmpty then [' ']
  else empty

/-- The line ends of the empty lines from a line's start on, inside quotes. -/
def emptyLines : Nat → Cursor → Except Stop (List Char × Cursor)
  | 0, p => .ok ([], p)
  | fuel + 1, p =>
    if isSeparator p.ahead then p.refuse .separatorInText
    else
      let p := p.dropWhile isSpaceOrTab
      match p.ahead with
      | [] => .ok ([], p)
      | c :: _ =>
        if isBreak c then do
          let (more, p) ← emptyLines fuel p.step
          return (breakText c :: more, p)
        else .ok ([], p)

/-- The character of an escape of one character. -/
def escaped? : Char → Option Char
  | '0' => some '\x00'
  | 'a' => some '\x07'
  | 'b' => some '\x08'
  | 't' => some '\t'
  | '\t' => some '\t'
  | 'n' => some '\n'
  | 'v' => some '\x0b'
  | 'f' => some '\x0c'
  | 'r' => some '\r'
  | 'e' => some '\x1b'
  | ' ' => some ' '
  | '"' => some '"'
  | '\\' => some '\\'
  | '/' => some '/'
  | 'N' => some '\x85'
  | '_' => some '\xa0'
  | 'L' => some '\u2028'
  | 'P' => some '\u2029'
  | _ => none

/-- The number of digits of an escape by code. -/
def codeWidth? : Char → Option Nat
  | 'x' => some 2
  | 'u' => some 4
  | 'U' => some 8
  | _ => none

/-- The character of an escape by code, `width` digits being ahead. -/
def readCode (width : Nat) (p : Cursor) : Except Stop Char :=
  let digits := p.ahead.take width
  if digits.length < width || !digits.all isHexDigit then (p.dropWhile isHexDigit).refuse .badEscape
  else
    let code := (Decimal.naturalOf 16 0 digits).getD 0
    if 0x110000 ≤ code then .error ⟨.codeTooLarge code, p.index + (width - 1)⟩
    else .ok (Text.ofCode code)

/-- An escape, from after its backslash: its text and the place after it. -/
def readEscape (p : Cursor) : Except Stop (List Char × Cursor) :=
  match p.ahead with
  | [] => p.refuse .badEscape
  | c :: _ =>
    match escaped? c, codeWidth? c with
    | some d, _ => .ok ([d], p.step)
    | none, some width => do
      let d ← readCode width p.step
      return ([d], p.step.skip width)
    | none, none =>
      if isBreak c then emptyLines p.ahead.length p.step else p.refuse .badEscape

/-- The text up to the closing quote, and the place after it. -/
def readQuoted (double : Bool) : Nat → Cursor → Except Stop (List Char × Cursor)
  | 0, p => p.refuse .unterminatedText
  | fuel + 1, p =>
    match p.ahead with
    | [] => p.refuse .unterminatedText
    | c :: rest =>
      if isSpaceOrTab c || isBreak c then
        let (blanks, p) := p.span isSpaceOrTab
        match p.ahead with
        | [] => p.refuse .unterminatedText
        | d :: _ =>
          if isBreak d then do
            let (empty, p) ← emptyLines p.ahead.length p.step
            let (more, p) ← readQuoted double fuel p
            return (fold d empty ++ more, p)
          else do
            let (more, p) ← readQuoted double fuel p
            return (blanks ++ more, p)
      else if !double && c == '\'' && rest.head? == some '\'' then do
        let (more, p) ← readQuoted double fuel (p.skip 2)
        return ('\'' :: more, p)
      else if c == (if double then '"' else '\'') then .ok ([], p.step)
      else if double && c == '\\' then do
        let (text, p) ← readEscape p.step
        let (more, p) ← readQuoted double fuel p
        return (text ++ more, p)
      else do
        let (more, p) ← readQuoted double fuel p.step
        return (c :: more, p)

/-- A quoted text, from its opening quote on. -/
def quotedText (p : Cursor) : Except Stop (List Char × Cursor) :=
  readQuoted (p.head? == some '"') (p.ahead.length + 1) p.step

end Phrasebook.Yaml.Scalar
