import Phrasebook.Decimal.Reading
import Phrasebook.Text.Surrogate
import Phrasebook.Value.Basic

namespace Phrasebook.Json

/-!
# Reading JSON

`Json.read` takes a text to the value that it spells, or to the first fault with its place.  Beyond
the standard, `NaN`, `Infinity` and `-Infinity` are numbers; a repeated name keeps its first place
and its last value.  The control characters U+0000 to U+001F may not stand in a text literally.
-/

/-- What is wrong at a place. -/
inductive Cause where
  | expectingValue
  | expectingName
  | expectingColon
  | expectingComma
  | extraData
  | unterminatedText
  | controlCharacter
  | badEscape
  | badUnicodeEscape
  | byteOrderMark
  deriving DecidableEq, Repr

/-- Why a text is no JSON. -/
inductive Fault where
  | at (cause : Cause) (position : Nat)
  /-- An integer of more digits than can be read. -/
  | longInteger (digits : Nat)
  deriving DecidableEq, Repr

/-- The cause in words. -/
def Cause.text : Cause → String
  | .expectingValue => "Expecting value"
  | .expectingName => "Expecting property name enclosed in double quotes"
  | .expectingColon => "Expecting ':' delimiter"
  | .expectingComma => "Expecting ',' delimiter"
  | .extraData => "Extra data"
  | .unterminatedText => "Unterminated string starting at"
  | .controlCharacter => "Invalid control character at"
  | .badEscape => "Invalid \\escape"
  | .badUnicodeEscape => "Invalid \\uXXXX escape"
  | .byteOrderMark => "Unexpected UTF-8 BOM (decode using utf-8-sig)"

/-- The cause with its place in a text: line, column, and number of characters before it. -/
def Cause.textAt (source : List Char) (cause : Cause) (position : Nat) : String :=
  let before := source.take position
  let column := (before.reverse.takeWhile (· != '\n')).length + 1
  cause.text ++ ": line " ++ toString (before.count '\n' + 1) ++ " column " ++ toString column
    ++ " (char " ++ toString position ++ ")"

/-- What has been read, with the place after it and the text ahead. -/
structure Parsed (α : Type) where
  value : α
  position : Nat
  ahead : List Char

/-- The blanks between tokens. -/
def isBlank (c : Char) : Bool := c == ' ' || c == '\t' || c == '\n' || c == '\r'

/-- Skips blanks. -/
def skipBlanks (position : Nat) : List Char → Nat × List Char
  | [] => (position, [])
  | c :: rest => if isBlank c then skipBlanks (position + 1) rest else (position, c :: rest)

/-! ### Texts -/

/-- The value of four hexadecimal digits. -/
def fourDigits? (digits : List Char) : Option Nat :=
  if digits.length == 4 then Decimal.naturalOf 16 0 digits else none

/-- The character of a simple escape. -/
def escaped? : Char → Option Char
  | '"' => some '"'
  | '\\' => some '\\'
  | '/' => some '/'
  | 'b' => some '\x08'
  | 'f' => some '\x0c'
  | 'n' => some '\n'
  | 'r' => some '\r'
  | 't' => some '\t'
  | _ => none

/-- The character of an escape by code and the number of characters of the escape, `position` being
    that of the `u` and `rest` what follows it.  Two halves of a pair are one character unless the
    text ends right after them. -/
def unicodeEscape (position : Nat) (rest : List Char) : Except Fault (Char × Nat) :=
  if rest.length < 5 then .error (.at .badUnicodeEscape position)
  else
    match fourDigits? (rest.take 4) with
    | none => .error (.at .badUnicodeEscape position)
    | some n =>
      match rest.drop 4 with
      | '\\' :: 'u' :: more =>
        if Text.isHighHalf n && 5 ≤ more.length then
          match fourDigits? (more.take 4) with
          | none => .error (.at .badUnicodeEscape (position + 6))
          | some m =>
            if Text.isLowHalf m then .ok (Char.ofNat (Text.joinHalves n m), 11)
            else .ok (Text.ofCode n, 5)
        else .ok (Text.ofCode n, 5)
      | _ => .ok (Text.ofCode n, 5)

/-- The characters up to the closing quote of a text that began at `start`, skipping the `skip`
    characters of an escape already read. -/
def readChars (start position : Nat) : Nat → List Char → Except Fault (Parsed (List Char))
  | _, [] => .error (.at .unterminatedText start)
  | skip + 1, _ :: rest => readChars start (position + 1) skip rest
  | 0, '"' :: rest => .ok ⟨[], position + 1, rest⟩
  | 0, '\\' :: rest =>
    match rest with
    | [] => .error (.at .unterminatedText start)
    | e :: more =>
      if e == 'u' then
        match unicodeEscape (position + 1) more with
        | .error fault => .error fault
        | .ok (c, width) =>
          match readChars start (position + 1) width rest with
          | .error fault => .error fault
          | .ok p => .ok { p with value := c :: p.value }
      else
        match escaped? e with
        | none => .error (.at .badEscape position)
        | some c =>
          match readChars start (position + 1) 1 rest with
          | .error fault => .error fault
          | .ok p => .ok { p with value := c :: p.value }
  | 0, c :: rest =>
    if c.toNat ≤ 0x1F then .error (.at .controlCharacter position)
    else
      match readChars start (position + 1) 0 rest with
      | .error fault => .error fault
      | .ok p => .ok { p with value := c :: p.value }

/-! ### Numbers -/

/-- The digits before the point: one zero, or digits that start with another. -/
def wholeDigits : List Char → List Char
  | [] => []
  | c :: rest =>
    if c == '0' then ['0']
    else if c.isDigit then c :: rest.takeWhile Char.isDigit
    else []

/-- The fraction with its point, if there is one. -/
def fractionPart : List Char → List Char
  | '.' :: d :: rest => if d.isDigit then '.' :: d :: rest.takeWhile Char.isDigit else []
  | _ => []

/-- The exponent with its letter and sign, if there is one. -/
def exponentPart : List Char → List Char
  | e :: rest =>
    if e == 'e' || e == 'E' then
      let (sign, digits) := match rest with
        | s :: more => if s == '+' || s == '-' then ([s], more) else ([], rest)
        | [] => ([], [])
      let digits := digits.takeWhile Char.isDigit
      if digits.isEmpty then [] else e :: sign ++ digits
    else []
  | [] => []

/-- The greatest number of digits of an integer. -/
def digitLimit : Nat := 4300

/-- A number. -/
def readNumber (position : Nat) (text : List Char) : Except Fault (Parsed Value) :=
  let sign := text.takeWhile (· == '-') |>.take 1
  let unsigned := text.drop sign.length
  let whole := wholeDigits unsigned
  if whole.isEmpty then .error (.at .expectingValue position)
  else
    let fraction := fractionPart (unsigned.drop whole.length)
    let exponent := exponentPart (unsigned.drop (whole.length + fraction.length))
    let width := sign.length + whole.length + fraction.length + exponent.length
    let after {α : Type} (v : α) : Parsed α := ⟨v, position + width, text.drop width⟩
    if fraction.isEmpty && exponent.isEmpty then
      if digitLimit < whole.length then .error (.longInteger whole.length)
      else
        let n := (Decimal.naturalOf 10 0 whole).getD 0
        .ok (after (.int (if sign.isEmpty then n else -n)))
    else
      .ok (after (.float ((Decimal.readNumber? (text.take width)).getD Binary64.nan)))

/-- The words that stand for values. -/
def words : List (List Char × Value) :=
  [("null".toList, .null), ("true".toList, .bool true), ("false".toList, .bool false),
    ("NaN".toList, .float Binary64.nan), ("Infinity".toList, .float (Binary64.infinity false)),
    ("-Infinity".toList, .float (Binary64.infinity true))]

/-! ### Values -/

mutual

/-- A value at a place that is not blank. -/
def readValue : Nat → Nat → List Char → Except Fault (Parsed Value)
  | 0, position, _ => .error (.at .expectingValue position)
  | fuel + 1, position, text =>
    match text with
    | [] => .error (.at .expectingValue position)
    | '"' :: rest =>
      match readChars position (position + 1) 0 rest with
      | .ok p => .ok ⟨Value.ofChars p.value, p.position, p.ahead⟩
      | .error fault => .error fault
    | '\x7b' :: rest =>
      let (position, rest) := skipBlanks (position + 1) rest
      match rest with
      | '\x7d' :: rest => .ok ⟨.map [], position + 1, rest⟩
      | rest => readEntries fuel position rest []
    | '[' :: rest =>
      let (position, rest) := skipBlanks (position + 1) rest
      match rest with
      | ']' :: rest => .ok ⟨.list [], position + 1, rest⟩
      | rest => readItems fuel position rest []
    | text =>
      match words.find? fun w => w.1.isPrefixOf text with
      | some (word, v) => .ok ⟨v, position + word.length, text.drop word.length⟩
      | none => readNumber position text

/-- The entries of an object from a name on; `done` are those read before, the last one first. -/
def readEntries : Nat → Nat → List Char → List (Value × Value) → Except Fault (Parsed Value)
  | 0, position, _, _ => .error (.at .expectingName position)
  | fuel + 1, position, text, done =>
    match text with
    | '"' :: rest =>
      match readChars position (position + 1) 0 rest with
      | .error fault => .error fault
      | .ok name =>
        let (position, rest) := skipBlanks name.position name.ahead
        match rest with
        | ':' :: rest =>
          let (position, rest) := skipBlanks (position + 1) rest
          match readValue fuel position rest with
          | .error fault => .error fault
          | .ok v =>
            let done := (Value.ofChars name.value, v.value) :: done
            let (position, rest) := skipBlanks v.position v.ahead
            match rest with
            | '\x7d' :: rest => .ok ⟨.map (Entries.ofPairs done.reverse), position + 1, rest⟩
            | ',' :: rest =>
              let (position, rest) := skipBlanks (position + 1) rest
              readEntries fuel position rest done
            | _ => .error (.at .expectingComma position)
        | _ => .error (.at .expectingColon position)
    | _ => .error (.at .expectingName position)

/-- The items of an array from a value on. -/
def readItems : Nat → Nat → List Char → List Value → Except Fault (Parsed Value)
  | 0, position, _, _ => .error (.at .expectingValue position)
  | fuel + 1, position, text, done =>
    match readValue fuel position text with
    | .error fault => .error fault
    | .ok v =>
      let done := v.value :: done
      let (position, rest) := skipBlanks v.position v.ahead
      match rest with
      | ']' :: rest => .ok ⟨.list done.reverse, position + 1, rest⟩
      | ',' :: rest =>
        let (position, rest) := skipBlanks (position + 1) rest
        readItems fuel position rest done
      | _ => .error (.at .expectingComma position)

end

/-- The value of a text. -/
def read (text : List Char) : Except Fault Value :=
  if text.head? == some '\uFEFF' then .error (.at .byteOrderMark 0)
  else
    let (position, rest) := skipBlanks 0 text
    match readValue (2 * text.length + 2) position rest with
    | .error fault => .error fault
    | .ok p =>
      let (position, rest) := skipBlanks p.position p.ahead
      if rest.isEmpty then .ok p.value else .error (.at .extraData position)

end Phrasebook.Json
