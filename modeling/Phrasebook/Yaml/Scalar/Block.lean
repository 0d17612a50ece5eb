import Phrasebook.Yaml.Cursor

namespace Phrasebook.Yaml.Scalar

/-!
# Block scalars

A text of indented lines below a header.  A literal one (`|`) keeps its line ends; a folded one
(`>`) makes a line end between two lines that do not start with a blank a space.  The header says
what becomes of the line ends at the end, and may give the indentation.
-/

/-- What becomes of the line ends at the end of a block: one is kept, none, or all. -/
inductive Chomping where
  | clip
  | strip
  | keep
  deriving DecidableEq, Repr

/-- What the header of a block says. -/
structure BlockHeader where
  chomping : Chomping
  /-- The indentation beyond the least one, plus one. -/
  increment : Option Nat
  deriving DecidableEq, Repr

/-- The sign of a header. -/
def chompingOf? : Char → Option Chomping
  | '+' => some .keep
  | '-' => some .strip
  | _ => none

/-- A digit of a header; zero is none. -/
def readIncrement (p : Cursor) : Except Stop (Option Nat × Cursor) :=
  match p.head? with
  | none => .ok (none, p)
  | some c =>
    if !c.isDigit then .ok (none, p)
    else if c == '0' then p.refuse .blockHeader
    else .ok (some (c.toNat - '0'.toNat), p.step)

/-- A sign of a header. -/
def readChomping (p : Cursor) : Option Chomping × Cursor :=
  match p.head?.bind chompingOf? with
  | some sign => (some sign, p.step)
  | none => (none, p)

/-- The header with the rest of its line, from after the `|` or `>`: a sign and a digit in either
    order. -/
def readHeader (p : Cursor) : Except Stop (BlockHeader × Cursor) := do
  let (before, p) := readChomping p
  let (increment, p) ← readIncrement p
  let (sign, p) := match before, increment with
    | none, some _ => readChomping p
    | _, _ => (before, p)
  if !endsTag p.ahead then p.refuse .blockHeader
  match p.dropRestOfLine? with
  | some p => return (⟨sign.getD .clip, increment⟩, p)
  | none => (p.dropWhile (· == ' ')).refuse .blockHeader

/-- The line ends of the empty lines before the first line of a block, the greatest column that
    spaces reach in them or before that line, and the place of the line's text. -/
def leadingLines : Nat → Cursor → List Char × Nat × Cursor
  | 0, p => ([], 0, p)
  | fuel + 1, p =>
    let p := p.dropWhile (· == ' ')
    match p.ahead with
    | [] => ([], p.column, p)
    | c :: _ =>
      if isBreak c then
        let (more, column, q) := leadingLines fuel p.step
        (breakText c :: more, max p.column column, q)
      else ([], p.column, p)

/-- The place after spaces ahead, up to a column. -/
def toColumn (column : Nat) (p : Cursor) : Cursor :=
  let spaces := (p.ahead.takeWhile (· == ' ')).length
  p.skip (min spaces (column - p.column))

/-- The line ends of the empty lines ahead, up to a column of indentation. -/
def innerLines (column : Nat) : Nat → Cursor → List Char × Cursor
  | 0, p => ([], p)
  | fuel + 1, p =>
    let p := toColumn column p
    match p.ahead with
    | [] => ([], p)
    | c :: _ =>
      if isBreak c then
        let (more, q) := innerLines column fuel p.step
        (breakText c :: more, q)
      else ([], p)

/-- The lines of a block: its text without the last line end, that line end if there is one, those
    of the empty lines after it, and the place after all. -/
structure BlockLines where
  text : List Char
  lastBreak : List Char
  trailing : List Char
  cursor : Cursor

/-- The lines of a block from a line's text on, `empty` being the line ends before it. -/
def readLines (folded : Bool) (column : Nat) : Nat → List Char → Cursor → BlockLines
  | 0, empty, p => ⟨[], [], empty, p⟩
  | fuel + 1, empty, p =>
    if p.column != column || p.atEnd then ⟨[], [], empty, p⟩
    else
      let (line, q) := p.span (!isBreak ·)
      let lineBreak := (q.head?.map breakText).toList
      let (more, q) := innerLines column q.ahead.length q.step
      if q.column == column && !q.atEnd then
        let joint :=
          if folded && lineBreak == ['\n'] && !p.head?.any isSpaceOrTab
            && !q.head?.any isSpaceOrTab
          then (if more.isEmpty then [' '] else [])
          else lineBreak
        let rest := readLines folded column fuel more q
        { rest with text := empty ++ line ++ joint ++ rest.text }
      else ⟨empty ++ line, lineBreak, more, q⟩

/-- A block from its `|` or `>` on; `indent` is the column of what it belongs to. -/
def blockText (indent : Int) (p : Cursor) : Except Stop (List Char × Cursor) := do
  let folded := p.head? == some '>'
  let (header, p) ← readHeader p.step
  let least := (max 1 (indent + 1)).toNat
  let (column, empty, p) := match header.increment with
    | some n =>
      let column := least + n - 1
      let (empty, p) := innerLines column p.ahead.length p
      (column, empty, p)
    | none =>
      let (empty, column, p) := leadingLines (p.ahead.length + 1) p
      (max least column, empty, p)
  let lines := readLines folded column (p.ahead.length + 1) empty p
  let ending := match header.chomping with
    | .strip => []
    | .clip => lines.lastBreak
    | .keep => lines.lastBreak ++ lines.trailing
  return (lines.text ++ ending, lines.cursor)

end Phrasebook.Yaml.Scalar
