import Phrasebook.Yaml.Scalar.Quoted

namespace Phrasebook.Yaml.Scalar

/-!
# Plain scalars

A text without quotes.  It ends before `: ` and ` #`, in a flow collection also before brackets,
braces, commas and question marks, and outside of one at a line that is not indented more than what
it belongs to.  Lines are folded as in quoted scalars; tabs end it.
-/

/-- Whether a plain scalar may start here. -/
def startsPlain (inFlow : Bool) : List Char → Bool
  | [] => false
  | c :: rest =>
    !(isSpaceOrTab c || isBreak c || "-?:,[]\x7b\x7d#&*!|>'\"%@\x60".toList.contains c)
      || (!endsWord rest && (c == '-' || (!inFlow && (c == '?' || c == ':'))))

/-- Whether a plain scalar ends before a text. -/
def endsPlain (inFlow : Bool) : List Char → Bool
  | [] => true
  | c :: rest =>
    isSpaceOrTab c || isBreak c
      || (c == ':' && (endsWord rest || (inFlow && rest.head?.any ",[]\x7b\x7d".toList.contains)))
      || (inFlow && ",?[]\x7b\x7d".toList.contains c)

/-- The piece of a plain scalar that a text starts with, without blanks. -/
def plainPiece (inFlow : Bool) : List Char → List Char
  | [] => []
  | c :: rest => if endsPlain inFlow (c :: rest) then [] else c :: plainPiece inFlow rest

/-- What lies between two pieces: its text, the place after it, whether a line ended in it, and
    whether the scalar can go on. -/
structure Gap where
  text : List Char
  cursor : Cursor
  broken : Bool
  goesOn : Bool

/-- The line ends of the empty lines from a line's start on, and whether no separator stands after
    one of them. -/
def plainEmptyLines : Nat → Cursor → List Char × Cursor × Bool
  | 0, p => ([], p, true)
  | fuel + 1, p =>
    let p := p.dropWhile (· == ' ')
    match p.ahead with
    | [] => ([], p, true)
    | c :: _ =>
      if !isBreak c then ([], p, true)
      else if isSeparator p.step.ahead then ([], p.step, false)
      else
        let (more, q, more?) := plainEmptyLines fuel p.step
        (breakText c :: more, q, more?)

/-- The gap after a piece. -/
def plainGap (p : Cursor) : Gap :=
  let (blanks, p) := p.span (· == ' ')
  match p.ahead with
  | [] => ⟨blanks, p, false, !blanks.isEmpty⟩
  | c :: _ =>
    if !isBreak c then ⟨blanks, p, false, !blanks.isEmpty⟩
    else if isSeparator p.step.ahead then ⟨[], p.step, true, false⟩
    else
      let (empty, q, goesOn) := plainEmptyLines p.ahead.length p.step
      ⟨fold c empty, q, true, goesOn⟩

/-- A plain text, the place after it, and whether a line ended just before that place; `margin` is
    the least column of its further lines. -/
def readPlain (inFlow : Bool) (margin : Int) : Nat → Cursor → List Char × Cursor × Bool
  | 0, p => ([], p, false)
  | fuel + 1, p =>
    let piece := plainPiece inFlow p.ahead
    let gap := plainGap (p.skip piece.length)
    let q := gap.cursor
    if !gap.goesOn || q.head? == some '#' || (!inFlow && (q.column : Int) < margin)
      || endsPlain inFlow q.ahead
    then (piece, q, gap.broken)
    else
      let (more, q, broken) := readPlain inFlow margin fuel q
      (piece ++ gap.text ++ more, q, broken)

/-- A plain text from its first character on. -/
def plainText (inFlow : Bool) (margin : Int) (p : Cursor) : List Char × Cursor × Bool :=
  readPlain inFlow margin (p.ahead.length + 1) p

end Phrasebook.Yaml.Scalar
