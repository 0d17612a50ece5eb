import Phrasebook.Yaml.Token

namespace Phrasebook.Yaml

/-!
# The lexer

Tokens are read one by one, as they are asked for.  A key shows as one only by the `:` after it, so
the place of everything that may be a key is kept until its line or 1024 characters are over; a
token is handed out once no place before it can become a key any more.

* `Lexer.advance` — the next token is read, with those that indentation adds;
* `Lexer.prepare` — the first pending token is final;
* `Lexer.head`, `Lexer.pop` — that token, and the lexer after it.
-/

/-- The place of something that may turn out to be a key. -/
structure Candidate where
  /-- The number of the token that it starts with. -/
  number : Nat
  /-- Nothing but a key may stand at this place. -/
  required : Bool
  index : Nat
  line : Nat
  column : Nat
  deriving DecidableEq, Repr

/-- A text that is being read. -/
structure Lexer where
  cursor : Cursor
  /-- Tokens that have been read and not yet handed out. -/
  pending : List Token
  /-- The number of tokens handed out. -/
  taken : Nat
  /-- The number of flow collections that are open. -/
  flow : Nat
  /-- The column of the block collection that is open; -1 outside of all. -/
  indent : Int
  /-- The columns of those around it. -/
  outer : List Int
  /-- A key may start at the next token. -/
  mayStartKey : Bool
  /-- At most one candidate for each number of open flow collections. -/
  candidates : List (Nat × Candidate)
  finished : Bool
  deriving DecidableEq, Repr

namespace Lexer

/-- At the start of a text. -/
def ofText (text : List Char) : Lexer :=
  ⟨Cursor.ofText text, [], 0, 0, -1, [], true, [], false⟩

/-- Adds a token after the pending ones. -/
def push (x : Lexer) (t : Token) : Lexer := { x with pending := x.pending ++ [t] }

/-- Adds a token that starts with an indicator of `width` characters. -/
def pushIndicator (x : Lexer) (width : Nat) (t : Token) : Lexer :=
  { x.push t with cursor := x.cursor.skip width }

/-- Inside a flow collection. -/
def inFlow (x : Lexer) : Bool := x.flow != 0

/-- The column of the cursor. -/
def column (x : Lexer) : Int := x.cursor.column

/-! ### Candidates for keys -/

/-- Whether a candidate's line, or the text that a key may take, is over. -/
def isStale (x : Lexer) (k : Candidate) : Bool :=
  k.line != x.cursor.line || k.index + 1024 < x.cursor.index

/-- Drops the candidates that are over. -/
def dropStale (x : Lexer) : Except Stop Lexer :=
  if x.candidates.any fun e => x.isStale e.2 && e.2.required then
    x.cursor.refuse .keyWithoutColon
  else .ok { x with candidates := x.candidates.filter fun e => !x.isStale e.2 }

/-- Drops the candidate among the open flow collections. -/
def dropCandidate (x : Lexer) : Except Stop Lexer :=
  match x.candidates.lookup x.flow with
  | none => .ok x
  | some k =>
    if k.required then x.cursor.refuse .keyWithoutColon
    else .ok { x with candidates := x.candidates.filter (·.1 != x.flow) }

/-- Makes the next token a candidate, if a key may start there. -/
def saveCandidate (x : Lexer) : Except Stop Lexer :=
  if !x.mayStartKey then .ok x
  else do
    let x ← x.dropCandidate
    let k : Candidate :=
      { number := x.taken + x.pending.length
        required := !x.inFlow && x.indent == x.column
        index := x.cursor.index, line := x.cursor.line, column := x.cursor.column }
    return { x with candidates := (x.flow, k) :: x.candidates }

/-! ### Indentation -/

/-- Ends the block collections that stand further right than a column. -/
def unwindFrom (column : Int) : List Int → Lexer → Lexer
  | [], x => x
  | previous :: rest, x =>
    if x.indent > column then
      unwindFrom column rest { x.push .blockEnd with indent := previous, outer := rest }
    else x

/-- Ends the block collections that stand further right than a column, outside flow collections. -/
def unwind (x : Lexer) (column : Int) : Lexer :=
  if x.inFlow then x else unwindFrom column x.outer x

/-- Whether a block collection starts at a column, and the lexer inside it. -/
def indentTo (x : Lexer) (column : Int) : Bool × Lexer :=
  if x.indent < column then (true, { x with indent := column, outer := x.indent :: x.outer })
  else (false, x)

/-- Starts a block collection at the cursor, unless one stands there or further right. -/
def openBlock (x : Lexer) (t : Token) : Lexer :=
  match x.indentTo x.column with
  | (true, x) => x.push t
  | (false, x) => x

/-! ### Blanks -/

/-- The place of the next token: spaces, comments and line ends are passed over. -/
def skipBlanks : Nat → Cursor → Bool → Cursor × Bool
  | 0, p, broken => (p, broken)
  | fuel + 1, p, broken =>
    let p := (p.dropWhile (· == ' ')).dropComment
    if p.head?.any isBreak then skipBlanks fuel p.step true else (p, broken)

/-- Goes to the next token; in a block, a key may start on a new line. -/
def toNextToken (x : Lexer) : Lexer :=
  let p := if x.cursor.index == 0 && x.cursor.head? == some '\uFEFF' then x.cursor.step
    else x.cursor
  let (p, broken) := skipBlanks (p.ahead.length + 1) p false
  { x with cursor := p, mayStartKey := x.mayStartKey || (broken && !x.inFlow) }

/-! ### Tokens -/

/-- The end of the text. -/
def readEnd (x : Lexer) : Except Stop Lexer := do
  let x ← (x.unwind (-1)).dropCandidate
  return { x.push .textEnd with mayStartKey := false, candidates := [], finished := true }

/-- A directive. -/
def readDirective (x : Lexer) : Except Stop Lexer := do
  let x ← (x.unwind (-1)).dropCandidate
  let (t, p) ← Token.readDirective x.cursor
  return { x.push t with cursor := p, mayStartKey := false }

/-- A separator of documents. -/
def readSeparator (x : Lexer) (t : Token) : Except Stop Lexer := do
  let x ← (x.unwind (-1)).dropCandidate
  return { x.pushIndicator 3 t with mayStartKey := false }

/-- The start of a flow collection, which may be a key. -/
def openFlow (x : Lexer) (t : Token) : Except Stop Lexer := do
  let x ← x.saveCandidate
  return { x.pushIndicator 1 t with flow := x.flow + 1, mayStartKey := true }

/-- The end of a flow collection. -/
def closeFlow (x : Lexer) (t : Token) : Except Stop Lexer := do
  let x ← x.dropCandidate
  return { x.pushIndicator 1 t with flow := x.flow - 1, mayStartKey := false }

/-- A comma between entries. -/
def readFlowEntry (x : Lexer) : Except Stop Lexer := do
  let x ← { x with mayStartKey := true }.dropCandidate
  return x.pushIndicator 1 .flowEntry

/-- The dash of an entry. -/
def readBlockEntry (x : Lexer) : Except Stop Lexer := do
  if !x.inFlow && !x.mayStartKey then x.cursor.refuse .misplacedEntry
  let x := if x.inFlow then x else x.openBlock .blockSequence
  let x ← { x with mayStartKey := true }.dropCandidate
  return x.pushIndicator 1 .blockEntry

/-- The question mark of a key. -/
def readKey (x : Lexer) : Except Stop Lexer := do
  if !x.inFlow && !x.mayStartKey then x.cursor.refuse .misplacedKey
  let x := if x.inFlow then x else x.openBlock .blockMapping
  let x ← { x with mayStartKey := !x.inFlow }.dropCandidate
  return x.pushIndicator 1 .key

/-- Puts tokens before the pending token of a number. -/
def insertAt (x : Lexer) (number : Nat) (ts : List Token) : Lexer :=
  let n := number - x.taken
  { x with pending := x.pending.take n ++ ts ++ x.pending.drop n }

/-- The colon of a value: what stands before it becomes a key, and may start a mapping. -/
def readValue (x : Lexer) : Except Stop Lexer :=
  match x.candidates.lookup x.flow with
  | some k =>
    let x := { x with
      candidates := x.candidates.filter (·.1 != x.flow)
      mayStartKey := false }
    let (starts, x) := if x.inFlow then (false, x) else x.indentTo k.column
    let x := x.insertAt k.number (if starts then [.blockMapping, .key] else [.key])
    .ok (x.pushIndicator 1 .value)
  | none => do
    if !x.inFlow && !x.mayStartKey then x.cursor.refuse .misplacedValue
    let x := if x.inFlow then x else x.openBlock .blockMapping
    let x ← { x with mayStartKey := !x.inFlow }.dropCandidate
    return x.pushIndicator 1 .value

/-- A token that may be a key or start one, read by a function on places. -/
def readKeyStart (x : Lexer) (read : Cursor → Except Stop (Token × Cursor)) :
    Except Stop Lexer := do
  let x ← x.saveCandidate
  let (t, p) ← read x.cursor
  return { x.push t with cursor := p, mayStartKey := false }

/-- A name with what it is the name of. -/
def readName (ofName : List Char → Token) (p : Cursor) : Except Stop (Token × Cursor) := do
  let (name, p) ← Token.readName p.step
  return (ofName name, p)

/-- A quoted scalar. -/
def readQuoted (p : Cursor) : Except Stop (Token × Cursor) := do
  let (text, p) ← Scalar.quotedText p
  return (.scalar text false, p)

/-- A block scalar, after which a key may start. -/
def readBlock (x : Lexer) : Except Stop Lexer := do
  let x ← { x with mayStartKey := true }.dropCandidate
  let (text, p) ← Scalar.blockText x.indent x.cursor
  return { x.push (.scalar text false) with cursor := p }

/-- A plain scalar; a key may start after it if a line ended. -/
def readPlain (x : Lexer) : Except Stop Lexer := do
  let x ← x.saveCandidate
  let (text, p, broken) := Scalar.plainText x.inFlow (x.indent + 1) x.cursor
  return { x.push (.scalar text true) with cursor := p, mayStartKey := broken }

/-- Reads one token. -/
def advance (x : Lexer) : Except Stop Lexer := do
  let x ← x.toNextToken.dropStale
  let x := x.unwind x.column
  let p := x.cursor
  match p.ahead with
  | [] => x.readEnd
  | c :: rest =>
    -- an indicator that stands alone, or anywhere in a flow collection
    let alone := x.inFlow || endsWord rest
    if c == '%' && p.column == 0 then x.readDirective
    else if p.column == 0 && isSeparator p.ahead then
      x.readSeparator (if c == '-' then .documentStart else .documentEnd)
    else if c == '[' then x.openFlow .flowSequence
    else if c == '\x7b' then x.openFlow .flowMapping
    else if c == ']' then x.closeFlow .flowSequenceEnd
    else if c == '\x7d' then x.closeFlow .flowMappingEnd
    else if c == ',' then x.readFlowEntry
    else if c == '-' && endsWord rest then x.readBlockEntry
    else if c == '?' && alone then x.readKey
    else if c == ':' && alone then x.readValue
    else if c == '*' then x.readKeyStart (readName .reference)
    else if c == '&' then x.readKeyStart (readName .anchor)
    else if c == '!' then x.readKeyStart Token.readTag
    else if (c == '|' || c == '>') && !x.inFlow then x.readBlock
    else if c == '\'' || c == '"' then x.readKeyStart readQuoted
    else if Scalar.startsPlain x.inFlow p.ahead then x.readPlain
    else p.refuse .unexpectedCharacter

/-- Whether the first pending token may still become a key, or none is pending. -/
def isUndecided (x : Lexer) : Bool :=
  x.pending.isEmpty || x.candidates.any (·.2.number == x.taken)

/-- Reads tokens until the first pending one is final; `fuel` bounds their number. -/
def prepareWith : Nat → Lexer → Except Stop Lexer
  | 0, x => .ok x
  | fuel + 1, x => do
    if x.finished then return x
    if x.pending.isEmpty then
      let x ← x.advance
      prepareWith fuel x
    else
      let x ← x.dropStale
      if x.isUndecided then
        let x ← x.advance
        prepareWith fuel x
      else return x

/-- Reads tokens until the first pending one is final. -/
def prepare (x : Lexer) : Except Stop Lexer := prepareWith (x.cursor.ahead.length + 2) x

/-- The first pending token. -/
def head (x : Lexer) : Token := x.pending.head?.getD .textEnd

/-- Hands out the first pending token. -/
def pop (x : Lexer) : Lexer := { x with pending := x.pending.drop 1, taken := x.taken + 1 }

end Lexer

end Phrasebook.Yaml
