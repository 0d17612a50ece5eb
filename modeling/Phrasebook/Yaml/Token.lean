import Phrasebook.Text.Utf8
import Phrasebook.Yaml.Number
import Phrasebook.Yaml.Scalar.Block
import Phrasebook.Yaml.Scalar.Plain

namespace Phrasebook.Yaml

/-!
# Tokens

The tokens of a text and how those that start with an indicator are read.  Indentation gives tokens
too: the start and the end of every block collection.
-/

/-- A directive that has a meaning here. -/
inductive Directive where
  | version (major : Nat)
  | handle (handle start : List Char)
  /-- Any other directive. -/
  | ignored
  deriving DecidableEq, Repr

/-- A token. -/
inductive Token where
  | textEnd
  | directive (d : Directive)
  | documentStart
  | documentEnd
  | blockSequence
  | blockMapping
  | blockEnd
  | flowSequence
  | flowSequenceEnd
  | flowMapping
  | flowMappingEnd
  | blockEntry
  | flowEntry
  | key
  | value
  /-- The name of a node that has been read. -/
  | reference (name : List Char)
  | anchor (name : List Char)
  /-- A tag as handle and rest; without a handle the rest is the whole name. -/
  | tag (handle : Option (List Char)) (rest : List Char)
  | scalar (text : List Char) (plain : Bool)
  deriving DecidableEq, Repr

namespace Token

/-! ### Names and tags -/

/-- The name of an alias or anchor, from after its indicator. -/
def readName (p : Cursor) : Except Stop (List Char × Cursor) :=
  let (name, q) := p.span isNameChar
  if name.isEmpty || !(endsWord q.ahead || q.head?.any "?:,]\x7d%@\x60".toList.contains) then
    q.refuse .anchorName
  else .ok (name, q)

/-- The octets of escapes such as `%20`. -/
def readOctets : Nat → Cursor → Except Stop (List UInt8 × Cursor)
  | 0, p => .ok ([], p)
  | fuel + 1, p =>
    match p.ahead with
    | '%' :: a :: b :: _ =>
      if !isHexDigit a || !isHexDigit b then (p.step.dropWhile isHexDigit).refuse .tagText
      else do
        let octet := ((Decimal.naturalOf 16 0 [a, b]).getD 0).toUInt8
        let (more, p) ← readOctets fuel (p.skip 3)
        return (octet :: more, p)
    | '%' :: _ => (p.step.dropWhile isHexDigit).refuse .tagText
    | _ => .ok ([], p)

/-- The characters of tags besides letters and digits; `%` starts an escape. -/
def isTagChar (c : Char) : Bool := c.isAlphanum || "-;/?:@&=+$,_.!~*'()[]".toList.contains c

/-- Characters of a tag with their escapes replaced. -/
def readTagChars : Nat → Cursor → Except Stop (List Char × Cursor)
  | 0, p => .ok ([], p)
  | fuel + 1, p =>
    match p.ahead with
    | [] => .ok ([], p)
    | c :: _ =>
      if c == '%' then do
        let (octets, p) ← readOctets p.ahead.length p
        match Text.Utf8.decode octets with
        | .error _ => p.refuse .tagText
        | .ok text =>
          let (more, p) ← readTagChars fuel p
          return (text ++ more, p)
      else if isTagChar c then do
        let (more, p) ← readTagChars fuel p.step
        return (c :: more, p)
      else .ok ([], p)

/-- Characters of a tag, at least one of them. -/
def readTagText (p : Cursor) : Except Stop (List Char × Cursor) := do
  let (text, q) ← readTagChars (p.ahead.length + 1) p
  if q.index == p.index then q.refuse .tagText
  return (text, q)

/-- A handle of tags: one `!`, or a name between two. -/
def readHandle (p : Cursor) : Except Stop (List Char × Cursor) :=
  match p.ahead with
  | '!' :: rest =>
    if rest.head? == some ' ' then .ok (['!'], p.step)
    else
      let (name, q) := p.step.span isNameChar
      if q.head? == some '!' then .ok ('!' :: name ++ ['!'], q.step)
      else q.refuse .tagText
  | _ => p.refuse .tagText

/-- A tag. -/
def readTag (p : Cursor) : Except Stop (Token × Cursor) := do
  let (token, q) ← match p.ahead.drop 1 with
    | '<' :: _ => do
      let (name, q) ← readTagText (p.skip 2)
      if q.head? != some '>' then q.refuse .tagText
      pure (Token.tag none name, q.step)
    | rest =>
      if endsWord rest then pure (Token.tag none ['!'], p.step)
      else do
        let word := rest.takeWhile fun c => !(c == ' ' || isBreak c)
        let (handle, q) ← if word.contains '!' then readHandle p else pure (['!'], p.step)
        let (text, q) ← readTagText q
        pure (Token.tag (some handle) text, q)
  if !endsTag q.ahead then q.refuse .tagText
  return (token, q)

/-! ### Directives -/

/-- The number of a version. -/
def readVersionNumber (p : Cursor) : Except Stop (Nat × Cursor) :=
  let (digits, q) := p.span Char.isDigit
  if digits.isEmpty then q.refuse .directive
  else if Number.digitLimit < digits.length then .error ⟨.longInteger digits.length, q.index⟩
  else .ok ((Decimal.naturalOf 10 0 digits).getD 0, q)

/-- A version, `1.1` say. -/
def readVersion (p : Cursor) : Except Stop (Directive × Cursor) := do
  let (major, p) ← readVersionNumber (p.dropWhile (· == ' '))
  if p.head? != some '.' then p.refuse .directive
  let (_, p) ← readVersionNumber p.step
  if !endsTag p.ahead then p.refuse .directive
  return (.version major, p)

/-- A handle and what it stands for. -/
def readHandleMeaning (p : Cursor) : Except Stop (Directive × Cursor) := do
  let (handle, p) ← readHandle (p.dropWhile (· == ' '))
  if p.head? != some ' ' then p.refuse .directive
  let (start, p) ← readTagText (p.dropWhile (· == ' '))
  if !endsTag p.ahead then p.refuse .directive
  return (.handle handle start, p)

/-- A directive with its line. -/
def readDirective (p : Cursor) : Except Stop (Token × Cursor) := do
  let (name, p) := p.step.span isNameChar
  if name.isEmpty || !endsTag p.ahead then p.refuse .directive
  let (d, p) ←
    if name == "YAML".toList then readVersion p
    else if name == "TAG".toList then readHandleMeaning p
    else pure (.ignored, p.dropWhile (!isBreak ·))
  match p.dropRestOfLine? with
  | some p => return (.directive d, p)
  | none => (p.dropWhile (· == ' ')).refuse .directive

end Token

end Phrasebook.Yaml
