import Phrasebook.Text.Quoted

namespace Phrasebook.Text

/-!
# UTF-8 and line ends

* `octetsOf` — the octets of a sequence of characters;
* `encode` — the octets of a text, which has none if a half of a surrogate pair stands in it alone;
* `decode` — the text of a sequence of octets, or the first fault in it;
* `decodePieces` — the same for a sequence that arrives in pieces of a fixed size: the pieces before a
  fault give their text, and its position is counted from the first octet still undecided when the
  piece arrived;
* `unifyLineEnds` — a text that has been read, with line ends of one kind.
-/

namespace Utf8

/-- The octets of one character. -/
def encodeChar (c : Char) : List UInt8 :=
  let n := c.toNat
  if n < 0x80 then [n.toUInt8]
  else if n < 0x800 then [(0xC0 + n / 0x40).toUInt8, (0x80 + n % 0x40).toUInt8]
  else if n < 0x10000 then
    [(0xE0 + n / 0x1000).toUInt8, (0x80 + n / 0x40 % 0x40).toUInt8, (0x80 + n % 0x40).toUInt8]
  else
    [(0xF0 + n / 0x40000).toUInt8, (0x80 + n / 0x1000 % 0x40).toUInt8,
      (0x80 + n / 0x40 % 0x40).toUInt8, (0x80 + n % 0x40).toUInt8]

/-- The octets of a sequence of characters. -/
def octetsOf (text : List Char) : List UInt8 := text.flatMap encodeChar

/-- Halves of surrogate pairs in a text: `count` of them in a row, the first at `position`. -/
structure Halves where
  position : Nat
  count : Nat
  deriving DecidableEq, Repr

/-- The first halves in a text whose first character is at `position`. -/
def halvesFrom? (position : Nat) : List Char → Option Halves
  | [] => none
  | c :: rest =>
    if isHalf c then some ⟨position, (rest.takeWhile isHalf).length + 1⟩
    else halvesFrom? (position + 1) rest

/-- The octets of a text; halves have none. -/
def encode (text : List Char) : Except Halves (List UInt8) :=
  match halvesFrom? 0 text with
  | some halves => .error halves
  | none => .ok (octetsOf text)

/-- What is wrong with an octet. -/
inductive Reason where
  /-- It starts no character. -/
  | invalidStart
  /-- It does not continue the character before it. -/
  | invalidContinuation
  /-- The octets end inside a character. -/
  | unexpectedEnd
  deriving DecidableEq, Repr

/-- The octets at fault: `count` of them from `position` on, the first of value `octet`. -/
structure Fault where
  octet : UInt8
  position : Nat
  count : Nat
  reason : Reason
  deriving DecidableEq, Repr

/-- The reason in words. -/
def Reason.text : Reason → String
  | .invalidStart => "invalid start byte"
  | .invalidContinuation => "invalid continuation byte"
  | .unexpectedEnd => "unexpected end of data"

/-- The place of the octets at fault. -/
def Fault.place (f : Fault) : String :=
  if f.count == 1 then
    "byte 0x" ++ String.ofList (hex 2 f.octet.toNat) ++ " in position " ++ toString f.position
  else
    "bytes in position " ++ toString f.position ++ "-" ++ toString (f.position + f.count - 1)

/-- The fault in words. -/
def Fault.message (f : Fault) : String :=
  "'utf-8' codec can't decode " ++ f.place ++ ": " ++ f.reason.text

/-- The outcome of reading one character off the front. -/
inductive Step where
  /-- A character of `width` octets. -/
  | char (c : Char) (width : Nat)
  /-- `count` octets that cannot be read. -/
  | fault (reason : Reason) (count : Nat)
  /-- The octets end inside a character that has been well formed so far. -/
  | cut
  deriving DecidableEq, Repr

/-- Whether an octet continues a character. -/
def isTail (b : UInt8) : Bool := 0x80 ≤ b && b < 0xC0

/-- Whether `second` may follow `first`: no overlong form, no surrogate, nothing past U+10FFFF. -/
def mayFollow (first second : UInt8) : Bool :=
  isTail second
    && !(first == 0xE0 && second < 0xA0) && !(first == 0xED && 0xA0 ≤ second)
    && !(first == 0xF0 && second < 0x90) && !(first == 0xF4 && 0x90 ≤ second)

/-- The payload of a continuing octet. -/
def payload (b : UInt8) : Nat := b.toNat % 0x40

/-- Reads the character that `first` starts; `rest` is what follows it. -/
def step (first : UInt8) (rest : List UInt8) : Step :=
  if first < 0x80 then .char (Char.ofNat first.toNat) 1
  else if first < 0xC2 || 0xF5 ≤ first then .fault .invalidStart 1
  else match rest with
    | [] => .cut
    | b :: rest =>
      if !mayFollow first b then .fault .invalidContinuation 1
      else if first < 0xE0 then .char (Char.ofNat (first.toNat % 0x20 * 0x40 + payload b)) 2
      else match rest with
        | [] => .cut
        | c :: rest =>
          if !isTail c then .fault .invalidContinuation 2
          else if first < 0xF0 then
            .char (Char.ofNat (first.toNat % 0x10 * 0x1000 + payload b * 0x40 + payload c)) 3
          else match rest with
            | [] => .cut
            | d :: _ =>
              if !isTail d then .fault .invalidContinuation 3
              else .char (Char.ofNat (first.toNat % 8 * 0x40000 + payload b * 0x1000
                + payload c * 0x40 + payload d)) 4

/-- Decodes from `position` on, skipping the `skip` octets of a character already read.  Stops
    before a character that the octets end in. -/
def decodeFrom (position : Nat) : Nat → List UInt8 → Except Fault (List Char × List UInt8)
  | _, [] => .ok ([], [])
  | skip + 1, _ :: rest => decodeFrom (position + 1) skip rest
  | 0, b :: rest =>
    match step b rest with
    | .char c width => do
      let (text, left) ← decodeFrom (position + 1) (width - 1) rest
      return (c :: text, left)
    | .fault reason count => .error ⟨b, position, count, reason⟩
    | .cut => .ok ([], b :: rest)

/-- The fault of octets left over at the end. -/
def finish (position : Nat) : List UInt8 → Except Fault Unit
  | [] => .ok ()
  | b :: rest => .error ⟨b, position, rest.length + 1, .unexpectedEnd⟩

/-- The text of a sequence of octets. -/
def decode (octets : List UInt8) : Except Fault (List Char) := do
  let (text, left) ← decodeFrom 0 0 octets
  finish (octets.length - left.length) left
  return text

/-- The text of octets that arrive piece by piece: that of the pieces before the first fault. -/
structure Arrived where
  text : List Char
  fault : Option Fault
  deriving DecidableEq, Repr

/-- Decodes octets that arrive `size` at a time, `pending` being the undecided rest of what has
    arrived; `fuel` bounds the number of pieces. -/
def decodePiecesFrom (size : Nat) : Nat → List UInt8 → List UInt8 → Arrived
  | 0, _, _ => ⟨[], none⟩
  | fuel + 1, pending, octets =>
    if octets.isEmpty then
      match finish 0 pending with
      | .ok () => ⟨[], none⟩
      | .error fault => ⟨[], some fault⟩
    else
      match decodeFrom 0 0 (pending ++ octets.take size) with
      | .error fault => ⟨[], some fault⟩
      | .ok (text, left) =>
        let rest := decodePiecesFrom size fuel left (octets.drop size)
        { rest with text := text ++ rest.text }

/-- The text of a sequence of octets that arrives `size` octets at a time. -/
def decodePieces (size : Nat) (octets : List UInt8) : Arrived :=
  decodePiecesFrom size (octets.length + 1) [] octets

end Utf8

/-- A text with every line end, be it a carriage return, a line feed or the two together, as one
    line feed. -/
def unifyLineEnds : List Char → List Char
  | [] => []
  | '\r' :: rest =>
    match rest with
    | '\n' :: _ => unifyLineEnds rest
    | _ => '\n' :: unifyLineEnds rest
  | c :: rest => c :: unifyLineEnds rest

end Phrasebook.Text
