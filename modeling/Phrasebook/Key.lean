import Phrasebook.Crc32
import Phrasebook.Decimal.Notation
import Phrasebook.Text.Blank
import Phrasebook.Text.Case
import Phrasebook.Text.Quoted
import Phrasebook.Text.Utf8

namespace Phrasebook

/-!
# Keys of texts

Catalogues are keyed by what is inferred from the text itself, so a key must never change between
runs.  There are three formats:

* `Key.literal` — the text, cut at the limit;
* `Key.underscored` — the slug of the text, cut at the limit;
* `Key.hashed` — the slug with the checksum of the text after it; only the slug is cut, and a text
  without octets has none.

`Key.infer` normalises blanks first, so the layout of a text does not matter.
-/

/-- The formats of inferred keys. -/
inductive KeyFormat where
  | literal
  | underscored
  | hashed
  deriving DecidableEq, Repr

namespace KeyFormat

/-- The name of a format in configurations. -/
def name : KeyFormat → String
  | .literal => "literal"
  | .underscored => "underscored"
  | .hashed => "underscored_crc32"

/-- The format with a name. -/
def ofName? (name : String) : Option KeyFormat :=
  [KeyFormat.literal, .underscored, .hashed].find? (·.name == name)

end KeyFormat

namespace Key

open Text

/-! ### Slugs -/

/-- The characters of a slug: small ASCII letters, digits and the underscore. -/
def isSafe (c : Char) : Bool := c.isLower || c.isDigit || c == '_'

/-- Every run of unsafe characters becomes one underscore. -/
def replaceUnsafe : List Char → List Char
  | [] => []
  | c :: rest =>
    if isSafe c then c :: replaceUnsafe rest
    else match rest with
      | [] => ['_']
      | d :: _ => if isSafe d then '_' :: replaceUnsafe rest else replaceUnsafe rest

/-- The slug of a text: lower case, unsafe runs replaced, no underscore at either end. -/
def slug (text : List Char) : List Char := trimBy (· == '_') (replaceUnsafe (lower text))

/-- The start of a slug of at most `limit` characters, without underscores at its end. -/
def cutSlug (slug : List Char) (limit : Int) : List Char :=
  if 0 < limit then trimEndBy (· == '_') (slug.take limit.toNat) else []

/-! ### Checksums -/

/-- The text with its length in front, so that texts with the same slug differ. -/
def digestInput (text : List Char) : List Char := Decimal.natText text.length ++ ':' :: text

/-- Eight hexadecimal digits of the CRC-32 of a text and its length, or the halves for which the
    text has no octets. -/
def checksum (text : List Char) : Except Utf8.Halves (List Char) :=
  match Utf8.encode (digestInput text) with
  | .ok octets => .ok (hex 8 (Crc32.checksum octets).toNat)
  | .error halves => .error halves

/-- The characters that a checksum adds to a slug: an underscore and eight digits. -/
def hashLength : Int := 9

/-! ### Formats -/

/-- The first `limit` characters; a negative limit leaves that many off the end instead. -/
def literal (text : List Char) (limit : Int) : List Char := cut text limit

/-- The slug, cut. -/
def underscored (text : List Char) (limit : Int) : List Char := cutSlug (slug text) limit

/-- The slug, cut so that the checksum fits behind it, and the checksum. -/
def hashed (text : List Char) (limit : Int) : Except Utf8.Halves (List Char) :=
  let start := cutSlug (slug text) (limit - hashLength)
  match checksum text with
  | .ok digest => .ok (if start.isEmpty then digest else start ++ '_' :: digest)
  | .error halves => .error halves

/-- The key of a text as it stands. -/
def keyify (format : KeyFormat) (text : List Char) (limit : Int) :
    Except Utf8.Halves (List Char) :=
  match format with
  | .literal => .ok (literal text limit)
  | .underscored => .ok (underscored text limit)
  | .hashed => hashed text limit

/-- The key of a text, blanks normalised. -/
def infer (text : List Char) (format : KeyFormat) (limit : Int) :
    Except Utf8.Halves (List Char) :=
  keyify format (normalise text) limit

end Key

end Phrasebook
