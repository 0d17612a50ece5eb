import Phrasebook.Calendar
import Phrasebook.Text.Quoted

namespace Phrasebook.Yaml

/-!
# Faults of YAML texts

A text is malformed when it breaks the rules of the notation, or asks for something that this
library does not build.  Apart from that, a scalar that is well formed may spell no value of the
type its tag demands.

* `Malformed` — the rule that is broken;
* `Fault` — either kind of fault;
* `Stop` — a fault of a text, with how far the text has been looked at when it is found;
* `Fault.message?` — the words for a scalar without a value, where there are any.
-/

/-- The rule that a text breaks. -/
inductive Malformed where
  /-- A control character stands in the text. -/
  | controlCharacter
  /-- No token starts with the character. -/
  | unexpectedCharacter
  /-- A directive cannot be read. -/
  | directive
  /-- The version is not 1, or it is given twice. -/
  | version
  /-- A tag handle is given twice, or not at all. -/
  | tagHandle
  | anchorName
  | tagText
  | blockHeader
  | unterminatedText
  | badEscape
  /-- A document separator stands in a quoted text. -/
  | separatorInText
  /-- A key that has to be one has no `:` on its line. -/
  | keyWithoutColon
  /-- An entry of a sequence, a key or a value where none may stand. -/
  | misplacedEntry
  | misplacedKey
  | misplacedValue
  /-- The token does not continue what has been read. -/
  | unexpectedToken
  | undefinedAlias
  | repeatedAnchor
  | severalDocuments
  /-- No type of value belongs to the tag. -/
  | unknownTag
  /-- A scalar, a sequence or a mapping where the tag demands another kind of node. -/
  | wrongKind
  /-- What is merged into a mapping is no mapping. -/
  | badMerge
  /-- A collection is the key of a mapping. -/
  | collectionAsKey
  | badBase64
  deriving DecidableEq, Repr

/-- Why a text has no value. -/
inductive Fault where
  | malformed (rule : Malformed)
  /-- An escape names a code past the last character. -/
  | codeTooLarge (code : Nat)
  /-- A number without digits. -/
  | emptyNumber
  | notInteger (base : Nat) (text : List Char)
  /-- An integer of more digits than can be read. -/
  | longInteger (digits : Nat)
  | notFloat (text : List Char)
  /-- A sexagesimal number past the largest one. -/
  | floatOverflow
  | notTruth
  | notMoment
  /-- A moment is asked of a mapping. -/
  | momentOfMapping
  | calendar (fault : CalendarFault)
  /-- The text of a node is that of its own default entry. -/
  | cyclic
  deriving DecidableEq, Repr

/-- Where reading a text comes to a stop, and why. -/
structure Stop where
  fault : Fault
  /-- The index of the last character that has been looked at. -/
  index : Nat
  deriving DecidableEq, Repr

/-- The words for an integer with too many digits. -/
def longIntegerText (digits : Nat) : String :=
  "Exceeds the limit (4300 digits) for integer string conversion: value has " ++ toString digits
    ++ " digits; use sys.set_int_max_str_digits() to increase the limit"

/-- The words for a scalar without a value. -/
def Fault.message? : Fault → Option String
  | .codeTooLarge code =>
    if code < 0x80000000 then some "chr() arg not in range(0x110000)" else none
  | .notInteger base text =>
    some ("invalid literal for int() with base " ++ toString base ++ ": "
      ++ String.ofList ((Text.quoted text).take 200))
  | .longInteger digits => some (longIntegerText digits)
  | .notFloat text =>
    some ("could not convert string to float: " ++ String.ofList (Text.quoted text))
  | .calendar fault => some fault.message
  | _ => none

end Phrasebook.Yaml
