import Phrasebook.Argument
import Phrasebook.Options.Values

namespace Phrasebook

/-!
# Translation calls

A call that has been read from a source file and found valid, and why one is not.

* `Default` — the default text, or the texts of the plural variants;
* `Call` — the parts of a valid call;
* `CallError` — why arguments make no valid call, or a call no translations;
* `CallError.detail?`, `CallError.message?` — the same in words, without the line of the call and
  with it.

An error in what the source says brings the line along on which the source says it.  The last three
kinds of errors are none of these: they come from the library itself and know of no line.
-/

/-- The default of a call. -/
inductive Default where
  | text (s : String)
  /-- The variants of a plural, in order. -/
  | variants (entries : List (String × String))
  deriving DecidableEq, Repr, Inhabited

namespace Default

/-- Whether the default has plural variants. -/
def isPluralized : Default → Bool
  | .text _ => false
  | .variants _ => true

/-- The variant that the key of a pluralized call is inferred from. -/
def primaryVariant : String := "other"

/-- The text that a key is inferred from. -/
def primaryText : Default → String
  | .text s => s
  | .variants entries => (entries.lookup primaryVariant).getD ""

end Default

/-- A valid call. -/
structure Call where
  method : String
  line : Option Int
  /-- The literal key; without one the key is inferred. -/
  key : Option String
  default : Default
  /-- The options bag, its marks removed. -/
  options : Entries
  deriving Inhabited

/-- The number of arguments that a call has at most. -/
def maxArguments : Nat := 3

/-- What is wrong with the arguments as a whole. -/
inductive SignatureError where
  | tooManyArguments (count : Nat)
  | nothingGiven
  | optionsNotObject
  | keyNotText
  | blankKey
  | blankDefault
  | badDefault
  /-- No key can be inferred from the text. -/
  | emptyKey (format : KeyFormat) (text : String)
  deriving DecidableEq, Repr

/-- Why arguments make no valid call, or a call no translations. -/
inductive CallError where
  | signature (cause : SignatureError) (line : Option Int)
  | unknownVariants (names : List String) (line : Option Int)
  | missingVariants (names : List String) (line : Option Int)
  | variantNotText (variant : Value) (line : Option Int)
  | missingCount (line : Option Int)
  | missingValue (placeholder : String) (line : Option Int)
  /-- The placeholder pattern matches without its capture group. -/
  | emptyCapture
  /-- A variant that is not declared has a name that is no text. -/
  | variantNotNamed
  /-- The text that a key is inferred from has no octets to take the checksum of. -/
  | unencodable (halves : Text.Utf8.Halves)
  deriving Inhabited

/-- The cause in words. -/
def SignatureError.detail : SignatureError → String
  | .tooManyArguments count =>
    "expected at most " ++ toString maxArguments ++ " arguments, got " ++ toString count
  | .nothingGiven => "expected a key or a default"
  | .optionsNotObject => "options must be an object literal"
  | .keyNotText => "key must be a string literal"
  | .blankKey => "key must not be blank"
  | .blankDefault => "cannot infer a key from a blank default"
  | .badDefault => "default must be a string or pluralization literal"
  | .emptyKey format text =>
    "cannot infer a " ++ format.name ++ " key from " ++ (Value.text text).describe

/-- The line that an error brings along. -/
def CallError.line : CallError → Option Int
  | .signature _ line | .unknownVariants _ line | .missingVariants _ line
  | .variantNotText _ line | .missingCount line | .missingValue _ line => line
  | .emptyCapture | .variantNotNamed | .unencodable _ => none

/-- The error in words, if it is one that calls are reported for. -/
def CallError.detail? : CallError → Option String
  | .signature cause _ => some cause.detail
  | .unknownVariants names _ =>
    some ("invalid pluralization keys: " ++ String.intercalate ", " names)
  | .missingVariants names _ =>
    some ("missing pluralization keys: " ++ String.intercalate ", " names)
  | .variantNotText variant _ =>
    some ("default for " ++ variant.describe ++ " must be a string literal")
  | .missingCount _ => some "pluralized call requires a count option"
  | .missingValue placeholder _ => some ("missing interpolation value: " ++ placeholder)
  | .emptyCapture | .variantNotNamed | .unencodable _ => none

/-- A detail with the line of the call in front, where there is one. -/
def withLine (line : Option Int) (detail : String) : String :=
  match line with
  | none => detail
  | some n => "line " ++ String.ofList (Decimal.intText n) ++ ": " ++ detail

/-- The words of an error with its line. -/
def CallError.message? (e : CallError) : Option String := e.detail?.map (withLine e.line)

end Phrasebook
