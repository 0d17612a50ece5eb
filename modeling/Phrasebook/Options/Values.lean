import Phrasebook.Key
import Phrasebook.Value.Description

namespace Phrasebook

/-!
# Option values

Four options govern how calls are validated and keyed.

* `OptionName` — the options, each with a canonical spelling and the one of configuration files;
* `Setting` — an option with a value of its type;
* `OptionValues` — a value for every option; `OptionValues.setting` reads one, `OptionValues.put`
  replaces one.
-/

/-- The key format that a value names. -/
def KeyFormat.ofValue? : Value → Option KeyFormat
  | .text s => ofName? s
  | _ => none

/-- The words for a value that names no key format. -/
def KeyFormat.unknownMessage (v : Value) : String := v.describe ++ " is not a valid KeyFormat"

/-- The options, in declaration order. -/
inductive OptionName where
  | keyFormat
  | maxKeyLength
  | pluralizationKeys
  | interpolationSyntax
  deriving DecidableEq, Repr

namespace OptionName

/-- All options in declaration order. -/
def all : List OptionName := [.keyFormat, .maxKeyLength, .pluralizationKeys, .interpolationSyntax]

/-- The canonical spelling. -/
def canonical : OptionName → String
  | .keyFormat => "inferred_key_format"
  | .maxKeyLength => "max_key_length"
  | .pluralizationKeys => "pluralization_keys"
  | .interpolationSyntax => "interpolation_syntax"

/-- The spelling of configuration files. -/
def inFiles : OptionName → String
  | .keyFormat => "inferredKeyFormat"
  | .maxKeyLength => "maxKeyLength"
  | .pluralizationKeys => "pluralizationKeys"
  | .interpolationSyntax => "interpolationSyntax"

/-- The option with a spelling. -/
def ofText? (s : String) : Option OptionName :=
  all.find? fun o => o.canonical == s || o.inFiles == s

/-- The option that a value names. -/
def ofValue? : Value → Option OptionName
  | .text s => ofText? s
  | _ => none

end OptionName

/-- An option with a value of its type. -/
inductive Setting where
  | keyFormat (format : KeyFormat)
  | maxKeyLength (limit : Int)
  | pluralizationKeys (names : List String)
  | interpolationSyntax (source : String)
  deriving DecidableEq, Repr

namespace Setting

/-- The option that is set. -/
def option : Setting → OptionName
  | .keyFormat _ => .keyFormat
  | .maxKeyLength _ => .maxKeyLength
  | .pluralizationKeys _ => .pluralizationKeys
  | .interpolationSyntax _ => .interpolationSyntax

/-- The value, as one that the option can be set to again. -/
def toValue : Setting → Value
  | .keyFormat format => .text format.name
  | .maxKeyLength limit => .int limit
  | .pluralizationKeys names => .tuple (names.map .text)
  | .interpolationSyntax source => .text source

end Setting

/-- A value for every option. -/
structure OptionValues where
  keyFormat : KeyFormat
  maxKeyLength : Int
  pluralizationKeys : List String
  interpolationSyntax : String
  deriving DecidableEq, Repr

namespace OptionValues

/-- The setting of one option. -/
def setting (v : OptionValues) : OptionName → Setting
  | .keyFormat => .keyFormat v.keyFormat
  | .maxKeyLength => .maxKeyLength v.maxKeyLength
  | .pluralizationKeys => .pluralizationKeys v.pluralizationKeys
  | .interpolationSyntax => .interpolationSyntax v.interpolationSyntax

/-- The values with one option set otherwise. -/
def put (v : OptionValues) : Setting → OptionValues
  | .keyFormat format => { v with keyFormat := format }
  | .maxKeyLength limit => { v with maxKeyLength := limit }
  | .pluralizationKeys names => { v with pluralizationKeys := names }
  | .interpolationSyntax source => { v with interpolationSyntax := source }

end OptionValues

end Phrasebook
