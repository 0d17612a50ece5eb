import Phrasebook.Yaml.Number
import Phrasebook.Yaml.Stamp

namespace Phrasebook.Yaml

/-!
# Tags

A tag says what type of value a node stands for.

* `Tag.ofName` — the type of a full tag name; all but those of the standard are unknown;
* `Tag.ofPlain` — the type of a plain scalar without a tag, by its form.
-/

/-- A type of value. -/
inductive Tag where
  | null
  | bool
  | int
  | float
  | str
  | binary
  | timestamp
  | seq
  | map
  | set
  /-- A list of pairs, ordered mapping or not. -/
  | pairs
  /-- The key `<<`, whose mapping is merged into the one that it stands in. -/
  | merge
  /-- The key `=`, whose value stands for the mapping where a scalar is demanded. -/
  | default
  | unknown (name : List Char)
  deriving DecidableEq, Repr

namespace Tag

/-- What the names of standard tags start with. -/
def standardStart : List Char := "tag:yaml.org,2002:".toList

/-- The standard tags by the rest of their names. -/
def standard : List (List Char × Tag) :=
  [("null".toList, .null), ("bool".toList, .bool), ("int".toList, .int), ("float".toList, .float),
    ("str".toList, .str), ("binary".toList, .binary), ("timestamp".toList, .timestamp),
    ("seq".toList, .seq), ("map".toList, .map), ("set".toList, .set), ("omap".toList, .pairs),
    ("pairs".toList, .pairs), ("merge".toList, .merge), ("value".toList, .default)]

/-- The tag of a full name. -/
def ofName (name : List Char) : Tag :=
  if standardStart.isPrefixOf name then
    (standard.lookup (name.drop standardStart.length)).getD (.unknown name)
  else .unknown name

/-- The plain scalars that are truth values, with those values in lower case. -/
def truthWords : List (List Char) :=
  ["yes", "Yes", "YES", "no", "No", "NO", "true", "True", "TRUE", "false", "False", "FALSE", "on",
    "On", "ON", "off", "Off", "OFF"].map String.toList

/-- The plain scalars that are null. -/
def nullWords : List (List Char) := ["", "~", "null", "Null", "NULL"].map String.toList

/-- The type of a plain scalar. -/
def ofPlain (text : List Char) : Tag :=
  if truthWords.contains text then .bool
  else if Number.isFloat text then .float
  else if Number.isInteger text then .int
  else if text == ['<', '<'] then .merge
  else if nullWords.contains text then .null
  else if (Stamp.read? text).any Stamp.isCanonical then .timestamp
  else if text == ['='] then .default
  else .str

/-- Whether values of the type cannot be keys of a mapping. -/
def isCollection : Tag → Bool
  | .seq | .map | .set | .pairs => true
  | _ => false

end Tag

end Phrasebook.Yaml
