import Phrasebook.Value.Description

namespace Phrasebook

/-!
# Arguments of a call

A source scanner hands over each argument of a call as one of three kinds, and nothing later looks
at the source again.

* `Value.mark`, `Value.unmark` — the marks on the entries of an object literal, at every depth, and
  their removal;
* `Argument.classify` — the argument that a value is;
* `Argument.toDict` — the plain dictionary of an object literal.
-/

namespace Value

mutual

/-- Marks a text as a string literal and a dictionary as an object literal; any other value, marked
    or plain, is left as it is. -/
def mark : Value → Value
  | .text s => .literal s
  | .map entries => .literalMap (markEntries entries)
  | v => v
termination_by structural v => v

/-- Marks the values of some entries. -/
def markEntries : List (Value × Value) → List (Value × Value)
  | [] => []
  | (k, v) :: rest => (k, mark v) :: markEntries rest
termination_by structural v => v

end

mutual

/-- Removes the mark from a string literal, and from an object literal at every depth. -/
def unmark : Value → Value
  | .literal s => .text s
  | .literalMap entries => .map (unmarkEntries entries)
  | v => v
termination_by structural v => v

/-- Removes the marks from the values of some entries. -/
def unmarkEntries : List (Value × Value) → List (Value × Value)
  | [] => []
  | (k, v) :: rest => (k, unmark v) :: unmarkEntries rest
termination_by structural v => v

end

end Value

/-- An argument of a call. -/
inductive Argument where
  /-- A string literal. -/
  | text (s : String)
  /-- An object literal, its entries marked. -/
  | map (entries : Entries)
  /-- Any other expression, by its source text. -/
  | unsupported (source : String)
  deriving Inhabited

namespace Argument

/-- The object literal with the given entries, which it marks. -/
def ofEntries (entries : Entries) : Argument := .map (Value.markEntries entries)

/-- The argument that a value is; what is no text, dictionary or marked argument is unsupported. -/
def classify : Value → Argument
  | .literal s | .text s => .text s
  | .literalMap entries => .map entries
  | .map entries => ofEntries entries
  | .expression source => .unsupported source
  | v => .unsupported v.describe

/-- The plain dictionary of an object literal's entries. -/
def toDict (entries : Entries) : Entries := Value.unmarkEntries entries

/-- The name of the kind of an argument. -/
def kind : Argument → String
  | .text _ => "string"
  | .map _ => "map"
  | .unsupported _ => "unsupported"

/-- The marked value that an argument is. -/
def toValue : Argument → Value
  | .text s => .literal s
  | .map entries => .literalMap entries
  | .unsupported source => .expression source

end Argument

end Phrasebook
