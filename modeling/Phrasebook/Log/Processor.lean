import Phrasebook.Decimal.Notation
import Phrasebook.Log.Event
import Phrasebook.Text.Blank

namespace Phrasebook.Log

/-!
# Processors of records

Steps that a record goes through on its way to a sink.

* `truncateLargeValues` — long texts are cut, with a note of their length;
* `addAppInfo` — name and version of an application are added.
-/

/-- A step on the way of a record. -/
inductive Processor where
  | truncateLargeValues (limit : Int)
  | addAppInfo (name version : Value)

/-- The limit on texts that every record is held to. -/
def standardLimit : Int := 500

/-- The version of an application that gives none. -/
def unknownVersion : Value := .text "unknown"

/-- A text cut at the limit, with a note of the length it had. -/
def truncated (limit : Int) (text : List Char) : List Char :=
  Text.cut text limit ++ "...[truncated, ".toList ++ Decimal.natText text.length
    ++ " chars total]".toList

/-- A value, cut if it is a text past the limit. -/
def truncateValue (limit : Int) : Value → Value
  | .text s =>
    if limit < s.length then .text (String.ofList (truncated limit s.toList)) else .text s
  | v => v

/-- The record after a step. -/
def Processor.run : Processor → Entries → Entries
  | .truncateLargeValues limit, entries =>
    entries.map fun (k, v) => (k, truncateValue limit v)
  | .addAppInfo name version, entries =>
    (entries.insert (.text "app_name") name).insert (.text "app_version") version

/-- The record after several steps. -/
def process (steps : List Processor) (entries : Entries) : Entries :=
  steps.foldl (fun acc p => p.run acc) entries

end Phrasebook.Log
