import Phrasebook.Call.Validation

namespace Phrasebook

/-!
# Translations of a call

`Call.translations` projects a valid call into pairs of key and text, under the option values in
force when it is asked: one pair for a text, one for each plural variant, whose name is added to the
key.  Variants come in the order in which they are declared, then those that are no longer declared.
-/

namespace Call

/-- The key of a call: the literal one, else the one inferred from its text. -/
def baseKey (values : OptionValues) (c : Call) : Except CallError String :=
  match c.key with
  | some key => .ok key
  | none =>
    match Key.infer c.default.primaryText.toList values.keyFormat values.maxKeyLength with
    | .ok key => .ok (String.ofList key)
    | .error halves => .error (.unencodable halves)

/-- The variants in declared order, then the others in their own order. -/
def orderedVariants (declared : List String) (entries : List (String × String)) :
    List (String × String) :=
  let known := declared.filterMap fun name => (entries.lookup name).map fun s => (name, s)
  known ++ entries.filter fun e => !declared.contains e.1

/-- The pairs of key and text. -/
def translations (values : OptionValues) (c : Call) : Except CallError (List (String × String)) :=
  match c.baseKey values with
  | .error e => .error e
  | .ok key =>
    if key.isEmpty then
      .error (.signature (.emptyKey values.keyFormat c.default.primaryText) c.line)
    else match c.default with
      | .text s => .ok [(key, s)]
      | .variants entries =>
        .ok ((orderedVariants values.pluralizationKeys entries).map fun e =>
          (key ++ "." ++ e.1, e.2))

/-- The call in the notation of messages. -/
def describe (c : Call) : String :=
  let line := match c.line with
    | none => "None"
    | some n => String.ofList (Decimal.intText n)
  let key := match c.key with
    | none => Value.null
    | some key => .text key
  let default := match c.default with
    | .text s => Value.text s
    | .variants entries => .map (entries.map fun (name, s) => (Value.text name, Value.text s))
  "TranslateCall(method=" ++ (Value.text c.method).describe ++ ", line=" ++ line ++ ", key="
    ++ key.describe ++ ", default=" ++ default.describe ++ ")"

end Call

end Phrasebook
