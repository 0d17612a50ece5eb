import Phrasebook.Call.Signature
import Phrasebook.Inflection
import Phrasebook.Options.Resolver
import Phrasebook.Pattern.Matching

namespace Phrasebook

/-!
# Validation of calls

`Call.ofArguments` takes the arguments of a call to the valid call that they are, or to the first
error in them, which brings the line of the call along.

* `placeholders` — the names that the interpolation pattern finds in a text;
* `checkPlaceholders` — each of them has a value in the options bag;
* `checkVariants` — a plural map has declared variants only, the essential ones among them, each
  with a text;
* `expand` — a single word with a count becomes a plural.
-/

/-- The option that gives the number of things. -/
def countOption : String := "count"

/-- What the interpolation pattern captures in a text, match by match. -/
def placeholders (interpolation : String) (text : String) : List (Option String) :=
  match Pattern.read interpolation.toList with
  | .ok pattern =>
    (pattern.captures text.toList).map (Option.map fun s => String.ofList (Text.trim s))
  | .error _ => []

section

variable (line : Option Int)

/-- Checks that each placeholder has a value in the bag. -/
def checkPlaceholders (options : Entries) : List (Option String) → Except CallError Unit
  | [] => .ok ()
  | none :: _ => .error .emptyCapture
  | some name :: rest =>
    if options.contains (.text name) then checkPlaceholders options rest
    else .error (.missingValue name line)

/-- Checks the placeholders of some texts in order. -/
def checkTexts (interpolation : String) (options : Entries) : List String → Except CallError Unit
  | [] => .ok ()
  | text :: rest =>
    match checkPlaceholders line options (placeholders interpolation text) with
    | .ok () => checkTexts interpolation options rest
    | .error e => .error e

/-- The names among the entries of a plural map that are not declared. -/
def foreignNames (declared : List String) (entries : Entries) : List Value :=
  entries.keys.filter fun k => !declared.any fun name => k.sameKey (.text name)

/-- The texts of a plural map whose names have been checked. -/
def variantTexts : Entries → Except CallError (List (String × String))
  | [] => .ok []
  | (k, v) :: rest =>
    match k, v with
    | .text name, .literal s =>
      match variantTexts rest with
      | .ok others => .ok ((name, s) :: others)
      | .error e => .error e
    | _, _ => .error (.variantNotText k line)

/-- The variants of a plural map. -/
def pluralVariants (declared : List String) (entries : Entries) :
    Except CallError (List (String × String)) :=
  match foreignNames declared entries with
  | [] =>
    match essentialVariants.filter fun name => !entries.contains (.text name) with
    | [] => variantTexts line entries
    | missing => .error (.missingVariants missing line)
  | foreign =>
    match Value.texts? foreign with
    | some names => .error (.unknownVariants names line)
    | none => .error .variantNotNamed

/-- The default that an argument gives, checked under the option values in force. -/
def Default.ofArgument (values : OptionValues) (key : Option String) (options : Entries) :
    Argument → Except CallError Default
  | .text s =>
    match checkTexts line values.interpolationSyntax options [s] with
    | .ok () => .ok (.text s)
    | .error e => .error e
  | .map entries =>
    match pluralVariants line values.pluralizationKeys entries with
    | .error e => .error e
    | .ok texts =>
      if key.isNone && isBlankText (Default.variants texts).primaryText then
        .error (.signature .blankDefault line)
      else
        match checkTexts line values.interpolationSyntax options (texts.map (·.2)) with
        | .error e => .error e
        | .ok () =>
          if options.contains (.text countOption) then .ok (.variants texts)
          else .error (.missingCount line)
  | .unsupported _ => .error (.signature .badDefault line)

end

/-- Whether a text is one word: word characters and hyphens, the first no digit; a line feed may
    follow. -/
def isSingleWord (text : List Char) : Bool :=
  let word := if text.getLast? == some '\n' then text.dropLast else text
  match word with
  | [] => false
  | c :: _ => !Text.isDigit c && word.all fun c => Text.isWordChar c || c == '-'

/-- The plural variants of a single word. -/
def wordVariants (word : String) : List (String × String) :=
  [("one", "1 " ++ word),
    ("other", "%\x7bcount\x7d " ++ String.ofList (Inflection.pluralize word.toList))]

/-- Expands a single word into plural variants where the bag has a count. -/
def Default.expand (options : Entries) : Default → Default
  | .text s =>
    if options.contains (.text countOption) && isSingleWord s.toList then .variants (wordVariants s)
    else .text s
  | .variants entries => .variants entries

/-- The valid call that arguments are, under the option values in force. -/
def Call.ofArguments (values : OptionValues) (method : String) (line : Option Int)
    (args : List Argument) : Except CallError Call :=
  match Signature.resolve values.pluralizationKeys line args with
  | .error e => .error e
  | .ok ⟨key, default, bag⟩ =>
    let options := Argument.toDict (bag.getD [])
    match Default.ofArgument line values key options default with
    | .error e => .error e
    | .ok default => .ok ⟨method, line, key, default.expand options, options⟩

end Phrasebook
