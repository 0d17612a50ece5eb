import Phrasebook.Decimal.Lax
import Phrasebook.Options.Values
import Phrasebook.Pattern.Reader

namespace Phrasebook

/-!
# Validation of option values

Any value may be offered for an option; `OptionName.check` takes it to the setting it stands for, or
to the reasons against it.

* a key format is given by its exact name;
* a key length is an integer from 16 to 1000, also given as a whole number or as text;
* plural variants are a list, tuple or set of texts, none empty, with `one` and `other` among them.
  Repetitions are dropped; a set has no order of its own and gets the variants of the standard
  first, in their order, and then the others sorted;
* an interpolation syntax is a pattern with exactly one capture group.

`OptionValues.ofRaw` validates all four options together.
-/

/-- A reason against a value. -/
inductive Reason where
  | required
  | notFormat
  | notInteger
  | notFinite
  | fractional
  | unreadableInteger
  | longInteger
  | tooSmall
  | tooLarge
  | notSequence
  | notText
  | notUnicode
  | emptyVariant
  | missingVariants (names : List String)
  | notPattern (fault : Pattern.Fault) (source : String)
  | notOneGroup
  deriving DecidableEq, Repr

namespace Reason

/-- The reason in words. -/
def message : Reason → String
  | .required => "Field required"
  | .notFormat => "Input should be 'literal', 'underscored' or 'underscored_crc32'"
  | .notInteger => "Input should be a valid integer"
  | .notFinite => "Input should be a finite number"
  | .fractional => "Input should be a valid integer, got a number with a fractional part"
  | .unreadableInteger => "Input should be a valid integer, unable to parse string as an integer"
  | .longInteger => "Unable to parse input string as an integer, exceeded maximum size"
  | .tooSmall => "Input should be greater than or equal to 16"
  | .tooLarge => "Input should be less than or equal to 1000"
  | .notSequence => "Input should be a valid tuple"
  | .notText => "Input should be a valid string"
  | .notUnicode =>
    "Input should be a valid string, unable to parse raw data as a unicode string"
  | .emptyVariant => "Value error, variant names must not be empty"
  | .missingVariants names =>
    "Value error, missing essential variants: " ++ String.intercalate ", " names
  | .notPattern fault source =>
    let words := String.ofList (fault.text source.toList)
    match fault with
    | .incompatibleFlags => "Value error, " ++ words
    | _ => "Value error, not a valid regular expression: " ++ words
  | .notOneGroup => "Value error, pattern must have exactly one capture group"

end Reason

/-- Why a value or a set of values is turned down. -/
inductive Rejection where
  /-- Reasons against the values of some options. -/
  | failures (list : List (OptionName × Reason))
  /-- A set whose members have no order. -/
  | unorderedMembers
  /-- A bound of a repetition in a pattern is past the limit. -/
  | repetitionTooLarge
  deriving DecidableEq, Repr

/-! ### Single options -/

/-- Why the value of one option is turned down. -/
inductive Objection where
  | reasons (list : List Reason)
  | unorderedMembers
  | repetitionTooLarge
  deriving DecidableEq, Repr

/-- The text that a value is, or that its octets spell. -/
def Value.asText : Value → Except Reason String
  | .text s => .ok s
  | .bytes octets =>
    match Text.Utf8.decode octets with
    | .ok s => .ok (String.ofList s)
    | .error _ => .error .notUnicode
  | _ => .error .notText

/-- The integer that a text gives. -/
def integerOfText (text : List Char) : Except Reason Int :=
  match Decimal.readLaxInt text with
  | .ok n => .ok n
  | .error .unreadable => .error .unreadableInteger
  | .error .tooLong => .error .longInteger

/-- The integer that a value gives. -/
def Value.asInteger : Value → Except Reason Int
  | .int n => .ok n
  | .bool b => .ok (if b then 1 else 0)
  | .float x =>
    if !x.isFinite then .error .notFinite
    else match x.toInt? with
      | some n => .ok n
      | none => .error .fractional
  | .text s => integerOfText s.toList
  | .bytes octets =>
    match Text.Utf8.decode octets with
    | .ok s => integerOfText s
    | .error _ => .error .unreadableInteger
  | _ => .error .notInteger

/-- The plural variants of the standard, in order. -/
def standardVariants : List String := ["zero", "one", "two", "few", "many", "other"]

/-- The variants that no plural map goes without. -/
def essentialVariants : List String := ["one", "other"]

/-- The members of a set in an order of their own: standard variants first, the others sorted. -/
def orderVariants? (members : List Value) : Option (List Value) :=
  let known := standardVariants.filter fun name => members.any (·.sameKey (.text name))
  let others := members.filter fun v => !known.any fun name => v.sameKey (.text name)
  (Value.sort? others).map (known.map Value.text ++ ·)

/-- The members that a value lists. -/
def Value.asMembers : Value → Except Objection (List Value)
  | .list items | .tuple items => .ok items
  | .set members =>
    match orderVariants? members with
    | some items => .ok items
    | none => .error .unorderedMembers
  | _ => .error (.reasons [.notSequence])

/-- The names that values spell, or a reason for each value that spells none. -/
def variantNames (items : List Value) : Except (List Reason) (List String) :=
  match items.filterMap fun v => match v.asText with
    | .ok _ => none
    | .error reason => some reason with
  | [] => .ok (items.filterMap fun v => v.asText.toOption)
  | reasons => .error reasons

/-- Names without repetitions, each at its first place, if they can serve as plural variants. -/
def checkVariants (names : List String) : Except Reason (List String) :=
  if names.any String.isEmpty then .error .emptyVariant
  else match essentialVariants.filter fun name => !names.contains name with
    | [] => .ok names.eraseDups
    | missing => .error (.missingVariants missing)

/-- A pattern with one capture group. -/
def checkSyntax (source : String) : Except Objection String :=
  match Pattern.read source.toList with
  | .ok pattern => if pattern.groups == 1 then .ok source else .error (.reasons [.notOneGroup])
  | .error .repetitionTooLarge => .error .repetitionTooLarge
  | .error fault => .error (.reasons [.notPattern fault source])

/-- Length limits of keys. -/
def checkLength (n : Int) : Except Reason Int :=
  if n < 16 then .error .tooSmall else if 1000 < n then .error .tooLarge else .ok n

/-- The setting that a value stands for. -/
def OptionName.check (o : OptionName) (v : Value) : Except Objection Setting :=
  match o with
  | .keyFormat =>
    match v with
    | .text s =>
      match KeyFormat.ofName? s with
      | some format => .ok (.keyFormat format)
      | none => .error (.reasons [.notFormat])
    | _ => .error (.reasons [.notFormat])
  | .maxKeyLength =>
    match v.asInteger >>= checkLength with
    | .ok n => .ok (.maxKeyLength n)
    | .error reason => .error (.reasons [reason])
  | .pluralizationKeys =>
    match v.asMembers with
    | .error objection => .error objection
    | .ok items =>
      match variantNames items with
      | .error reasons => .error (.reasons reasons)
      | .ok names =>
        match checkVariants names with
        | .ok names => .ok (.pluralizationKeys names)
        | .error reason => .error (.reasons [reason])
  | .interpolationSyntax =>
    match v.asText with
    | .error reason => .error (.reasons [reason])
    | .ok source =>
      match checkSyntax source with
      | .ok source => .ok (.interpolationSyntax source)
      | .error objection => .error objection

/-! ### All options together -/

/-- The value offered for an option, if one is. -/
abbrev RawOptions := OptionName → Option Value

/-- The settings of some options and the reasons against others; an objection that is not a reason
    ends the validation at once. -/
def checkOptions (raw : RawOptions) :
    List OptionName → Except Rejection (List Setting × List (OptionName × Reason))
  | [] => .ok ([], [])
  | o :: rest =>
    match raw o with
    | none =>
      match checkOptions raw rest with
      | .ok (settings, failures) => .ok (settings, (o, .required) :: failures)
      | .error e => .error e
    | some v =>
      match o.check v with
      | .ok s =>
        match checkOptions raw rest with
        | .ok (settings, failures) => .ok (s :: settings, failures)
        | .error e => .error e
      | .error (.reasons reasons) =>
        match checkOptions raw rest with
        | .ok (settings, failures) => .ok (settings, reasons.map (o, ·) ++ failures)
        | .error e => .error e
      | .error .unorderedMembers => .error .unorderedMembers
      | .error .repetitionTooLarge => .error .repetitionTooLarge

/-- A starting point that every option is replaced in. -/
def OptionValues.blank : OptionValues := ⟨.literal, 0, [], ""⟩

/-- The validated values of all options. -/
def OptionValues.ofRaw (raw : RawOptions) : Except Rejection OptionValues :=
  match checkOptions raw OptionName.all with
  | .ok (settings, []) => .ok (settings.foldl OptionValues.put OptionValues.blank)
  | .ok (_, failures) => .error (.failures failures)
  | .error e => .error e

end Phrasebook
