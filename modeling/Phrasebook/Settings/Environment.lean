import Phrasebook.Json.Reader
import Phrasebook.Options.Resolver
import Phrasebook.Settings.DotEnv
import Phrasebook.Text.Utf8

namespace Phrasebook

/-!
# Settings

The settings of an application come from variables of its environment and from a file of variables,
of which the environment wins; what neither gives has a built-in value.

* `Environment` — where settings are read from;
* `Section` — the settings that become the defaults of options, as they are read and before their
  meaning is checked;
* `Section.read`, `Settings.read` — the settings of an environment, or why they cannot be read;
* `Settings.resolver` — a resolver whose defaults are the settings.
-/

/-- Variables of the environment, and the octets of the file of variables if there is one. -/
structure Environment where
  given : List (String × String)
  file : Option (List UInt8)

/-- The settings that become defaults of options. -/
structure Section where
  keyFormat : String
  maxKeyLength : Int
  pluralizationKeys : List String
  interpolationSyntax : String
  deriving DecidableEq, Repr

/-- Why the value of a variable cannot be read. -/
inductive FieldReason where
  | notText
  | notList
  | notInteger
  | unreadableInteger
  | longInteger
  | notFinite
  | fractional
  deriving DecidableEq, Repr

namespace FieldReason

/-- A short name of the reason. -/
def code : FieldReason → String
  | .notText => "string_type"
  | .notList => "list_type"
  | .notInteger => "int_type"
  | .unreadableInteger => "int_parsing"
  | .longInteger => "int_parsing_size"
  | .notFinite => "finite_number"
  | .fractional => "int_from_float"

/-- The reason in words. -/
def message : FieldReason → String
  | .notText => Reason.notText.message
  | .notList => "Input should be a valid list"
  | .notInteger => Reason.notInteger.message
  | .unreadableInteger => Reason.unreadableInteger.message
  | .longInteger => Reason.longInteger.message
  | .notFinite => Reason.notFinite.message
  | .fractional => Reason.fractional.message

/-- A reason against an option value, where it is one against a setting too. -/
def ofReason : Reason → FieldReason
  | .unreadableInteger => .unreadableInteger
  | .longInteger => .longInteger
  | .notFinite => .notFinite
  | .fractional => .fractional
  | _ => .notInteger

end FieldReason

/-- A variable whose value cannot be read, or the place in it that cannot. -/
structure FieldFault where
  name : String
  index : Option Nat
  reason : FieldReason
  deriving DecidableEq, Repr

/-- Why settings cannot be read. -/
inductive SettingsError where
  /-- The file of variables is not text. -/
  | undecodable (fault : Text.Utf8.Fault)
  /-- A variable that should hold JSON does not. -/
  | notJson (name : String)
  | invalid (faults : List FieldFault)
  deriving DecidableEq, Repr

/-! ### Variables -/

/-- The variables of the settings. -/
def keyFormatVariable : String := "I18N_INFERRED_KEY_FORMAT"

/-- The variable of the key length. -/
def maxKeyLengthVariable : String := "I18N_MAX_KEY_LENGTH"

/-- The variable of the plural variants, a JSON list. -/
def pluralizationKeysVariable : String := "I18N_PLURALIZATION_KEYS"

/-- The variable of the interpolation syntax. -/
def interpolationSyntaxVariable : String := "I18N_INTERPOLATION_SYNTAX"

/-- The built-in settings. -/
def Section.builtIn : Section :=
  { keyFormat := KeyFormat.hashed.name
    maxKeyLength := 50
    pluralizationKeys := standardVariants
    interpolationSyntax := "%\\\x7b([^\x7d]+)\\\x7d" }

/-- Values by name, each text or nothing. -/
abbrev Source := List (String × String)

/-- The variables of the environment and those of the file, in this order. -/
def Environment.sources (e : Environment) : Except SettingsError (List Source) :=
  match e.file with
  | none => .ok [e.given]
  | some octets =>
    match Text.Utf8.decode octets with
    | .error fault => .error (.undecodable fault)
    | .ok text =>
      let surroundings := e.given.map fun (name, v) => (name.toList, some v.toList)
      let defined := DotEnv.values surroundings (Text.unifyLineEnds text)
      -- only the last binding of a name counts, also when it gives no value
      let latest := (defined.map (·.1)).eraseDups.filterMap fun name =>
        ((defined.lookup name).getD none).map fun v => (String.ofList name, String.ofList v)
      .ok [e.given, latest]

/-- The first value of a variable in some sources. -/
def firstText? (sources : List Source) (name : String) : Option String :=
  sources.findSome? (·.lookup name)

/-- The first JSON value of a variable in some sources; `null` counts as none. -/
def firstJson? (name : String) : List Source → Except SettingsError (Option Value)
  | [] => .ok none
  | source :: rest =>
    match source.lookup name with
    | none => firstJson? name rest
    | some text =>
      match Json.read text.toList with
      | .error _ => .error (.notJson name)
      | .ok v =>
        match firstJson? name rest with
        | .error e => .error e
        | .ok other => .ok (match v with | .null => other | v => some v)

/-! ### Fields -/

/-- A text. -/
def readText (name : String) : Value → Except (List FieldFault) String
  | .text s => .ok s
  | _ => .error [⟨name, none, .notText⟩]

/-- An integer. -/
def readInteger (name : String) (v : Value) : Except (List FieldFault) Int :=
  match v.asInteger with
  | .ok n => .ok n
  | .error reason => .error [⟨name, none, .ofReason reason⟩]

/-- The items of a list that are no texts, by their places from `index` on. -/
def textFaults (name : String) (index : Nat) : List Value → List FieldFault
  | [] => []
  | .text _ :: rest => textFaults name (index + 1) rest
  | _ :: rest => ⟨name, some index, .notText⟩ :: textFaults name (index + 1) rest

/-- A list of texts. -/
def readTexts (name : String) : Value → Except (List FieldFault) (List String)
  | .list items =>
    match textFaults name 0 items with
    | [] => .ok ((Value.texts? items).getD [])
    | faults => .error faults
  | _ => .error [⟨name, none, .notList⟩]

/-- A field with its built-in value where it is not given. -/
def orElse {α β : Type} (given : Option β) (builtIn : α) (read : β → Except (List FieldFault) α) :
    Except (List FieldFault) α :=
  match given with
  | none => .ok builtIn
  | some v => read v

/-- The faults of a field. -/
def faultsOf {α : Type} : Except (List FieldFault) α → List FieldFault
  | .ok _ => []
  | .error faults => faults

/-- The section of an environment; the values of `given` come before all others. -/
def Section.read (e : Environment) (given : List (String × Value)) :
    Except SettingsError Section :=
  match e.sources with
  | .error e => .error e
  | .ok sources =>
    match firstJson? pluralizationKeysVariable sources with
    | .error e => .error e
    | .ok names =>
      let text (name : String) : Option Value :=
        (given.lookup name).or ((firstText? sources name).map .text)
      let format := orElse (text keyFormatVariable) builtIn.keyFormat (readText keyFormatVariable)
      let limit :=
        orElse (text maxKeyLengthVariable) builtIn.maxKeyLength (readInteger maxKeyLengthVariable)
      let names := orElse ((given.lookup pluralizationKeysVariable).or names)
        builtIn.pluralizationKeys (readTexts pluralizationKeysVariable)
      let source := orElse (text interpolationSyntaxVariable) builtIn.interpolationSyntax
        (readText interpolationSyntaxVariable)
      match format, limit, names, source with
      | .ok format, .ok limit, .ok names, .ok source => .ok ⟨format, limit, names, source⟩
      | _, _, _, _ =>
        .error (.invalid (faultsOf format ++ faultsOf limit ++ faultsOf names ++ faultsOf source))

/-- The section as defaults of options. -/
def Section.toEntries (s : Section) : Entries :=
  [(.text OptionName.keyFormat.canonical, .text s.keyFormat),
    (.text OptionName.maxKeyLength.canonical, .int s.maxKeyLength),
    (.text OptionName.pluralizationKeys.canonical, .list (s.pluralizationKeys.map .text)),
    (.text OptionName.interpolationSyntax.canonical, .text s.interpolationSyntax)]

/-- All settings. -/
structure Settings where
  /-- What the application is run as; nothing in production. -/
  stage : String
  logLevel : String
  options : Section
  deriving DecidableEq, Repr

namespace Settings

/-- Whether the application is run in production. -/
def isProduction (s : Settings) : Bool := s.stage.isEmpty

/-- The settings of an environment.  A variable with the name of the section has to hold JSON, which
    is not used. -/
def read (e : Environment) : Except SettingsError Settings :=
  match Section.read e [], e.sources with
  | .error e, _ => .error e
  | _, .error e => .error e
  | .ok options, .ok sources =>
    match firstJson? "extraction" sources with
    | .error e => .error e
    | .ok _ =>
      .ok ⟨(firstText? sources "PREFIX").getD "", (firstText? sources "LOG_LEVEL").getD "INFO",
        options⟩

/-- A resolver whose defaults are the settings. -/
def resolver (s : Settings) : Except OptionError Resolver := Resolver.build s.options.toEntries

end Settings

/-- Why there is no resolver of an environment. -/
inductive StartError where
  | settings (e : SettingsError)
  | options (e : OptionError)

/-- The resolver of an environment. -/
def Environment.resolver (e : Environment) : Except StartError Resolver :=
  match Settings.read e with
  | .error e => .error (.settings e)
  | .ok settings =>
    match settings.resolver with
    | .ok r => .ok r
    | .error e => .error (.options e)

end Phrasebook
