import Phrasebook.Options.Validation
import Phrasebook.Value.Description

namespace Phrasebook

/-!
# Resolving options

A resolver answers for the value of every option: the innermost override in force, else the value
written last, else the default.

* `Resolver.build` — a resolver with given defaults;
* `Resolver.setting`, `Resolver.values` — the effective value of one option and of all;
* `Resolver.set`, `Resolver.update`, `Resolver.reset` — lasting writes and their removal;
* `Resolver.enter`, `Resolver.leave` — an override put in force, and the overrides cut back to the
  depth before it;
* `Resolver.withOverride` — a block run under an override;
* `Resolver.apply` — the entries of a configuration that name options.

A write is checked together with the effective values of the other options, and nothing is stored
unless all is well.
-/

/-- Which option a rejection is laid to. -/
inductive Blame where
  | defaults
  | option (o : OptionName)
  | options (list : List OptionName)
  deriving DecidableEq, Repr

/-- The name in an error. -/
def Blame.name : Blame → String
  | .defaults => "defaults"
  | .option o => o.canonical
  | .options list => String.intercalate ", " (list.map OptionName.canonical)

/-- Why an operation on options fails. -/
inductive OptionError where
  | unknown (name : Value)
  | invalid (blame : Blame) (failures : List (OptionName × Reason))
  /-- The name is a value that cannot be a key at all. -/
  | notKey
  | unorderedMembers
  | repetitionTooLarge
  deriving Inhabited

/-- The error in words, where there are any. -/
def OptionError.message? : OptionError → Option String
  | .unknown name => some ("unknown extraction option: " ++ name.describe)
  | .invalid blame failures =>
    some ("invalid value for option " ++ String.ofList (Text.quoted blame.name.toList) ++ ": "
      ++ String.intercalate "; " (failures.map fun f => f.2.message))
  | _ => none

/-- A rejection as an error laid to an option. -/
def Rejection.error (blame : List (OptionName × Reason) → Blame) : Rejection → OptionError
  | .failures list => .invalid (blame list) list
  | .unorderedMembers => .unorderedMembers
  | .repetitionTooLarge => .repetitionTooLarge

/-- Whether a value names an option. -/
def isOption (name : Value) : Except OptionError Bool :=
  if name.canBeKey then .ok (OptionName.ofValue? name).isSome else .error .notKey

/-- The option that a value names. -/
def resolveName (name : Value) : Except OptionError OptionName :=
  if name.canBeKey then
    match OptionName.ofValue? name with
    | some o => .ok o
    | none => .error (.unknown name)
  else .error .notKey

/-- Values for some options, in order. -/
abbrev Updates := List (OptionName × Value)

namespace Updates

/-- Puts a value: an option that is there keeps its place, a new one goes last. -/
def put (o : OptionName) (v : Value) : Updates → Updates
  | [] => [(o, v)]
  | (p, w) :: rest => if p = o then (p, v) :: rest else (p, w) :: put o v rest

/-- The updates that a dictionary asks for; both spellings of an option are one update. -/
def ofEntries : Entries → Updates → Except OptionError Updates
  | [], updates => .ok updates
  | (name, v) :: rest, updates =>
    match resolveName name with
    | .ok o => ofEntries rest (put o v updates)
    | .error e => .error e

/-- The option that a rejection of the updates is laid to: the only one, else the first that has a
    reason against it. -/
def blame (updates : Updates) (failures : List (OptionName × Reason)) : Blame :=
  match updates with
  | [(o, _)] => .option o
  | _ =>
    match failures.find? fun f => updates.any (·.1 == f.1) with
    | some (o, _) => .option o
    | none => .options (updates.map (·.1))

end Updates

/-- A resolver.  Both lists have the latest setting first; `written` has at most one setting of an
    option. -/
structure Resolver where
  defaults : OptionValues
  written : List Setting
  overrides : List Setting
  deriving DecidableEq, Repr

namespace Resolver

/-- A resolver without writes or overrides. -/
def ofDefaults (defaults : OptionValues) : Resolver := ⟨defaults, [], []⟩

/-- A resolver whose defaults are the entries of a dictionary. -/
def build (entries : Entries) : Except OptionError Resolver :=
  match Updates.ofEntries entries [] with
  | .error e => .error e
  | .ok updates =>
    match OptionValues.ofRaw fun o => updates.lookup o with
    | .ok defaults => .ok (ofDefaults defaults)
    | .error e => .error (e.error fun _ => .defaults)

/-- The effective setting of an option. -/
def setting (r : Resolver) (o : OptionName) : Setting :=
  match (r.overrides ++ r.written).find? (·.option == o) with
  | some s => s
  | none => r.defaults.setting o

/-- The effective values of all options. -/
def values (r : Resolver) : OptionValues :=
  (OptionName.all.map r.setting).foldl OptionValues.put r.defaults

/-- The effective value of the option that a value names. -/
def get (r : Resolver) (name : Value) : Except OptionError Setting :=
  match resolveName name with
  | .ok o => .ok (r.setting o)
  | .error e => .error e

/-- The settings of some updates, checked together with the other effective values. -/
def check (r : Resolver) (updates : Updates) : Except OptionError (List Setting) :=
  match OptionValues.ofRaw fun o => some ((updates.lookup o).getD (r.setting o).toValue) with
  | .ok values => .ok (updates.map fun u => values.setting u.1)
  | .error e => .error (e.error updates.blame)

/-- Writes a setting in place of the one written before. -/
def write (r : Resolver) (s : Setting) : Resolver :=
  { r with written := s :: r.written.filter (·.option != s.option) }

/-- Writes a value for good. -/
def set (r : Resolver) (name v : Value) : Except OptionError Resolver :=
  match resolveName name with
  | .error e => .error e
  | .ok o =>
    match r.check [(o, v)] with
    | .ok settings => .ok (settings.foldl write r)
    | .error e => .error e

/-- Writes several values for good, or none of them. -/
def updateWith (r : Resolver) (updates : Updates) : Except OptionError Resolver :=
  match r.check updates with
  | .ok settings => .ok (settings.foldl write r)
  | .error e => .error e

/-- Writes the entries of a dictionary for good, or none of them. -/
def update (r : Resolver) (entries : Entries) : Except OptionError Resolver :=
  match Updates.ofEntries entries [] with
  | .ok updates => r.updateWith updates
  | .error e => .error e

/-- The number of overrides in force. -/
def depth (r : Resolver) : Nat := r.overrides.length

/-- Puts an override in force. -/
def enter (r : Resolver) (name v : Value) : Except OptionError Resolver :=
  match resolveName name with
  | .error e => .error e
  | .ok o =>
    match r.check [(o, v)] with
    | .ok settings => .ok { r with overrides := settings ++ r.overrides }
    | .error e => .error e

/-- Cuts the overrides back to the depth before one was put in force. -/
def leave (r : Resolver) (depth : Nat) : Resolver :=
  { r with overrides := r.overrides.drop (r.overrides.length - depth) }

/-- Runs a block under an override, which is left however the block ends. -/
def withOverride {α : Type} (r : Resolver) (name v : Value) (block : Resolver → α × Resolver) :
    Except OptionError (α × Resolver) :=
  match r.enter name v with
  | .error e => .error e
  | .ok inside =>
    let (a, after) := block inside
    .ok (a, after.leave r.depth)

/-- Drops all writes and overrides. -/
def reset (r : Resolver) : Resolver := ofDefaults r.defaults

/-- The entries of a configuration that name options. -/
def recognised (config : Entries) : Entries :=
  config.filter fun e => (OptionName.ofValue? e.1).isSome

/-- The keys of a configuration that name no option. -/
def skipped (config : Entries) : List Value :=
  Entries.keys (config.filter fun e => !(OptionName.ofValue? e.1).isSome)

/-- Writes the entries of a configuration that name options. -/
def apply (r : Resolver) (config : Entries) : Except OptionError Resolver :=
  r.update (recognised config)

end Resolver

end Phrasebook
