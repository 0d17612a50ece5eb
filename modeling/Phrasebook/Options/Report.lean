import Phrasebook.Log.Journal
import Phrasebook.Options.Resolver

namespace Phrasebook

/-!
# Reports of writes

The lasting writes of a resolver, each reported once it has succeeded, and the use of a project's
configuration.
-/

open Log

/-- The event of an option that has been set. -/
def optionSet (o : OptionName) : Event :=
  ⟨.debug, .options, "extraction_option_set", [("option", .text o.canonical)]⟩

/-- The event of options that have been written together. -/
def optionsUpdated (updates : Updates) : Event :=
  ⟨.debug, .options, "extraction_options_updated",
    [("options", .list (updates.map fun u => .text u.1.canonical))]⟩

/-- The event of configuration entries that name no option. -/
def entriesSkipped (keys : List Value) : Event :=
  ⟨.debug, .config, "skipped_config_entries", [("keys", .list keys)]⟩

/-- The event of a configuration that has been applied. -/
def configApplied (names : List Value) : Event :=
  ⟨.info, .config, "applied_project_config", [("options", .list names)]⟩

namespace Resolver

/-- Writes a value for good, and reports it. -/
def setReported (r : Resolver) (name v : Value) : Logged (Except OptionError Resolver) := do
  match r.set name v with
  | .error e => return .error e
  | .ok r' =>
    if let some o := OptionName.ofValue? name then report (optionSet o)
    return .ok r'

/-- Writes the entries of a dictionary for good, or none of them, and reports it. -/
def updateReported (r : Resolver) (entries : Entries) : Logged (Except OptionError Resolver) := do
  match Updates.ofEntries entries [] with
  | .error e => return .error e
  | .ok updates =>
    match r.updateWith updates with
    | .error e => return .error e
    | .ok r' =>
      report (optionsUpdated updates)
      return .ok r'

/-- Writes the entries of a configuration that name options, and reports those and the others. -/
def applyReported (r : Resolver) (config : Entries) : Logged (Except OptionError Resolver) := do
  let others := skipped config
  if !others.isEmpty then report (entriesSkipped others)
  match ← r.updateReported (recognised config) with
  | .error e => return .error e
  | .ok r' =>
    report (configApplied (Entries.keys (recognised config)))
    return .ok r'

end Resolver

end Phrasebook
