import Phrasebook.Log.Journal
import Phrasebook.Project.Source

namespace Phrasebook

/-!
# Loading configuration

`Project.load` merges what the two files of a project say, `.i18nrc` over `package.json`.  A file
that is there and cannot be read stops it; a file that holds no dictionary counts as empty.

* `Project.section` — the section of `package.json`;
* `Project.combine` — the merged configuration;
* `Project.loadAt` — the same from the contents of the files at a site, with reports;
* `Project.load` — that in the current directory.
-/

open Log

/-- The files of a project, as far as they are there. -/
structure Project where
  package : Option FileContent
  rc : Option FileContent
  deriving DecidableEq, Repr

namespace Project

/-- The name of the section of `package.json`. -/
def sectionName : Value := .text "i18n"

/-- The key of plugins, which are not loaded here. -/
def pluginsKey : Value := .text "plugins"

/-- The entries of a value that is a dictionary. -/
def entries? : Value → Option Entries
  | .map entries => some entries
  | _ => none

/-- The section of the value of `package.json`, if it is there and a dictionary. -/
def section? (package : Value) : Option Entries := do
  let entries ← entries? package
  entries? (← Entries.get? sectionName entries)

/-- The merged configuration: the entries of `.i18nrc` replace those of the section. -/
def combine (package rc : Option Entries) : Entries :=
  Entries.merge (Entries.merge [] (package.getD [])) (rc.getD [])

/-! ### Reports -/

/-- The event of a file that cannot be read. -/
def parseFailed (e : LoadError) : Event :=
  ⟨.error, .config, "config_parse_error",
    ((e.fault.detail? e.path).map fun s => ("error", Value.text s)).toList⟩

/-- The event of entries that the file at a path has given. -/
def loaded (path name : String) (entries : Entries) : Event :=
  ⟨.debug, .config, name, [("file", .text path), ("keys", .list entries.keys)]⟩

/-- The event of a file at a path that holds no dictionary. -/
def notDictionary (path : String) : Event :=
  ⟨.warning, .config, "invalid_rc_format", [("file", .text path), ("expected", .text "object")]⟩

/-- The event of plugins that a configuration asks for. -/
def pluginsNotLoaded (plugins : Value) : Event :=
  ⟨.warning, .config, "plugins_not_loaded", [("plugins", plugins)]⟩

/-! ### Loading -/

/-- The value of a file, inside a scan of that file. -/
def readReported (s : Site) (file : ConfigFile) (content : FileContent) :
    Logged (Except LoadError Value) :=
  inScope ⟨some (.text (file.path s.base)), none, []⟩ do
    match s.read file content with
    | .ok v => return .ok v
    | .error fault =>
      if fault.isNotation then report (parseFailed ⟨file.path s.base, fault⟩)
      return .error ⟨file.path s.base, fault⟩

/-- The entries that `package.json` gives. -/
def loadPackage (s : Site) (content : FileContent) :
    Logged (Except LoadError (Option Entries)) := do
  match ← readReported s .package content with
  | .error e => return .error e
  | .ok v =>
    match section? v with
    | none => return .ok none
    | some entries =>
      report (loaded (ConfigFile.package.path s.base) "loaded_package_config" entries)
      return .ok (some entries)

/-- The entries that `.i18nrc` gives. -/
def loadRc (s : Site) (content : FileContent) : Logged (Except LoadError (Option Entries)) := do
  match ← readReported s .rc content with
  | .error e => return .error e
  | .ok v =>
    match entries? v with
    | none =>
      report (notDictionary (ConfigFile.rc.path s.base))
      return .ok none
    | some entries =>
      report (loaded (ConfigFile.rc.path s.base) "loaded_rc_config" entries)
      return .ok (some entries)

/-- The entries that a file gives, if it is there. -/
def loadIfThere (content : Option FileContent)
    (load : FileContent → Logged (Except LoadError (Option Entries))) :
    Logged (Except LoadError (Option Entries)) :=
  match content with
  | none => return .ok none
  | some c => load c

/-- The configuration of a project at a site. -/
def loadAt (s : Site) (p : Project) : Logged (Except LoadError Entries) := do
  match ← loadIfThere p.package (loadPackage s) with
  | .error e => return .error e
  | .ok package =>
    match ← loadIfThere p.rc (loadRc s) with
    | .error e => return .error e
    | .ok rc =>
      let config := combine package rc
      match (config.get? pluginsKey).filter Value.isPresent with
      | some plugins => report (pluginsNotLoaded plugins)
      | none => pure ()
      return .ok config

/-- The configuration of a project in the current directory. -/
def load (p : Project) : Logged (Except LoadError Entries) := p.loadAt .here

end Project

end Phrasebook
