import Phrasebook.Json.Reader
import Phrasebook.Text.Utf8
import Phrasebook.Yaml.Arrival

namespace Phrasebook

/-!
# Configuration files

A project keeps its configuration in two files, each of which may be absent: `package.json`, in a
section of its own, and `.i18nrc`, which is YAML and so may be written as JSON too.

* `ConfigFile.read` — the value that a file holds;
* `Site` — the directory of a project, and how YAML is read there;
* `LoadError` — why a file gives none, and `LoadError.message?` in words.
-/

/-- The files of a project that hold configuration. -/
inductive ConfigFile where
  | package
  | rc
  deriving DecidableEq, Repr

/-- The name of a file. -/
def ConfigFile.name : ConfigFile → String
  | .package => "package.json"
  | .rc => ".i18nrc"

/-- The path of a file in a directory, which is given without a slash at its end unless it is the
    root. -/
def ConfigFile.path (base : String) (file : ConfigFile) : String :=
  if base == "." then file.name
  else if base.endsWith "/" then base ++ file.name
  else base ++ "/" ++ file.name

/-- What a name stands for in a directory. -/
inductive FileContent where
  | directory
  | octets (list : List UInt8)
  deriving DecidableEq, Repr

/-- Why a file gives no value. -/
inductive FileFault where
  | isDirectory
  | undecodable (fault : Text.Utf8.Fault)
  | json (cause : Json.Cause) (source : List Char) (position : Nat)
  /-- An integer of more digits than can be read. -/
  | longInteger (digits : Nat)
  | yaml (rule : Yaml.Malformed)
  /-- A scalar without a value of its type. -/
  | scalar (fault : Yaml.Fault)
  deriving DecidableEq, Repr

namespace FileFault

/-- A fault of a JSON text. -/
def ofJson (source : List Char) : Json.Fault → FileFault
  | .at cause position => .json cause source position
  | .longInteger digits => .longInteger digits

/-- A fault of a YAML text. -/
def ofYaml : Yaml.Fault → FileFault
  | .malformed rule => .yaml rule
  | fault => .scalar fault

/-- Whether the fault is that the file cannot be read or breaks the rules of its notation.  Such a
    fault is reported, and its message names the file. -/
def isNotation : FileFault → Bool
  | .isDirectory | .json _ _ _ | .yaml _ => true
  | _ => false

/-- The fault of the file at a path in words; for a broken rule of YAML there are none. -/
def detail? (path : String) : FileFault → Option String
  | .isDirectory =>
    some ("[Errno 21] Is a directory: " ++ String.ofList (Text.quoted path.toList))
  | .undecodable fault => some fault.message
  | .json cause source position => some (cause.textAt source position)
  | .longInteger digits => some (Yaml.longIntegerText digits)
  | .yaml _ => none
  | .scalar fault => fault.message?

end FileFault

/-- Why configuration cannot be loaded: the fault of the file at a path. -/
structure LoadError where
  path : String
  fault : FileFault
  deriving DecidableEq, Repr

/-- The error in words, where there are any. -/
def LoadError.message? (e : LoadError) : Option String :=
  let detail := e.fault.detail? e.path
  if e.fault.isNotation then
    some ("Failed to parse " ++ e.path ++ ((detail.map (": " ++ ·)).getD ""))
  else detail

/-- The number of octets that are decoded at a time, where a file is read while it arrives. -/
def pieceSize : Nat := 8192

/-- The value of a file in JSON, decoded as a whole. -/
def readJson (octets : List UInt8) : Except FileFault Value := do
  let text ← (Text.Utf8.decode octets).mapError .undecodable
  let source := Text.unifyLineEnds text
  (Json.read source).mapError (FileFault.ofJson source)

/-- The value of a file in YAML, read while it arrives: octets that are no text are not found before
    they are asked for. -/
def readYaml (octets : List UInt8) : Except FileFault Value :=
  let arrived := Text.Utf8.decodePieces pieceSize octets
  let text := Text.unifyLineEnds arrived.text
  match arrived.fault with
  | none => (Yaml.read text).mapError FileFault.ofYaml
  | some fault =>
    match Yaml.faultIn? (text.take (Yaml.pieceStart text.length)) with
    | some first => .error (.ofYaml first)
    | none => .error (.undecodable fault)

/-- The value that a file holds, given how YAML is read. -/
def ConfigFile.readBy (yaml : List UInt8 → Except FileFault Value) (file : ConfigFile) :
    FileContent → Except FileFault Value
  | .directory => .error .isDirectory
  | .octets list =>
    match file with
    | .package => readJson list
    | .rc => yaml list

/-- The value that a file holds. -/
def ConfigFile.read (file : ConfigFile) (content : FileContent) : Except FileFault Value :=
  file.readBy readYaml content

/-- Where a project is kept. -/
structure Site where
  base : String
  /-- How YAML is read. -/
  yaml : List UInt8 → Except FileFault Value

namespace Site

/-- The current directory. -/
def here : Site := ⟨".", readYaml⟩

/-- The value of a file. -/
def read (s : Site) (file : ConfigFile) (content : FileContent) : Except FileFault Value :=
  file.readBy s.yaml content

end Site

end Phrasebook
