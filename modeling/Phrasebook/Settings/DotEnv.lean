import Phrasebook.Text.Blank

namespace Phrasebook.DotEnv

/-!
# Files of variables

A file of lines `NAME=value`, with an optional `export` in front, comments after a `#`, and values
plain or between quotes.  A line that cannot be read is passed over.

* `readBinding` — one binding off the front of a text;
* `bindings` — all bindings of a text;
* `expand` — values with references `${NAME}` and `${NAME:-default}` replaced;
* `values` — the names of a file with their values; a name without `=` has none.
-/

open Text

/-- Blanks within a line. -/
def isInlineBlank (c : Char) : Bool := isBlank c && c != '\n' && c != '\r'

/-- The rest of a text after the line it starts with. -/
def dropLine (text : List Char) : List Char := (text.dropWhile (· != '\n')).drop 1

/-- A text without an `export` that blanks follow. -/
def dropExport (text : List Char) : List Char :=
  let word := "export".toList
  if word.isPrefixOf text then
    let rest := text.drop word.length
    if rest.head?.any isInlineBlank then rest.dropWhile isInlineBlank else text
  else text

/-- The length of the text between single or double quotes, from after the opening quote: a quote
    after a backslash does not close, unless no other does, when the last of those closes. -/
def quotedLength? (quote : Char) : List Char → Option Nat
  | [] => none
  | '\\' :: q :: rest =>
    if q == quote then
      match quotedLength? quote rest with
      | some n => some (n + 2)
      | none => some 1
    else (quotedLength? quote (q :: rest)).map (· + 1)
  | c :: rest => if c == quote then some 0 else (quotedLength? quote rest).map (· + 1)
termination_by structural text => text

/-- The character that an escape in double quotes stands for. -/
def escaped? : Char → Option Char
  | '\\' => some '\\'
  | '\'' => some '\''
  | '"' => some '"'
  | 'a' => some '\x07'
  | 'b' => some '\x08'
  | 'f' => some '\x0c'
  | 'n' => some '\n'
  | 'r' => some '\r'
  | 't' => some '\t'
  | 'v' => some '\x0b'
  | _ => none

/-- The character that an escape in single quotes stands for. -/
def escapedSingle? (c : Char) : Option Char := if c == '\\' || c == '\'' then some c else none

/-- A text with its escapes replaced; other backslashes stay. -/
def unescape (escape : Char → Option Char) : List Char → List Char
  | [] => []
  | '\\' :: c :: rest =>
    match escape c with
    | some d => d :: unescape escape rest
    | none => '\\' :: unescape escape (c :: rest)
  | c :: rest => c :: unescape escape rest
termination_by structural text => text

/-- The place of the first run of blanks that a `#` follows. -/
def commentStart? : List Char → Option Nat
  | [] => none
  | c :: rest =>
    if isBlank c && (rest.dropWhile isBlank).head? == some '#' then some 0
    else (commentStart? rest).map (· + 1)

/-- A plain value, without a comment and the blanks before it. -/
def plainValue (line : List Char) : List Char :=
  let kept := match commentStart? line with
    | some n => line.take n
    | none => line
  trimEndBy isBlank kept

/-- A value between quotes, after the opening one. -/
def quotedValue? (quote : Char) (text : List Char) : Option (List Char × List Char) :=
  (quotedLength? quote text).map fun n =>
    let escape := if quote == '"' then escaped? else escapedSingle?
    (unescape escape (text.take n), text.drop (n + 1))

/-- The value after `=` and the blanks that follow it. -/
def value? (text : List Char) : Option (List Char × List Char) :=
  match text with
  | [] => some ([], [])
  | '\'' :: rest => quotedValue? '\'' rest
  | '"' :: rest => quotedValue? '"' rest
  | '\n' :: _ => some ([], text)
  | _ =>
    let line := text.takeWhile fun c => c != '\n' && c != '\r'
    some (plainValue line, text.drop line.length)

/-- The name that a text starts with; a comment has none. -/
def key? (text : List Char) : Option (Option (List Char) × List Char) :=
  match text with
  | '#' :: _ => some (none, text)
  | '\'' :: rest =>
    let name := rest.takeWhile (· != '\'')
    match rest.drop name.length with
    | _ :: after => if name.isEmpty then none else some (some name, after)
    | [] => none
  | _ =>
    let name := text.takeWhile fun c => c != '=' && c != '#' && !isBlank c
    if name.isEmpty then none else some (some name, text.drop name.length)

/-- What follows the end of a line, if only blanks and a comment stand before it. -/
def endOfLine? (text : List Char) : Option (List Char) :=
  let rest := text.dropWhile isInlineBlank
  let rest := match rest with
    | '#' :: _ => rest.dropWhile fun c => c != '\n' && c != '\r'
    | _ => rest
  match rest with
  | [] => some []
  | '\n' :: rest => some rest
  | _ => none

/-- A binding: a name with its value, or without one. -/
abbrev Binding := List Char × Option (List Char)

/-- The binding that a text starts with, if it can be read, and the text after it. -/
def readBinding (text : List Char) : Option Binding × List Char :=
  let start := dropExport (text.dropWhile isBlank)
  match key? start with
  | none => (none, dropLine start)
  | some (name, rest) =>
    let rest := rest.dropWhile isInlineBlank
    let (found, before) := match rest with
      | '=' :: after =>
        let after := after.dropWhile isInlineBlank
        match value? after with
        | some (v, rest) => (some (some v), rest)
        | none => (none, after)
      | _ => (some none, rest)
    match found, endOfLine? before with
    | some v, some rest => (name.map (·, v), rest)
    | _, _ => (none, dropLine before)

/-- The bindings of a text; `fuel` bounds their number. -/
def bindingsFrom : Nat → List Char → List Binding
  | 0, _ => []
  | fuel + 1, text =>
    if (text.dropWhile isBlank).isEmpty then []
    else
      let (binding, rest) := readBinding text
      binding.toList ++ bindingsFrom fuel rest

/-- The bindings of a text, in order. -/
def bindings (text : List Char) : List Binding := bindingsFrom text.length text

/-- The name and the default of a reference, from after its opening brace, and the text after it. -/
def reference? (text : List Char) : Option (List Char × Option (List Char) × List Char) :=
  let name := text.takeWhile fun c => c != '\x7d' && c != ':'
  match text.drop name.length with
  | '\x7d' :: rest => some (name, none, rest)
  | ':' :: '-' :: more =>
    let default := more.takeWhile (· != '\x7d')
    match more.drop default.length with
    | _ :: rest => some (name, some default, rest)
    | [] => none
  | _ => none

/-- Values by name. -/
abbrev Variables := List (List Char × Option (List Char))

/-- The value that a reference stands for. -/
def resolve (known : Variables) (name : List Char) (default : Option (List Char)) : List Char :=
  match known.lookup name with
  | some v => v.getD []
  | none => default.getD []

/-- A value with its references replaced, skipping the `skip` characters of one already read. -/
def expandFrom (known : Variables) : Nat → List Char → List Char
  | _, [] => []
  | skip + 1, _ :: rest => expandFrom known skip rest
  | 0, '$' :: rest =>
    match rest with
    | '\x7b' :: text =>
      match reference? text with
      | some (name, default, after) =>
        resolve known name default ++ expandFrom known (rest.length - after.length) rest
      | none => '$' :: expandFrom known 0 rest
    | _ => '$' :: expandFrom known 0 rest
  | 0, c :: rest => c :: expandFrom known 0 rest

/-- A value with its references replaced. -/
def expand (known : Variables) (v : List Char) : List Char := expandFrom known 0 v

/-- The variables that bindings give, the last binding of a name first.  References see the bindings
    before them and then the surroundings. -/
def define (surroundings : Variables) : List Binding → Variables → Variables
  | [], defined => defined
  | (name, v) :: rest, defined =>
    define surroundings rest ((name, v.map (expand (defined ++ surroundings))) :: defined)

/-- The variables of a file, given those of its surroundings; the last binding of a name comes
    first. -/
def values (surroundings : Variables) (text : List Char) : Variables :=
  define surroundings (bindings text) []

end Phrasebook.DotEnv
