import Phrasebook.Yaml.Lexer
import Phrasebook.Yaml.Tag

namespace Phrasebook.Yaml

/-!
# Nodes

The tree of a document: scalars, sequences and mappings with their tags.  An alias is replaced by the
node that it names; where it names a node that it stands in, its name stays.

* `Document` — the root of that tree, and the nodes that have names;
* `Document.ofText?` — the only document of a text, if there is one;
* `Reading` — the state of that: the lexer, the handles of tags, the anchors met so far.
-/

/-- A node. -/
inductive Node where
  | scalar (tag : Tag) (text : List Char)
  | sequence (tag : Tag) (items : List Node)
  | mapping (tag : Tag) (entries : List (Node × Node))
  /-- An alias of a node that it stands in. -/
  | enclosing (name : List Char)
  deriving Inhabited

/-- The entries of a mapping. -/
abbrev Pairs := List (Node × Node)

namespace Node

/-- The scalar that is left out. -/
def empty : Node := .scalar .null []

/-- The tag; an alias has none of its own. -/
def tag : Node → Tag
  | .scalar tag _ | .sequence tag _ | .mapping tag _ => tag
  | .enclosing _ => .null

/-- A node with another tag. -/
def withTag (t : Tag) : Node → Node
  | .scalar _ text => .scalar t text
  | .sequence _ items => .sequence t items
  | .mapping _ pairs => .mapping t pairs
  | .enclosing name => .enclosing name

/-- Whether a node is a mapping. -/
def isMapping : Node → Bool
  | .mapping _ _ => true
  | _ => false

mutual

/-- The number of nodes in a node. -/
def size : Node → Nat
  | .scalar _ _ | .enclosing _ => 1
  | .sequence _ items => sizeOfItems items + 1
  | .mapping _ entries => sizeOfPairs entries + 1
termination_by structural n => n

/-- The number of nodes in some nodes. -/
def sizeOfItems : List Node → Nat
  | [] => 0
  | n :: rest => size n + sizeOfItems rest
termination_by structural n => n

/-- The number of nodes in some entries. -/
def sizeOfPairs : List (Node × Node) → Nat
  | [] => 0
  | (k, v) :: rest => size k + size v + sizeOfPairs rest
termination_by structural n => n

end

mutual

/-- Whether two nodes are the same. -/
def same : Node → Node → Bool
  | .scalar t a, .scalar u b => t == u && a == b
  | .sequence t a, .sequence u b => t == u && sameItems a b
  | .mapping t a, .mapping u b => t == u && samePairs a b
  | .enclosing a, .enclosing b => a == b
  | _, _ => false
termination_by structural n => n

/-- Whether two lists of nodes are the same. -/
def sameItems : List Node → List Node → Bool
  | [], [] => true
  | m :: as, n :: bs => same m n && sameItems as bs
  | _, _ => false
termination_by structural as => as

/-- Whether two lists of entries are the same. -/
def samePairs : List (Node × Node) → List (Node × Node) → Bool
  | [], [] => true
  | (k, v) :: as, (l, w) :: bs => same k l && same v w && samePairs as bs
  | _, _ => false
termination_by structural as => as

end

end Node

/-- A document: its root, and the nodes that have names. -/
structure Document where
  root : Node
  anchors : List (List Char × Node)

namespace Document

/-- The node that is meant where a node stands. -/
def target (d : Document) : Node → Node
  | .enclosing name => (d.anchors.lookup name).getD .empty
  | n => n

/-- The tag of that node. -/
def tagOf (d : Document) (n : Node) : Tag := (d.target n).tag

/-- The number of nodes in a document. -/
def size (d : Document) : Nat := d.anchors.foldr (fun a n => a.2.size + n) d.root.size

end Document

/-- The state of reading nodes. -/
structure Reading where
  lexer : Lexer
  /-- What the handles of tags stand for. -/
  handles : List (List Char × List Char)
  /-- The anchors met so far; a node that is still being read is not known yet. -/
  anchors : List (List Char × Option Node)

/-- The anchors that have been read. -/
def Reading.defined (r : Reading) : List (List Char × Node) :=
  r.anchors.filterMap fun (name, n) => n.map (name, ·)

/-- Reading nodes off a text. -/
abbrev Reader := StateT Reading (Except Stop)

namespace Reader

/-- Refuses a text for a broken rule. -/
def refuse {α : Type} (rule : Malformed) : Reader α := do
  (← get).lexer.cursor.refuse rule

/-- The next token, which stays ahead. -/
def peek : Reader Token := do
  let r ← get
  let lexer ← r.lexer.prepare
  set { r with lexer := lexer }
  return lexer.head

/-- Goes past the next token. -/
def skip : Reader Unit := do
  let _ ← peek
  modify fun r => { r with lexer := r.lexer.pop }

/-! ### Properties of a node -/

/-- The handles that every document has. -/
def standardHandles : List (List Char × List Char) :=
  [(['!'], ['!']), (['!', '!'], Tag.standardStart)]

/-- The full name of a tag. -/
def tagName (handle : Option (List Char)) (rest : List Char) : Reader (List Char) := do
  match handle with
  | none => return rest
  | some h =>
    match (← get).handles.lookup h with
    | some start => return start ++ rest
    | none => refuse .tagHandle

/-- A tag, if one is next. -/
def readTag : Reader (Option (Option (List Char) × List Char)) := do
  match ← peek with
  | .tag handle rest =>
    skip
    return some (handle, rest)
  | _ => return none

/-- An anchor, if one is next. -/
def readAnchor : Reader (Option (List Char)) := do
  match ← peek with
  | .anchor name =>
    skip
    return some name
  | _ => return none

/-- An anchor and the full name of a tag, in either order. -/
def readProperties : Reader (Option (List Char) × Option (List Char)) := do
  let anchor ← readAnchor
  let tag ← readTag
  let anchor ← match anchor, tag with
    | none, some _ => readAnchor
    | _, _ => pure anchor
  match tag with
  | none => return (anchor, none)
  | some (handle, rest) =>
    let name ← tagName handle rest
    return (anchor, some name)

/-- The type of a scalar; the tag `!` leaves it to the form of the text, even of a quoted one. -/
def scalarTag (tag : Option (List Char)) (text : List Char) (plain : Bool) : Tag :=
  match tag with
  | none => if plain then .ofPlain text else .str
  | some name => if name == ['!'] then .ofPlain text else .ofName name

/-- The type of a collection, `usual` if nothing else is said. -/
def collectionTag (tag : Option (List Char)) (usual : Tag) : Tag :=
  match tag with
  | none => usual
  | some name => if name == ['!'] then usual else .ofName name

/-- Declares the anchor of a node that is about to be read. -/
def declare (anchor : Option (List Char)) : Reader Unit := do
  match anchor with
  | none => return ()
  | some name =>
    let r ← get
    if (r.anchors.lookup name).isSome then refuse .repeatedAnchor
    else set { r with anchors := (name, none) :: r.anchors }

/-- Keeps the node of an anchor. -/
def define (anchor : Option (List Char)) (n : Node) : Reader Node := do
  match anchor with
  | none => return n
  | some name =>
    modify fun r => { r with anchors := (name, some n) :: r.anchors }
    return n

/-- The node of an alias. -/
def resolve (name : List Char) : Reader Node := do
  match (← get).anchors.lookup name with
  | none => refuse .undefinedAlias
  | some none => return .enclosing name
  | some (some n) => return n

/-- Whether a token ends an entry of a block mapping. -/
def endsBlockEntry : Token → Bool
  | .key | .value | .blockEnd => true
  | _ => false

/-- Whether a token ends an entry of a flow sequence or, with a closing token of its own, of a flow
    mapping. -/
def endsFlowEntry (closing : Token) (t : Token) : Bool := t == .flowEntry || t == closing

/-! ### Nodes -/

mutual

/-- A node; block collections only where `block` says so, and a sequence at the column of the
    mapping that it stands in where `flush` says so. -/
def readNode (block flush : Bool) : Nat → Reader Node
  | 0 => refuse .unexpectedToken
  | fuel + 1 => do
    match ← peek with
    | .reference name =>
      skip
      resolve name
    | _ =>
      let (anchor, tag) ← readProperties
      match ← peek with
      | .scalar text plain =>
        skip
        declare anchor
        define anchor (.scalar (scalarTag tag text plain) text)
      | .flowSequence =>
        declare anchor
        skip
        let items ← readFlowItems true fuel
        define anchor (.sequence (collectionTag tag .seq) items)
      | .flowMapping =>
        declare anchor
        skip
        let entries ← readFlowEntries true fuel
        define anchor (.mapping (collectionTag tag .map) entries)
      | t =>
        if t == .blockEntry && flush then
          declare anchor
          let items ← readFlushItems fuel
          define anchor (.sequence (collectionTag tag .seq) items)
        else if t == .blockSequence && block then
          declare anchor
          skip
          let items ← readBlockItems fuel
          define anchor (.sequence (collectionTag tag .seq) items)
        else if t == .blockMapping && block then
          declare anchor
          skip
          let entries ← readBlockEntries fuel
          define anchor (.mapping (collectionTag tag .map) entries)
        else if anchor.isSome || tag.isSome then
          declare anchor
          define anchor (.scalar (scalarTag tag [] true) [])
        else refuse .unexpectedToken

/-- The items of a block sequence. -/
def readBlockItems : Nat → Reader (List Node)
  | 0 => refuse .unexpectedToken
  | fuel + 1 => do
    match ← peek with
    | .blockEntry =>
      skip
      let t ← peek
      let n ← if t == .blockEntry || t == .blockEnd then pure .empty else readNode true false fuel
      return n :: (← readBlockItems fuel)
    | .blockEnd =>
      skip
      return []
    | _ => refuse .unexpectedToken

/-- The items of a block sequence at the column of the mapping that it stands in. -/
def readFlushItems : Nat → Reader (List Node)
  | 0 => refuse .unexpectedToken
  | fuel + 1 => do
    match ← peek with
    | .blockEntry =>
      skip
      let t ← peek
      let n ← if t == .blockEntry || endsBlockEntry t then pure .empty else readNode true false fuel
      return n :: (← readFlushItems fuel)
    | _ => return []

/-- The entries of a block mapping. -/
def readBlockEntries : Nat → Reader (List (Node × Node))
  | 0 => refuse .unexpectedToken
  | fuel + 1 => do
    match ← peek with
    | .key =>
      skip
      let t ← peek
      let k ← if endsBlockEntry t then pure .empty else readNode true true fuel
      let v ← readBlockValue fuel
      return (k, v) :: (← readBlockEntries fuel)
    | .blockEnd =>
      skip
      return []
    | _ => refuse .unexpectedToken

/-- The value of an entry of a block mapping; it may be left out. -/
def readBlockValue : Nat → Reader Node
  | 0 => refuse .unexpectedToken
  | fuel + 1 => do
    match ← peek with
    | .value =>
      skip
      let t ← peek
      if endsBlockEntry t then return .empty else readNode true true fuel
    | _ => return .empty

/-- The items of a flow sequence; an item `k: v` is a mapping of its own. -/
def readFlowItems (first : Bool) : Nat → Reader (List Node)
  | 0 => refuse .unexpectedToken
  | fuel + 1 => do
    if (← peek) == .flowSequenceEnd then
      skip
      return []
    if !first then
      if (← peek) == .flowEntry then skip else refuse .unexpectedToken
    match ← peek with
    | .flowSequenceEnd =>
      skip
      return []
    | .key =>
      skip
      let t ← peek
      let k ← if t == .value || endsFlowEntry .flowSequenceEnd t then pure .empty
        else readNode false false fuel
      let v ← readFlowValue .flowSequenceEnd fuel
      return .mapping .map [(k, v)] :: (← readFlowItems false fuel)
    | _ =>
      let n ← readNode false false fuel
      return n :: (← readFlowItems false fuel)

/-- The entries of a flow mapping; an entry without a colon has no value. -/
def readFlowEntries (first : Bool) : Nat → Reader (List (Node × Node))
  | 0 => refuse .unexpectedToken
  | fuel + 1 => do
    if (← peek) == .flowMappingEnd then
      skip
      return []
    if !first then
      if (← peek) == .flowEntry then skip else refuse .unexpectedToken
    match ← peek with
    | .flowMappingEnd =>
      skip
      return []
    | .key =>
      skip
      let t ← peek
      let k ← if t == .value || endsFlowEntry .flowMappingEnd t then pure .empty
        else readNode false false fuel
      let v ← readFlowValue .flowMappingEnd fuel
      return (k, v) :: (← readFlowEntries false fuel)
    | _ =>
      let k ← readNode false false fuel
      return (k, .empty) :: (← readFlowEntries false fuel)

/-- The value of an entry of a flow collection with a closing token; it may be left out. -/
def readFlowValue (closing : Token) : Nat → Reader Node
  | 0 => refuse .unexpectedToken
  | fuel + 1 => do
    match ← peek with
    | .value =>
      skip
      let t ← peek
      if endsFlowEntry closing t then return .empty else readNode false false fuel
    | _ => return .empty

end

/-! ### Documents -/

/-- The directives of a document, `version` saying whether one has been given. -/
def readDirectives (version : Bool) : Nat → Reader Unit
  | 0 => refuse .unexpectedToken
  | fuel + 1 => do
    match ← peek with
    | .directive d =>
      skip
      match d with
      | .version major =>
        if version || major != 1 then refuse .version
        else readDirectives true fuel
      | .handle handle start =>
        let r ← get
        if (r.handles.lookup handle).isSome then refuse .tagHandle
        else
          set { r with handles := (handle, start) :: r.handles }
          readDirectives version fuel
      | .ignored => readDirectives version fuel
    | _ => modify fun r => { r with handles := r.handles ++ standardHandles }

/-- The root after the start of a document. -/
def readContent (fuel : Nat) : Reader Node := do
  match ← peek with
  | .directive _ | .documentStart | .documentEnd | .textEnd => return .empty
  | _ => readNode true false fuel

/-- Passes over ends of documents; nothing may come after them but directives, which are read before
    they are refused. -/
def readDocumentEnds : Nat → Reader Unit
  | 0 => refuse .severalDocuments
  | fuel + 1 => do
    match ← peek with
    | .documentEnd =>
      skip
      readDocumentEnds fuel
    | .textEnd => return ()
    | _ =>
      modify fun r => { r with handles := [] }
      readDirectives false fuel
      refuse .severalDocuments

/-- The root of the only document, if there is one. -/
def readRoot (fuel : Nat) : Reader (Option Node) := do
  match ← peek with
  | .textEnd => return none
  | .directive _ | .documentStart =>
    readDirectives false fuel
    if (← peek) == .documentStart then
      skip
      let n ← readContent fuel
      readDocumentEnds fuel
      return some n
    else refuse .unexpectedToken
  | _ =>
    modify fun r => { r with handles := standardHandles }
    let n ← readNode true false fuel
    readDocumentEnds fuel
    return some n

end Reader

/-- The only document of a text, if there is one. -/
def Document.ofText? (text : List Char) : Except Stop (Option Document) := do
  let (root, r) ← (Reader.readRoot (4 * text.length + 16)).run ⟨Lexer.ofText text, [], []⟩
  return root.map (⟨·, r.defined⟩)

end Phrasebook.Yaml
