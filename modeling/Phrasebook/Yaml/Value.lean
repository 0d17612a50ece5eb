import Phrasebook.Base64
import Phrasebook.Value.Basic
import Phrasebook.Yaml.Node

namespace Phrasebook.Yaml

/-!
# Values of nodes

* `valueOf` — the value of a node, with a mark where a collection stands in itself;
* `flatten` — the entries of a mapping, those merged into it first;
* `Document.value` — the value of a document.

Scalars get their values before collections, and outer collections before inner ones: of several
faults the one at the least depth counts, and of those the first in the text.  A fault is therefore
kept with its delay, the number of collections between it and the node.

No collection gets a value inside itself, so no way down is longer than the document has nodes.
-/

/-- A fault, and how many collections down it is found. -/
structure Delayed where
  delay : Nat
  fault : Fault
  deriving DecidableEq, Repr

/-- The outcome of building a value. -/
abbrev Built (α : Type) := Except Delayed α

/-- The fault that is found first. -/
def Delayed.earlier (a b : Delayed) : Delayed := if b.delay < a.delay then b else a

/-- Two outcomes together. -/
def Built.both {α β : Type} : Built α → Built β → Built (α × β)
  | .ok a, .ok b => .ok (a, b)
  | .error e, .ok _ | .ok _, .error e => .error e
  | .error e, .error f => .error (e.earlier f)

/-- Several outcomes together. -/
def Built.all {α : Type} : List (Built α) → Built (List α)
  | [] => .ok []
  | x :: rest => (Built.both x (Built.all rest)).map fun (a, more) => a :: more

/-- The outcome one collection further down. -/
def Built.inside {α : Type} (x : Built α) : Built α :=
  x.mapError fun e => { e with delay := e.delay + 1 }

/-- A fault found at once. -/
def Built.ofFault {α : Type} : Except Fault α → Built α
  | .ok a => .ok a
  | .error fault => .error ⟨0, fault⟩

/-- A broken rule found at once. -/
def Built.refuse {α : Type} (rule : Malformed) : Built α := .error ⟨0, .malformed rule⟩

/-! ### Scalars -/

/-- The text of a node where a scalar is demanded: its own, or that of the default entry of a
    mapping. -/
def textOf (d : Document) : Nat → Node → Except Fault (List Char)
  | 0, _ => .error .cyclic
  | fuel + 1, n =>
    match d.target n with
    | .scalar _ text => .ok text
    | .mapping _ pairs =>
      match pairs.find? (d.tagOf ·.1 == .default) with
      | some (_, v) => textOf d fuel v
      | none => .error (.malformed .wrongKind)
    | _ => .error (.malformed .wrongKind)

/-- The truth values by their words. -/
def truths : List (List Char × Bool) :=
  [("yes".toList, true), ("no".toList, false), ("true".toList, true), ("false".toList, false),
    ("on".toList, true), ("off".toList, false)]

/-- The octets of a text in base 64. -/
def readBinary (text : List Char) : Except Fault Value :=
  if !text.all (·.toNat < 128) then .error (.malformed .badBase64)
  else match Base64.decode? text with
    | some octets => .ok (.bytes octets)
    | none => .error (.malformed .badBase64)

/-- The date or moment of a text. -/
def readStamp (text : List Char) : Except Fault Value :=
  match Stamp.read? text with
  | none => .error .notMoment
  | some s =>
    match s.moment? with
    | none => (s.date.check.mapError .calendar).map fun _ => .date s.date
    | some t => (t.check.mapError .calendar).map fun _ => .moment t

/-- The value of a text under a tag for scalars. -/
def scalarValue (tag : Tag) (text : List Char) : Except Fault Value :=
  match tag with
  | .null => .ok .null
  | .bool =>
    match truths.lookup (Text.lower text) with
    | some b => .ok (.bool b)
    | none => .error .notTruth
  | .int => (Number.readInteger text).map .int
  | .float => (Number.readFloat text).map .float
  | .binary => readBinary text
  | .timestamp => readStamp text
  | .str => .ok (Value.ofChars text)
  | _ => .error (.malformed .unknownTag)

/-- The value of a node under a tag for scalars. -/
def scalarOf (d : Document) (n : Node) : Except Fault Value :=
  match textOf d (d.size + 1) n with
  | .error fault => .error fault
  | .ok text =>
    if n.isMapping && n.tag == .timestamp then .error .momentOfMapping else scalarValue n.tag text

/-! ### Merged entries -/

/-- A mapping whose merged entries are being looked up, with the entries that are left of it. -/
abbrev Opened := Node × Pairs

/-- The nodes under the keys `<<`, each with the entries that are left when it is looked up: the
    others, and those keys after it. -/
def merges (d : Document) (before : Pairs) : Pairs → List Opened
  | [] => []
  | (k, v) :: rest =>
    if d.tagOf k == .merge then (v, before ++ rest) :: merges d before rest
    else merges d (before ++ [(k, v)]) rest

/-- The entries that are not merged; a default key is a text among them. -/
def ownPairs (d : Document) (pairs : Pairs) : Pairs :=
  (pairs.filter (d.tagOf ·.1 != .merge)).map fun (k, v) =>
    (if d.tagOf k == .default then (d.target k).withTag .str else k, v)

/-- The entries of a mapping, or those that are left of it. -/
def leftOf (opened : List Opened) (n : Node) (pairs : Pairs) : Pairs :=
  ((opened.find? (·.1.same n)).map (·.2)).getD pairs

/-- The entries of a mapping with those of the mappings merged into it: they come first, and of
    several merged together the last one first.  A mapping that is merged into itself gives what is
    left of it. -/
def flatten (d : Document) : Nat → List Opened → Node → Pairs → Except Fault Pairs
  | 0, _, _, _ => .error .cyclic
  | fuel + 1, opened, n, pairs => do
    let merged ← (merges d [] pairs).mapM fun (v, left) =>
      let part (m : Node) : Except Fault Pairs :=
        match m with
        | .mapping _ more =>
          flatten d fuel ((n, left) :: opened) m (leftOf ((n, left) :: opened) m more)
        | _ => .error (.malformed .badMerge)
      match d.target v with
      | .sequence _ items => do
        let parts ← items.mapM fun item => part (d.target item)
        return parts.reverse.flatten
      | m => part m
    return merged.flatten ++ ownPairs d pairs

/-! ### Collections -/

/-- The only entry of a mapping. -/
def soleEntry : Node → Built (Node × Node)
  | .mapping _ [entry] => .ok entry
  | _ => .refuse .wrongKind

/-- The value of a key, given how nodes get their values. -/
def keyOf (d : Document) (build : Node → Built Value) (k : Node) : Built Value :=
  if (d.tagOf k).isCollection then .refuse .collectionAsKey else build k

/-- The entries of a mapping, given how nodes get their values. -/
def entriesOf (d : Document) (build : Node → Built Value) (n : Node) (pairs : Pairs) :
    Built Entries := do
  let pairs ← Built.ofFault (flatten d (d.size + 1) [] n pairs)
  let built ← Built.all (pairs.map fun (k, v) => Built.both (keyOf d build k) (build v))
  return Entries.ofPairs built

/-- The tuple of an item that is a mapping with one entry. -/
def pairOf (d : Document) (build : Node → Built Value) (item : Node) : Built Value := do
  let (k, v) ← soleEntry (d.target item)
  let (a, b) ← Built.both (build k) (build v)
  return .tuple [a, b]

/-- How far out a node stands around itself, if it does; the nearest collection is the first one
    around.  Without names for nodes none does. -/
def levelOf? (d : Document) (around : List Node) (n : Node) : Option Nat :=
  if d.anchors.isEmpty then none else around.findIdx? (·.same n)

/-- The value of a node in a collection, given how nodes get their values that do not stand in
    themselves. -/
def inner (d : Document) (build : List Node → Node → Built Value) (around : List Node)
    (child : Node) : Built Value :=
  let n := d.target child
  match levelOf? d around n with
  | some levels => .ok (.enclosing levels n.isMapping)
  | none => build (n :: around) n

/-- The value of a node, `around` being the collections that are being built, from itself out;
    `fuel` bounds the number of those that are still to come. -/
def valueOf (d : Document) : Nat → List Node → Node → Built Value
  | 0, _, _ => .error ⟨0, .cyclic⟩
  | fuel + 1, around, n =>
    match n, n.tag with
    | _, .unknown _ | _, .merge | _, .default => .refuse .unknownTag
    | .sequence _ items, .seq => Built.inside do
      return .list (← Built.all (items.map (inner d (valueOf d fuel) around)))
    | .sequence _ items, .pairs => Built.inside do
      return .list (← Built.all (items.map (pairOf d (inner d (valueOf d fuel) around))))
    | .mapping _ pairs, .map => Built.inside do
      return .map (← entriesOf d (inner d (valueOf d fuel) around) n pairs)
    | .mapping _ pairs, .set => Built.inside do
      return .set (Entries.keys (← entriesOf d (inner d (valueOf d fuel) around) n pairs))
    | _, tag =>
      if tag.isCollection then Built.inside (.refuse .wrongKind) else Built.ofFault (scalarOf d n)

/-- The value of a document.  Its root is not among the collections that are being built: what
    stands in it is whole by itself. -/
def Document.value (d : Document) : Except Fault Value :=
  (valueOf d (d.size + 1) [] d.root).mapError Delayed.fault

end Phrasebook.Yaml
