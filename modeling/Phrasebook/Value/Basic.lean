import Phrasebook.Binary64
import Phrasebook.Calendar

namespace Phrasebook

/-!
# Values

What an argument list, an options bag, a configuration file or a caller can hold.  Besides plain
data there are the three marks that a source scanner puts on the arguments of a call: a string
literal, an object literal, and the text of any other expression.  A list or dictionary may contain
itself: at that place of it stands how far out it begins.

* `Value.sameKey` — when two values are one key of a dictionary;
* `Value.canBeKey` — the values that may be keys at all;
* `Value.less?` — the order of those values that have one.
-/

/-- A value.  Dictionaries and object literals keep their entries in order. -/
inductive Value where
  | null
  | bool (b : Bool)
  | int (n : Int)
  | float (x : Binary64)
  | text (s : String)
  | bytes (octets : List UInt8)
  | date (d : Date)
  | moment (t : Moment)
  | list (items : List Value)
  | tuple (items : List Value)
  | set (members : List Value)
  | map (entries : List (Value × Value))
  /-- A string literal of the source. -/
  | literal (s : String)
  /-- An object literal of the source. -/
  | literalMap (entries : List (Value × Value))
  /-- Any other expression, by its source text. -/
  | expression (source : String)
  /-- The list or dictionary that a value stands in, `levels` further out than the nearest one. -/
  | enclosing (levels : Nat) (isMap : Bool)
  deriving Inhabited

/-- The entries of a dictionary, in order. -/
abbrev Entries := List (Value × Value)

namespace Value

/-- A text of characters. -/
def ofChars (s : List Char) : Value := .text (String.ofList s)

/-- The texts that some values are, if all are texts. -/
def texts? : List Value → Option (List String)
  | [] => some []
  | .text s :: rest => (texts? rest).map (s :: ·)
  | _ => none

/-- Whether a value counts as something: not null, false, zero, or empty. -/
def isPresent : Value → Bool
  | .null => false
  | .bool b => b
  | .int n => n != 0
  | .float x => !x.isZero
  | .text s => !s.isEmpty
  | .bytes octets => !octets.isEmpty
  | .list items | .tuple items | .set items => !items.isEmpty
  | .map entries => !entries.isEmpty
  | _ => true

mutual

/-- Whether two values are the same key.  Numbers of all kinds compare by value. -/
def sameKey : Value → Value → Bool
  | .null, .null => true
  | .bool a, .bool b => a == b
  | .bool a, .int b => (if a then 1 else 0) == b
  | .int a, .bool b => a == (if b then 1 else 0)
  | .int a, .int b => a == b
  | .bool a, .float b => b.sameAsInt (if a then 1 else 0)
  | .float a, .bool b => a.sameAsInt (if b then 1 else 0)
  | .int a, .float b => b.sameAsInt a
  | .float a, .int b => a.sameAsInt b
  | .float a, .float b => a.sameAs b
  | .text a, .text b => a == b
  | .bytes a, .bytes b => a == b
  | .date a, .date b => a == b
  | .moment a, .moment b => a.sameAs b
  | .tuple a, .tuple b => sameKeys a b
  | .literal a, .literal b => a == b
  | .expression a, .expression b => a == b
  | _, _ => false
termination_by structural v => v

/-- Pairwise the same keys. -/
def sameKeys : List Value → List Value → Bool
  | [], [] => true
  | a :: as, b :: bs => sameKey a b && sameKeys as bs
  | _, _ => false
termination_by structural v => v

end

mutual

/-- Whether a value may be a key: no list, set, dictionary or object literal, nor a tuple with one
    in it. -/
def canBeKey : Value → Bool
  | .list _ | .set _ | .map _ | .literalMap _ | .enclosing _ _ => false
  | .tuple items => canBeKeys items
  | _ => true
termination_by structural v => v

/-- Whether all the values may be keys. -/
def canBeKeys : List Value → Bool
  | [] => true
  | v :: rest => canBeKey v && canBeKeys rest
termination_by structural v => v

end

/-- The value of a number as a quotient with positive denominator; no value for a NaN or an
    infinity. -/
def ratio? : Value → Option (Int × Nat)
  | .bool b => some (if b then 1 else 0, 1)
  | .int n => some (n, 1)
  | .float x => if x.isFinite then some x.toRatio else none
  | _ => none

/-- Order of two numbers, the infinities at the ends and a NaN below nothing. -/
def numberLess (a b : Value) : Bool :=
  match a.ratio?, b.ratio? with
  | some (m, d), some (n, e) => m * e < n * d
  | none, some _ => match a with
    | .float x => !x.isNaN && x.isNegative
    | _ => false
  | some _, none => match b with
    | .float y => !y.isNaN && !y.isNegative
    | _ => false
  | none, none => match a, b with
    | .float x, .float y => !x.isNaN && !y.isNaN && x.isNegative && !y.isNegative
    | _, _ => false

/-- Whether a value is a number. -/
def isNumber : Value → Bool
  | .bool _ | .int _ | .float _ => true
  | _ => false

mutual

/-- Whether the first value comes before the second; no answer for values without an order. -/
def less? : Value → Value → Option Bool
  | .text a, b => match b with
    | .text b => some (a < b)
    | _ => none
  | .bytes a, b => match b with
    | .bytes b => some (decide (a.map UInt8.toNat < b.map UInt8.toNat))
    | _ => none
  | .date a, b => match b with
    | .date b => some (a.isBefore b)
    | _ => none
  | .moment a, b => match b with
    | .moment b => a.isBefore? b
    | _ => none
  | .tuple a, b => match b with
    | .tuple b => lessItems? a b
    | _ => none
  | a, b => if a.isNumber && b.isNumber then some (numberLess a b) else none
termination_by structural v => v

/-- Order by the first two items that differ; a list comes after what it starts with. -/
def lessItems? : List Value → List Value → Option Bool
  | _, [] => some false
  | [], _ :: _ => some true
  | a :: as, b :: bs => if sameKey a b then lessItems? as bs else less? a b
termination_by structural v => v

end

/-- Puts a value before the first one it comes before. -/
def insertSorted? (v : Value) : List Value → Option (List Value)
  | [] => some [v]
  | w :: rest => do
    if ← less? v w then return v :: w :: rest else return w :: (← insertSorted? v rest)

/-- The values in ascending order; no result where two of them cannot be compared. -/
def sort? (values : List Value) : Option (List Value) :=
  values.foldrM insertSorted? []

end Value

namespace Entries

/-- The value under a key. -/
def get? (key : Value) : Entries → Option Value
  | [] => none
  | (k, v) :: rest => if k.sameKey key then some v else get? key rest

/-- Whether there is a value under a key. -/
def contains (key : Value) (entries : Entries) : Bool := entries.any fun e => e.1.sameKey key

/-- The keys, in order. -/
def keys (entries : Entries) : List Value := entries.map (·.1)

/-- Puts a value under a key: a key that is there keeps its place, a new one goes last. -/
def insert (key value : Value) : Entries → Entries
  | [] => [(key, value)]
  | (k, v) :: rest => if k.sameKey key then (k, value) :: rest else (k, v) :: insert key value rest

/-- Puts all the entries of another dictionary into this one, in order. -/
def merge (entries more : Entries) : Entries :=
  more.foldl (fun acc e => insert e.1 e.2 acc) entries

/-- The dictionary of a list of pairs: a repeated key keeps its first place and its last value. -/
def ofPairs (pairs : List (Value × Value)) : Entries := merge [] pairs

/-- Takes out the value under a key. -/
def erase (key : Value) (entries : Entries) : Entries := entries.filter fun e => !e.1.sameKey key

end Entries

/-- The members of a set: each value once, at its first place. -/
def Value.distinct (values : List Value) : List Value :=
  values.foldl (fun acc v => if acc.any (·.sameKey v) then acc else acc ++ [v]) []

end Phrasebook
