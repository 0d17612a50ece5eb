import Phrasebook.Pattern.Syntax

namespace Phrasebook.Pattern

/-!
# Matching

Backtracking search.  A matcher takes a place in the text and what has to match after it, and tries
its own possibilities in order until one lets the rest succeed.

* `Node.matcher` — the matcher of an expression, by recursion on the expression;
* `greedy`, `reluctant`, `possessive` — the rounds of a repetition, which take a round that matched
  nothing for the last one;
* `findFrom` — the first match at a place or after it;
* `Pattern.captures` — what the first capture group has matched in each of the matches of a text,
  from left to right and without overlap.
-/

/-- Where a capture group has begun and ended. -/
structure Capture where
  start : Option Nat := none
  finish : Option Nat := none
  deriving DecidableEq, Repr

/-- The span of a capture group, if it has matched. -/
def Capture.span? (c : Capture) : Option (Nat × Nat) :=
  match c.start, c.finish with
  | some a, some b => if a ≤ b then some (a, b) else none
  | _, _ => none

/-- A place in a text: the characters before it, nearest first, and after it; and the captures made
    on the way. -/
structure Cursor where
  position : Nat
  before : List Char
  after : List Char
  captures : List Capture
  deriving DecidableEq, Repr

namespace Cursor

/-- The place one character on. -/
def step? (c : Cursor) : Option (Char × Cursor) :=
  match c.after with
  | [] => none
  | x :: rest => some (x, ⟨c.position + 1, x :: c.before, rest, c.captures⟩)

/-- The place `n` characters back. -/
def back? (n : Nat) (c : Cursor) : Option Cursor :=
  if n ≤ c.position then
    some ⟨c.position - n, c.before.drop n, (c.before.take n).reverse ++ c.after, c.captures⟩
  else none

/-- The capture of a group. -/
def capture (c : Cursor) (group : Nat) : Capture := (c.captures[group]?).getD {}

/-- The text that a group has matched, if it has. -/
def captured? (c : Cursor) (group : Nat) : Option (List Char) :=
  (c.capture group).span?.map fun (a, b) =>
    if b ≤ c.position then ((c.before.take (c.position - a)).reverse).take (b - a)
    else ((c.before.take (c.position - a)).reverse ++ c.after.take (b - c.position)).drop
      (a - c.position)

/-- Marks the start of a group. -/
def openGroup (c : Cursor) (group : Nat) : Cursor :=
  { c with captures := c.captures.set group { c.capture group with start := some c.position } }

/-- Marks the end of a group. -/
def closeGroup (c : Cursor) (group : Nat) : Cursor :=
  { c with captures := c.captures.set group { c.capture group with finish := some c.position } }

end Cursor

/-- What has to match after a place. -/
abbrev Rest := Cursor → Option Cursor

/-- A matcher. -/
abbrev Matcher := Cursor → Rest → Option Cursor

/-! ### Single characters -/

/-- The lower-case form of a code, in ASCII alone where `ascii`. -/
def lowerCode (ascii : Bool) (n : Nat) : Nat :=
  if ascii then (if 0x41 ≤ n && n ≤ 0x5A then n + 32 else n)
  else if n.isValidChar then (Text.lowerSimple (Char.ofNat n)).toNat
  else n

/-- The lower-case codes taken for a given one. -/
def foldCodes (ascii : Bool) (n : Nat) : List Nat := if ascii then [n] else Text.variantsOf n

/-- Whether a character is the one with a code, or a case variant of it. -/
def matchesCode (flags : Flags) (code : Nat) (c : Char) : Bool :=
  if flags.ignoreCase then
    (foldCodes flags.ascii (lowerCode flags.ascii code)).contains (lowerCode flags.ascii c.toNat)
  else c.toNat == code

/-- Whether a character has a code in a range, or is a case variant of one that has. -/
def matchesRange (flags : Flags) (low high : Nat) (c : Char) : Bool :=
  let holds (n : Nat) : Bool := low ≤ n && n ≤ high
  if flags.ignoreCase then
    (foldCodes flags.ascii (lowerCode flags.ascii c.toNat)).any fun n =>
      if flags.ascii then holds n || (0x61 ≤ n && n ≤ 0x7A && holds (n - 32))
      else (Text.raisedCodes n).any holds
  else holds c.toNat

/-- Whether a character is of a category. -/
def matchesCategory (flags : Flags) (c : Char) : Category → Bool
  | .digit => if flags.ascii then c.isDigit else Text.isDigit c
  | .blank =>
    if flags.ascii then c == ' ' || (9 ≤ c.toNat && c.toNat ≤ 13) else Text.isBlank c
  | .word => if flags.ascii then c.isAlphanum || c == '_' else Text.isWordChar c

/-- Whether a character belongs to part of a set. -/
def ClassItem.matches (flags : Flags) (c : Char) : ClassItem → Bool
  | .char code => matchesCode flags code c
  | .range low high => matchesRange flags low high c
  | .category kind negated => matchesCategory flags c kind != negated

/-- One character with a property. -/
def single (p : Char → Bool) : Matcher := fun c k =>
  match c.step? with
  | none => none
  | some (x, c) => if p x then k c else none

/-! ### Places -/

/-- Whether the place is between a word character and another or an end of the text. -/
def isBoundary (flags : Flags) (c : Cursor) : Bool :=
  let word (x : Option Char) : Bool := x.any fun x => matchesCategory flags x .word
  word c.before.head? != word c.after.head?

/-- Whether an anchor holds at a place.  A text without characters has no place for
    `noBoundary`. -/
def Anchor.holds (flags : Flags) (c : Cursor) : Anchor → Bool
  | .start => c.before.isEmpty || (flags.multiline && c.before.head? == some '\n')
  | .finish =>
    c.after.isEmpty || c.after == ['\n'] || (flags.multiline && c.after.head? == some '\n')
  | .textStart => c.before.isEmpty
  | .textEnd => c.after.isEmpty
  | .boundary => isBoundary flags c
  | .noBoundary => !(c.before.isEmpty && c.after.isEmpty) && !isBoundary flags c

/-! ### Repetition -/

/-- Whether another round is within the bound. -/
def mayRepeat (most : Option Nat) (count : Nat) : Bool := most.all (count < ·)

/-- Rounds of `m`, as many as possible first: `count` have been made, and `last` is where the last
    round beyond the least number began.  `fuel` bounds the number of rounds. -/
def greedy (m : Matcher) (least : Nat) (most : Option Nat) : Nat → Nat → Option Nat → Matcher
  | 0, _, _, _, _ => none
  | fuel + 1, count, last, c, k =>
    if count < least then m c fun c => greedy m least most fuel (count + 1) last c k
    else
      let again :=
        if mayRepeat most count && last != some c.position then
          m c fun d => greedy m least most fuel (count + 1) (some c.position) d k
        else none
      match again with
      | some done => some done
      | none => k c

/-- Rounds of `m`, as few as possible first. -/
def reluctant (m : Matcher) (least : Nat) (most : Option Nat) : Nat → Nat → Option Nat → Matcher
  | 0, _, _, _, _ => none
  | fuel + 1, count, last, c, k =>
    if count < least then m c fun c => reluctant m least most fuel (count + 1) last c k
    else
      match k c with
      | some done => some done
      | none =>
        if mayRepeat most count && last != some c.position then
          m c fun d => reluctant m least most fuel (count + 1) (some c.position) d k
        else none

/-- Rounds of `m`, each in its first possibility, as many as there are. -/
def possessive (m : Matcher) (least : Nat) (most : Option Nat) : Nat → Nat → Cursor → Option Cursor
  | 0, _, _ => none
  | fuel + 1, count, c =>
    if count < least then
      match m c some with
      | some d => possessive m least most fuel (count + 1) d
      | none => none
    else if mayRepeat most count then
      match m c some with
      | some d =>
        if d.position == c.position then some d else possessive m least most fuel (count + 1) d
      | none => some c
    else some c

/-! ### Expressions -/

/-- The characters of `expected`, one after another, equal by `same`. -/
def literally (same : Char → Char → Bool) : List Char → Matcher
  | [], c, k => k c
  | x :: rest, c, k => single (same x) c fun d => literally same rest d k

/-- Equality of characters, without regard to case where the switch is on. -/
def sameChar (flags : Flags) (a b : Char) : Bool :=
  if flags.ignoreCase then lowerCode flags.ascii a.toNat == lowerCode flags.ascii b.toNat else a == b

/-- Looks ahead from a place: the captures made there are kept. -/
def lookFrom (m : Matcher) (negated : Bool) (from? : Option Cursor) : Matcher := fun c k =>
  match from?.bind fun d => m d some with
  | some found => if negated then none else k { c with captures := found.captures }
  | none => if negated then k c else none

mutual

/-- The matcher of an expression under the switches in force. -/
def Node.matcher (groups : List (Option Width)) (flags : Flags) : Node → Matcher
  | .char code, c, k => single (matchesCode flags code) c k
  | .notChar code, c, k => single (fun x => !matchesCode flags code x) c k
  | .any, c, k => single (fun x => flags.dotAll || x != '\n') c k
  | .set negated items, c, k =>
    single (fun x => (items.any fun item => item.matches flags x) != negated) c k
  | .anchor place, c, k => if place.holds flags c then k c else none
  | .sequence parts, c, k => sequenceMatcher groups flags parts c k
  | .alternatives branches, c, k => branchMatcher groups flags branches c k
  | .group none on off body, c, k => body.matcher groups (flags.within on off) c k
  | .group (some g) on off body, c, k =>
    body.matcher groups (flags.within on off) (c.openGroup g) fun d => k (d.closeGroup g)
  | .atomic body, c, k =>
    match body.matcher groups flags c some with
    | some d => k d
    | none => none
  | .repetition style least most body, c, k =>
    let fuel := least + c.after.length + 2
    match style with
    | .greedy => greedy (body.matcher groups flags) least most fuel 0 none c k
    | .reluctant => reluctant (body.matcher groups flags) least most fuel 0 none c k
    | .possessive =>
      match possessive (body.matcher groups flags) least most fuel 0 c with
      | some d => k d
      | none => none
  | .reference g, c, k =>
    match c.captured? g with
    | some text => literally (sameChar flags) text c k
    | none => none
  | .conditional g yes no, c, k =>
    if (c.capture g).span?.isSome then yes.matcher groups flags c k
    else no.matcher groups flags c k
  | .look behind negated body, c, k =>
    let from? := if behind then c.back? (body.width groups).1 else some c
    lookFrom (body.matcher groups flags) negated from? c k
termination_by structural n => n

/-- Expressions one after another. -/
def sequenceMatcher (groups : List (Option Width)) (flags : Flags) : List Node → Matcher
  | [], c, k => k c
  | n :: rest, c, k => n.matcher groups flags c fun d => sequenceMatcher groups flags rest d k
termination_by structural n => n

/-- The first of some expressions that lets the rest succeed. -/
def branchMatcher (groups : List (Option Width)) (flags : Flags) : List Node → Matcher
  | [], _, _ => none
  | n :: rest, c, k =>
    match n.matcher groups flags c k with
    | some done => some done
    | none => branchMatcher groups flags rest c k
termination_by structural n => n

end

/-! ### Search -/

/-- The first match at a place or after it, as the places of its start and its end.  With
    `advance`, a match at the very place has to take a character. -/
def findFrom (m : Matcher) (advance : Bool) (c : Cursor) : List Char → Option (Cursor × Cursor)
  | [] => (m c fun d => if advance && d.position == c.position then none else some d).map (c, ·)
  | _ :: rest =>
    match m c fun d => if advance && d.position == c.position then none else some d with
    | some d => some (c, d)
    | none =>
      match c.step? with
      | some (_, d) => findFrom m false d rest
      | none => none

/-- The matches from a place on, by their ends; `fuel` bounds their number. -/
def findAll (m : Matcher) (fresh : List Capture) : Nat → Bool → Cursor → List Cursor
  | 0, _, _ => []
  | fuel + 1, advance, c =>
    match findFrom m advance { c with captures := fresh } c.after with
    | none => []
    | some (start, finish) =>
      finish :: findAll m fresh fuel (start.position == finish.position) finish

/-- For each match of the pattern in a text, from left to right, the text of the first capture
    group, if it has taken part. -/
def captures (p : Pattern) (text : List Char) : List (Option (List Char)) :=
  let fresh := List.replicate (p.groups + 1) ({} : Capture)
  let m := p.root.matcher p.widths p.flags
  (findAll m fresh (2 * text.length + 2) false ⟨0, [], text, fresh⟩).map fun c => c.captured? 1

end Phrasebook.Pattern
