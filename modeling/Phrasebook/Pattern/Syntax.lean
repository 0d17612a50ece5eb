import Phrasebook.Text.Blank
import Phrasebook.Text.Case

namespace Phrasebook.Pattern

/-!
# Patterns

The shape of a regular expression with captures, look-around and back references.

* `Flags` — the switches that an inline `(?…)` turns on or off;
* `ClassItem`, `Category` — what a character set is made of;
* `Node` — the expressions;
* `Pattern` — an expression with its capture groups and its global flags;
* `Node.width` — the least and the greatest number of characters that an expression matches, the
  width of a capture group being looked up where it is referred to.
-/

/-- Inline switches. -/
structure Flags where
  ignoreCase : Bool := false
  multiline : Bool := false
  dotAll : Bool := false
  verbose : Bool := false
  ascii : Bool := false
  unicode : Bool := false
  template : Bool := false
  deriving DecidableEq, Repr

namespace Flags

/-- The switches on in either. -/
def union (a b : Flags) : Flags :=
  ⟨a.ignoreCase || b.ignoreCase, a.multiline || b.multiline, a.dotAll || b.dotAll,
    a.verbose || b.verbose, a.ascii || b.ascii, a.unicode || b.unicode, a.template || b.template⟩

/-- Whether some switch is on in both. -/
def meets (a b : Flags) : Bool :=
  (a.ignoreCase && b.ignoreCase) || (a.multiline && b.multiline) || (a.dotAll && b.dotAll)
    || (a.verbose && b.verbose) || (a.ascii && b.ascii) || (a.unicode && b.unicode)
    || (a.template && b.template)

/-- The switches in force inside a group that turns `on` and `off` some: of the two character
    repertoires the one turned on replaces the other. -/
def within (outer on off : Flags) : Flags :=
  { ignoreCase := (outer.ignoreCase || on.ignoreCase) && !off.ignoreCase
    multiline := (outer.multiline || on.multiline) && !off.multiline
    dotAll := (outer.dotAll || on.dotAll) && !off.dotAll
    verbose := (outer.verbose || on.verbose) && !off.verbose
    ascii := on.ascii || (outer.ascii && !on.unicode)
    unicode := on.unicode || (outer.unicode && !on.ascii)
    template := outer.template }

end Flags

/-- Character categories. -/
inductive Category where
  | digit
  | blank
  | word
  deriving DecidableEq, Repr

/-- Part of a character set; characters are given by code. -/
inductive ClassItem where
  | char (code : Nat)
  | range (low high : Nat)
  | category (kind : Category) (negated : Bool)
  deriving DecidableEq, Repr

/-- Places between characters. -/
inductive Anchor where
  /-- `^`: the start of the text, or of a line. -/
  | start
  /-- `$`: the end of the text or before a final line feed, or the end of a line. -/
  | finish
  | textStart
  | textEnd
  /-- Between a word character and another, or an end of the text. -/
  | boundary
  | noBoundary
  deriving DecidableEq, Repr

/-- How a repetition chooses among the numbers of rounds. -/
inductive Style where
  /-- As many as possible first. -/
  | greedy
  /-- As few as possible first. -/
  | reluctant
  /-- As many as possible, and no other number. -/
  | possessive
  deriving DecidableEq, Repr

/-- An expression. -/
inductive Node where
  | char (code : Nat)
  | notChar (code : Nat)
  | any
  | set (negated : Bool) (items : List ClassItem)
  | anchor (place : Anchor)
  | sequence (parts : List Node)
  | alternatives (branches : List Node)
  /-- A group in parentheses, with the number of its capture if it is one. -/
  | group (capture : Option Nat) (on off : Flags) (body : Node)
  | atomic (body : Node)
  | repetition (style : Style) (least : Nat) (most : Option Nat) (body : Node)
  /-- The text that a capture group has matched. -/
  | reference (group : Nat)
  /-- One of two expressions, by whether a capture group has matched. -/
  | conditional (group : Nat) (yes no : Node)
  | look (behind negated : Bool) (body : Node)
  deriving Inhabited

/-- Whether an expression is a repetition. -/
def Node.isRepetition : Node → Bool
  | .repetition .. => true
  | _ => false

/-- Whether an expression is an anchor. -/
def Node.isAnchor : Node → Bool
  | .anchor _ => true
  | _ => false

/-- Least and greatest number of characters. -/
abbrev Width := Nat × Nat

/-- A width past every limit. -/
def unlimited : Nat := 0x10000000000000000

/-- A width cut at the limit. -/
def limited (w : Width) : Width := (min w.1 unlimited, min w.2 unlimited)

mutual

/-- The width of an expression, given the widths of the capture groups read before it. -/
def Node.width (groups : List (Option Width)) : Node → Width
  | .char _ | .notChar _ | .any | .set .. => (1, 1)
  | .anchor _ | .look .. => (0, 0)
  | .sequence parts => limited (sequenceWidth groups parts)
  | .alternatives [] => (0, 0)
  | .alternatives (branch :: others) => limited (branchWidth groups (branch.width groups) others)
  | .group _ _ _ body | .atomic body => body.width groups
  | .repetition _ least most body =>
    let (low, high) := body.width groups
    let greatest := match most with
      | none => if high == 0 then 0 else unlimited
      | some n => high * n
    limited (low * least, greatest)
  | .reference g => ((groups[g]?).getD none).getD (0, 0)
  | .conditional _ yes no =>
    let (a, b) := yes.width groups
    let (c, d) := no.width groups
    (min a c, max b d)
termination_by structural n => n

/-- The sum of the widths of some expressions. -/
def sequenceWidth (groups : List (Option Width)) : List Node → Width
  | [] => (0, 0)
  | n :: rest =>
    let (a, b) := n.width groups
    let (c, d) := sequenceWidth groups rest
    (a + c, b + d)
termination_by structural n => n

/-- The least and the greatest of a width and those of some expressions. -/
def branchWidth (groups : List (Option Width)) (w : Width) : List Node → Width
  | [] => w
  | n :: rest =>
    let (a, b) := n.width groups
    branchWidth groups (min w.1 a, max w.2 b) rest
termination_by structural n => n

end

end Phrasebook.Pattern

namespace Phrasebook

/-- A pattern: an expression, the widths of its capture groups by number, with none for group 0, and
    the switches on everywhere. -/
structure Pattern where
  root : Pattern.Node
  widths : List (Option Pattern.Width)
  flags : Pattern.Flags

/-- The number of capture groups. -/
def Pattern.groups (p : Pattern) : Nat := p.widths.length - 1

end Phrasebook
