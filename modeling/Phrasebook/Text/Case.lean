import Phrasebook.Text.Class
import Phrasebook.Text.Case.Letters
import Phrasebook.Text.Case.LowerRuns
import Phrasebook.Text.Case.SigmaContext
import Phrasebook.Text.Case.UpperRuns
import Phrasebook.Text.Case.Variants

namespace Phrasebook.Text

/-!
# Letter case

Full case mapping of Unicode 14, without language-specific rules.

* `lower` — lower case; a capital sigma becomes a final one (`ς`) when a cased letter comes before
  it and none after it, case-ignorable characters being looked past;
* `upper` — upper case, where one character may become several;
* `isUpperText` — some upper-case letter, and no lower-case or title-case one.

ASCII is decided without the tables.
-/

/-- Whether the character has the property Uppercase. -/
def isUpperLetter (c : Char) : Bool :=
  if c.toNat < 128 then c.isUpper else inRanges uppercaseRanges c.toNat

/-- Whether the character has the property Lowercase. -/
def isLowerLetter (c : Char) : Bool :=
  if c.toNat < 128 then c.isLower else inRanges lowercaseRanges c.toNat

/-- Whether the character is a title-case letter. -/
def isTitleLetter (c : Char) : Bool :=
  if c.toNat < 128 then false else inRanges titlecaseRanges c.toNat

/-- Whether the final-sigma rule looks past the character. -/
def isCaseIgnorable (c : Char) : Bool :=
  if c.toNat < 128 then c == '\'' || c == '.' || c == ':' || c == '^' || c.toNat == 0x60
  else inRanges ignorableRanges c.toNat

/-- Whether the character is a cased letter that the final-sigma rule stops at. -/
def isCased (c : Char) : Bool :=
  if c.toNat < 128 then c.isAlpha else inRanges casedRanges c.toNat

/-- The counterpart that a table of runs gives to a code point. -/
def counterpart? (runs : List (Nat × Nat × Nat × Nat)) (n : Nat) : Option Nat :=
  (runs.find? fun (first, last, step, _) => first ≤ n && n ≤ last && (n - first) % step == 0).map
    fun (first, _, _, target) => target + (n - first)

/-- The one-character lower-case form. -/
def lowerSimple (c : Char) : Char :=
  if c.toNat < 128 then c.toLower
  else if c.toNat == 0x130 then 'i'
  else ((counterpart? lowerRuns c.toNat).map Char.ofNat).getD c

/-- The lower-case form outside a final-sigma position; a dotted capital I keeps its dot. -/
def lowerChar (c : Char) : List Char :=
  if c.toNat == 0x130 then ['i', '\u0307'] else [lowerSimple c]

/-- The lower-case letters that have the same upper-case form as a given one, itself included. -/
def variantsOf (n : Nat) : List Nat := n :: ((caseVariants.lookup n).getD [])

/-- The codes whose lower-case form is a given code. -/
def raisedCodes (n : Nat) : List Nat :=
  (if n.isValidChar && lowerSimple (Char.ofNat n) != Char.ofNat n then [] else [n])
    ++ (if 0x61 ≤ n && n ≤ 0x7A then [n - 32] else [])
    ++ (if n == 0x69 then [0x130] else [])
    ++ lowerRuns.filterMap fun (first, last, step, target) =>
      if target ≤ n && n - target ≤ last - first && (n - target) % step == 0
      then some (first + (n - target)) else none

/-- The upper-case form. -/
def upperChar (c : Char) : List Char :=
  if c.toNat < 128 then [c.toUpper]
  else match upperExpansions.find? (·.1 == c.toNat) with
    | some (_, codes) => codes.map Char.ofNat
    | none => [((counterpart? upperRuns c.toNat).map Char.ofNat).getD c]

/-- Whether the nearest character that is not looked past is a cased letter. -/
def casedNext : List Char → Bool
  | [] => false
  | c :: rest => if isCaseIgnorable c then casedNext rest else isCased c

/-- Lower case of a text in the middle of another: `afterCased` says whether the nearest character
    before it that is not looked past is a cased letter. -/
def lowerFrom (afterCased : Bool) : List Char → List Char
  | [] => []
  | c :: rest =>
    let here := if c == 'Σ' && afterCased && !casedNext rest then ['ς'] else lowerChar c
    here ++ lowerFrom (if isCaseIgnorable c then afterCased else isCased c) rest

/-- The text in lower case. -/
def lower (text : List Char) : List Char := lowerFrom false text

/-- The text in upper case. -/
def upper (text : List Char) : List Char := text.flatMap upperChar

/-- Some upper-case letter, and no lower-case or title-case one. -/
def isUpperText (text : List Char) : Bool :=
  text.any isUpperLetter && !text.any fun c => isLowerLetter c || isTitleLetter c

end Phrasebook.Text
