import Phrasebook.Decimal.Reading
import Phrasebook.Text.Names.Aliases
import Phrasebook.Text.Names.Alphabets
import Phrasebook.Text.Names.Ancient
import Phrasebook.Text.Names.EastAsian
import Phrasebook.Text.Names.Figures
import Phrasebook.Text.Names.Symbols

namespace Phrasebook.Text

/-!
# Character names

The names of characters (Unicode 14).  Most of them stand in tables, aliases among them; those of
ideographs and Hangul syllables are made by rules.

* `characterNamed?` — the character with a name.

A table has runs of characters that follow one another.  The names of a run are separated by
semicolons, and a digit before a name is the number of words that it shares with the one before.
-/

/-! ### Tables -/

/-- The names between semicolons. -/
def splitNames : List Char → List (List Char)
  | [] => [[]]
  | c :: rest =>
    match splitNames rest with
    | [] => []
    | name :: more => if c == ';' then [] :: name :: more else (c :: name) :: more

/-- The first words of a name, each with the blank after it. -/
def firstWords : Nat → List Char → List Char
  | 0, _ | _, [] => []
  | n + 1, c :: rest => c :: firstWords (if c == ' ' then n else n + 1) rest

/-- A name from the way it is written and the name before it. -/
def spellName (before : List Char) : List Char → List Char
  | [] => []
  | c :: rest => if c.isDigit then firstWords (c.toNat - '0'.toNat) before ++ rest else c :: rest

/-- The place of a name among written ones. -/
def placeAmong? (name before : List Char) : List (List Char) → Option Nat
  | [] => none
  | written :: rest =>
    let here := spellName before written
    if here == name then some 0 else (placeAmong? name here rest).map (· + 1)

/-- The code of the character with a name in a run, which starts at a code. -/
def codeInRun? (name : List Char) (run : Nat × List String) : Option Nat :=
  (placeAmong? name [] (run.2.flatMap fun line => splitNames line.toList)).map (run.1 + ·)

/-- All tables together. -/
def nameRuns : List (Nat × List String) :=
  alphabetNames ++ symbolNames ++ eastAsianNames ++ ancientNames ++ figureNames ++ aliasNames

/-! ### Rules -/

/-- Names that end in the code of their character: what comes before it, and the characters that have
    such a name. -/
def codedNames : List (String × List (Nat × Nat)) :=
  [("CJK COMPATIBILITY IDEOGRAPH-", [(0xF900, 0xFA6D), (0xFA70, 0xFAD9), (0x2F800, 0x2FA1D)]),
    ("KHITAN SMALL SCRIPT CHARACTER-", [(0x18B00, 0x18CD5)]),
    ("NUSHU CHARACTER-", [(0x1B170, 0x1B2FB)])]

/-- The unified ideographs. -/
def unifiedIdeographs : List (Nat × Nat) :=
  [(0x3400, 0x4DBF), (0x4E00, 0x9FFF), (0x20000, 0x2A6DF), (0x2A700, 0x2B738), (0x2B740, 0x2B81D),
    (0x2B820, 0x2CEA1), (0x2CEB0, 0x2EBE0), (0x30000, 0x3134A)]

/-- A code in four or five digits, if it is in one of some ranges. -/
def codeWithin? (ranges : List (Nat × Nat)) (digits : List Char) : Option Nat :=
  let wide := digits.length == 4 || digits.length == 5
  let upper := digits.all fun c => c.isDigit || ('A' ≤ c && c ≤ 'F')
  if wide && upper then
    (Decimal.naturalOf 16 0 digits).filter fun n => ranges.any fun r => r.1 ≤ n && n ≤ r.2
  else none

/-- The code at the end of a name, written without zeros before it. -/
def codeAtEnd? (name : List Char) : Option Nat :=
  codedNames.findSome? fun (start, ranges) =>
    if start.toList.isPrefixOf name then
      (codeWithin? ranges (name.drop start.length)).filter fun n =>
        (name.drop start.length).length == if n < 0x10000 then 4 else 5
    else none

/-- The consonants that start a syllable. -/
def leads : List String :=
  ["G", "GG", "N", "D", "DD", "R", "M", "B", "BB", "S", "SS", "", "J", "JJ", "C", "K", "T", "P", "H"]

/-- The vowels. -/
def vowels : List String :=
  ["A", "AE", "YA", "YAE", "EO", "E", "YEO", "YE", "O", "WA", "WAE", "OE", "YO", "U", "WEO", "WE",
    "WI", "YU", "EU", "YI", "I"]

/-- The consonants that end a syllable. -/
def tails : List String :=
  ["", "G", "GG", "GS", "N", "NJ", "NH", "D", "L", "LG", "LM", "LB", "LS", "LT", "LP", "LH", "M", "B",
    "BS", "S", "SS", "NG", "J", "C", "K", "T", "P", "H"]

/-- The longest of some texts, none of more than three letters, that a text starts with: its place
    among them, and what follows it. -/
def longestStart? (texts : List String) (text : List Char) : Option (Nat × List Char) :=
  [3, 2, 1, 0].findSome? fun n =>
    (texts.idxOf? (String.ofList (text.take n))).map fun place => (place, text.drop n)

/-- The code of a syllable. -/
def syllable? (text : List Char) : Option Nat := do
  let (lead, text) ← longestStart? leads text
  let (vowel, text) ← longestStart? vowels text
  let (tail, text) ← longestStart? tails text
  if text.isEmpty then
    return 0xAC00 + (lead * vowels.length + vowel) * tails.length + tail
  else none

/-! ### All names -/

/-- What the names of syllables start with. -/
def syllableStart : List Char := "HANGUL SYLLABLE ".toList

/-- What the names of unified ideographs start with. -/
def ideographStart : List Char := "CJK UNIFIED IDEOGRAPH-".toList

/-- The character with a name.  Case makes no difference to ASCII letters, but for the names of
    syllables and unified ideographs. -/
def characterNamed? (name : List Char) : Option Char :=
  let code :=
    if syllableStart.isPrefixOf name then syllable? (name.drop syllableStart.length)
    else if ideographStart.isPrefixOf name then
      codeWithin? unifiedIdeographs (name.drop ideographStart.length)
    else
      let name := name.map Char.toUpper
      (codeAtEnd? name).or (nameRuns.findSome? (codeInRun? name))
  code.map Char.ofNat

end Phrasebook.Text
