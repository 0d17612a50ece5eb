import Phrasebook.Text.Case

namespace Phrasebook.Inflection

/-!
# Plurals of English nouns

`pluralize` inflects the last part of a hyphenated noun and keeps its capitals.  A noun is looked up
among the uncountable and the irregular ones first; the others take `-ies` after a consonant and y,
`-es` after a sibilant and `-s` else.  Both endings are also seen before a final line feed.
-/

open Text

/-- Nouns without a plural of their own. -/
def uncountable : List String :=
  ["sheep", "fish", "deer", "series", "species", "money", "rice", "information", "equipment",
    "news", "software", "feedback", "data"]

/-- Nouns with a plural that no rule gives. -/
def irregular : List (String × String) :=
  [("person", "people"), ("man", "men"), ("woman", "women"), ("child", "children"),
    ("tooth", "teeth"), ("foot", "feet"), ("mouse", "mice"), ("goose", "geese"), ("ox", "oxen"),
    ("leaf", "leaves"), ("life", "lives"), ("knife", "knives"), ("wife", "wives"),
    ("half", "halves"), ("wolf", "wolves"), ("shelf", "shelves"), ("thief", "thieves"),
    ("self", "selves"), ("elf", "elves"), ("loaf", "loaves"), ("calf", "calves"),
    ("cactus", "cacti"), ("focus", "foci"), ("radius", "radii"), ("criterion", "criteria"),
    ("phenomenon", "phenomena"), ("datum", "data"), ("medium", "media"),
    ("analysis", "analyses"), ("crisis", "crises"), ("thesis", "theses"), ("index", "indices"),
    ("matrix", "matrices"), ("vertex", "vertices"), ("quiz", "quizzes"), ("potato", "potatoes"),
    ("tomato", "tomatoes"), ("hero", "heroes"), ("echo", "echoes")]

/-- A small vowel. -/
def isVowel (c : Char) : Bool := c == 'a' || c == 'e' || c == 'i' || c == 'o' || c == 'u'

/-- A reversed word without the line feed that it may end in. -/
def dropLineFeed : List Char → List Char
  | '\n' :: rest => rest
  | word => word

/-- A reversed word that ends in y after something other than a vowel. -/
def endsInConsonantY : List Char → Bool
  | 'y' :: c :: _ => !isVowel c
  | _ => false

/-- A reversed word that ends in s, x, z, ch or sh. -/
def endsInSibilant : List Char → Bool
  | 's' :: _ | 'x' :: _ | 'z' :: _ => true
  | 'h' :: c :: _ => c == 'c' || c == 's'
  | _ => false

/-- Whether a word has an ending, or would without a final line feed. -/
def hasEnding (ending : List Char → Bool) (word : List Char) : Bool :=
  ending word.reverse || ending (dropLineFeed word.reverse)

/-- The plural of a noun in lower case. -/
def pluralOf (noun : List Char) : List Char :=
  if uncountable.any (·.toList == noun) then noun
  else match irregular.find? (·.1.toList == noun) with
    | some (_, plural) => plural.toList
    | none =>
      if hasEnding endsInConsonantY noun then noun.dropLast ++ ['i', 'e', 's']
      else if hasEnding endsInSibilant noun then noun ++ ['e', 's']
      else noun ++ ['s']

/-- The plural with the capitals of the noun: all of it when the noun, of more than one character,
    is in upper case, and the first character when that of the noun is. -/
def matchCase (noun plural : List Char) : List Char :=
  if isUpperText noun && 1 < noun.length then upper plural
  else if isUpperText (noun.take 1) then upper (plural.take 1) ++ plural.drop 1
  else plural

/-- The part of a word up to and with its last hyphen, and the part after it. -/
def splitHyphen (word : List Char) : List Char × List Char :=
  let tail := (word.reverse.takeWhile (· != '-')).reverse
  (word.take (word.length - tail.length), tail)

/-- The plural of a noun. -/
def pluralize (word : List Char) : List Char :=
  let (head, tail) := splitHyphen word
  if tail.isEmpty then word else head ++ matchCase tail (pluralOf (lower tail))

end Phrasebook.Inflection
