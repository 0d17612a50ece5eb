import Phrasebook.Decimal.Notation
import Phrasebook.Text.Quoted

namespace Phrasebook.Pattern

/-!
# Faults of patterns

Why a text is no pattern.  Most causes have a place in the text, counted in characters; the message
names it, with line and column when the text has several lines.
-/

/-- What is wrong at a place. -/
inductive Cause where
  | danglingBackslash
  | badEscape (escape : List Char)
  | incompleteEscape (escape : List Char)
  | octalOutOfRange (escape : List Char)
  | missingBrace
  | missingName (what : String)
  | unterminatedName (what : Char)
  | unknownCharacter (name : List Char)
  | openGroup
  | lookBehindGroup
  | groupReference (digits : List Char)
  | unterminatedSet
  | badRange (low high : List Char)
  | repeatBounds
  | nothingToRepeat
  | multipleRepeat
  | unexpectedEnd
  | badGroupName (name : List Char)
  | unknownGroup (name : List Char)
  | unknownExtension (text : List Char)
  | unterminatedComment
  | unterminatedGroup
  | badGroupNumber
  | manyBranches
  | flagsNotAtStart
  | localeFlag
  | conflictingFlags
  | missingFlagEnd
  | unknownFlag
  | globalFlagOn
  | missingFlag
  | characterFlagOff
  | missingColon
  | globalFlagOff
  | flagOnAndOff
  | redefinedGroup (name : List Char) (new old : Nat)
  | unbalanced
  deriving DecidableEq, Repr

/-- Why a text is no pattern. -/
inductive Fault where
  | malformed (cause : Cause) (position : Nat)
  | variableLookBehind
  | longLookBehind
  | templateRepeat (possessive reluctant : Bool)
  /-- Both character repertoires are asked for. -/
  | incompatibleFlags
  /-- A bound of a repetition is past the limit. -/
  | repetitionTooLarge
  deriving DecidableEq, Repr

/-- The cause in words. -/
def Cause.text : Cause → List Char
  | .danglingBackslash => "bad escape (end of pattern)".toList
  | .badEscape e => "bad escape ".toList ++ e
  | .incompleteEscape e => "incomplete escape ".toList ++ e
  | .octalOutOfRange e =>
    "octal escape value ".toList ++ e ++ " outside of range 0-0o377".toList
  | .missingBrace => "missing \x7b".toList
  | .missingName what => "missing ".toList ++ what.toList
  | .unterminatedName c => "missing ".toList ++ c :: ", unterminated name".toList
  | .unknownCharacter name => "undefined character name ".toList ++ Text.quoted name
  | .openGroup => "cannot refer to an open group".toList
  | .lookBehindGroup =>
    "cannot refer to group defined in the same lookbehind subpattern".toList
  | .groupReference digits => "invalid group reference ".toList ++ digits
  | .unterminatedSet => "unterminated character set".toList
  | .badRange low high => "bad character range ".toList ++ low ++ '-' :: high
  | .repeatBounds => "min repeat greater than max repeat".toList
  | .nothingToRepeat => "nothing to repeat".toList
  | .multipleRepeat => "multiple repeat".toList
  | .unexpectedEnd => "unexpected end of pattern".toList
  | .badGroupName name => "bad character in group name ".toList ++ Text.quoted name
  | .unknownGroup name => "unknown group name ".toList ++ Text.quoted name
  | .unknownExtension text => "unknown extension ?".toList ++ text
  | .unterminatedComment => "missing ), unterminated comment".toList
  | .unterminatedGroup => "missing ), unterminated subpattern".toList
  | .badGroupNumber => "bad group number".toList
  | .manyBranches => "conditional backref with more than two branches".toList
  | .flagsNotAtStart => "global flags not at the start of the expression".toList
  | .localeFlag => "bad inline flags: cannot use 'L' flag with a str pattern".toList
  | .conflictingFlags => "bad inline flags: flags 'a', 'u' and 'L' are incompatible".toList
  | .missingFlagEnd => "missing -, : or )".toList
  | .unknownFlag => "unknown flag".toList
  | .globalFlagOn => "bad inline flags: cannot turn on global flag".toList
  | .missingFlag => "missing flag".toList
  | .characterFlagOff => "bad inline flags: cannot turn off flags 'a', 'u' and 'L'".toList
  | .missingColon => "missing :".toList
  | .globalFlagOff => "bad inline flags: cannot turn off global flag".toList
  | .flagOnAndOff => "bad inline flags: flag turned on and off".toList
  | .redefinedGroup name new old =>
    "redefinition of group name ".toList ++ Text.quoted name ++ " as group ".toList
      ++ Decimal.natText new ++ "; was group ".toList ++ Decimal.natText old
  | .unbalanced => "unbalanced parenthesis".toList

/-- ` at position N`, followed by line and column when the text has several lines. -/
def placeText (source : List Char) (position : Nat) : List Char :=
  let before := source.take position
  let place := " at position ".toList ++ Decimal.natText position
  if source.contains '\n' then
    let column := (before.reverse.takeWhile (· != '\n')).length + 1
    place ++ " (line ".toList ++ Decimal.natText (before.count '\n' + 1) ++ ", column ".toList
      ++ Decimal.natText column ++ [')']
  else place

/-- The fault in words, for the text that has it. -/
def Fault.text (source : List Char) : Fault → List Char
  | .malformed cause position => cause.text ++ placeText source position
  | .variableLookBehind => "look-behind requires fixed-width pattern".toList
  | .longLookBehind => "looks too much behind".toList
  | .templateRepeat possessive reluctant =>
    "internal: unsupported template operator ".toList
      ++ (if possessive then "POSSESSIVE_REPEAT" else if reluctant then "MIN_REPEAT"
          else "MAX_REPEAT").toList
  | .incompatibleFlags => "ASCII and UNICODE flags are incompatible".toList
  | .repetitionTooLarge => "the repetition number is too large".toList

end Phrasebook.Pattern
