namespace Phrasebook.Text

/-!
# Blanks, words and cuts

A blank is a white-space character of Unicode or one of the separators U+001C to U+001F.

* `words` — the maximal runs of other characters, in order;
* `normalise` — the words joined by single spaces;
* `trim`, `trimBy` — a text without the blanks (or other characters) at its ends;
* `cut` — the start of a text, up to a limit.
-/

/-- White space of any script, and the four information separators. -/
def isBlank (c : Char) : Bool :=
  let n := c.toNat
  n == 0x20 || (0x09 ≤ n && n ≤ 0x0D) || (0x1C ≤ n && n ≤ 0x1F) || n == 0x85 || n == 0xA0
    || n == 0x1680 || (0x2000 ≤ n && n ≤ 0x200A) || n == 0x2028 || n == 0x2029 || n == 0x202F
    || n == 0x205F || n == 0x3000

/-- The maximal runs of characters that are not blank. -/
def words : List Char → List (List Char)
  | [] => []
  | c :: rest =>
    if isBlank c then words rest
    else match rest with
      | [] => [[c]]
      | d :: _ =>
        if isBlank d then [c] :: words rest
        else match words rest with
          | [] => [[c]]
          | word :: others => (c :: word) :: others

/-- The words of a text, one space between neighbours. -/
def normalise (text : List Char) : List Char := [' '].intercalate (words text)

/-- A text without the leading and trailing characters that satisfy `drop`. -/
def trimBy (drop : Char → Bool) (text : List Char) : List Char :=
  ((text.dropWhile drop).reverse.dropWhile drop).reverse

/-- A text without its trailing characters that satisfy `drop`. -/
def trimEndBy (drop : Char → Bool) (text : List Char) : List Char :=
  (text.reverse.dropWhile drop).reverse

/-- A text without leading and trailing blanks. -/
def trim (text : List Char) : List Char := trimBy isBlank text

/-- A text of blanks alone, or of nothing. -/
def isBlankText (text : List Char) : Bool := text.all isBlank

/-- The first `limit` characters of a text; a negative limit leaves that many off the end. -/
def cut (text : List Char) (limit : Int) : List Char :=
  if 0 ≤ limit then text.take limit.toNat else text.take (text.length - limit.natAbs)

end Phrasebook.Text
