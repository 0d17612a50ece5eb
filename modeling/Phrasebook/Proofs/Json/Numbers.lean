import Phrasebook.Proofs.Json.Reading
import Phrasebook.Text.Case

namespace Phrasebook.Json

/-!
# What a number is worth

The digits of a number before and after its point are those of one integer, its significand, and
the exponent says by which power of ten that is scaled.

* `Numeral.significand`, `Numeral.power` — the two;
* `readNumber?_written` — a number is read as the nearest number to its significand, scaled;
* `readNumber?_folded` — so is the number without its sign and in lower case.
-/

open Decimal

/-! ### The two parts -/

/-- The value of an exponent. -/
def Exponent.value (e : Exponent) : Int :=
  let n := (naturalOf 10 0 e.digits).getD 0
  if e.sign == some '-' then -(n : Int) else n

namespace Numeral

/-- The digits of a number without its point. -/
def significand (n : Numeral) : Nat := (naturalOf 10 0 (n.whole ++ n.fraction)).getD 0

/-- The power of ten that its last digit counts. -/
def power (n : Numeral) : Int := (n.exponent.map Exponent.value).getD 0 - n.fraction.length

end Numeral

/-! ### Digits -/

/-- Digits have a value. -/
theorem exists_naturalOf {digits : List Char} (h : digits.all Char.isDigit = true) (start : Nat) :
    ∃ n, naturalOf 10 start digits = some n := by
  induction digits generalizing start with
  | nil => exact ⟨start, rfl⟩
  | cons c digits ih =>
    rw [List.all_cons, Bool.and_eq_true] at h
    have hvalue : digitOf? c = some (c.toNat - '0'.toNat) := if_pos h.1
    have hsmall : c.toNat - '0'.toNat < 10 := by
      have hlast : c.toNat ≤ 57 := by
        have hdigit := h.1
        rw [Char.isDigit, Bool.and_eq_true, decide_eq_true_eq, decide_eq_true_eq] at hdigit
        exact UInt32.le_iff_toNat_le.mp hdigit.2
      have hzero : '0'.toNat = 48 := rfl
      omega
    rw [naturalOf, hvalue]
    dsimp only
    rw [if_pos hsmall]
    exact ih h.2 _

/-- The same with the value left out. -/
theorem naturalOf_eq_getD {digits : List Char} (h : digits.all Char.isDigit = true) :
    naturalOf 10 0 digits = some ((naturalOf 10 0 digits).getD 0) := by
  obtain ⟨n, hn⟩ := exists_naturalOf h 0
  rw [hn]
  rfl

/-! ### Characters of numbers -/

/-- A character of a number. -/
def isNumberChar (c : Char) : Bool :=
  c.isDigit || c == '.' || c == '+' || c == '-' || c == 'e' || c == 'E'

/-- Any other character than those is none of a number. -/
theorem ne_of_isNumberChar {c d : Char} (h : isNumberChar c = true)
    (hd : isNumberChar d = false) : c ≠ d := by
  rintro rfl
  rw [hd] at h
  cases h

/-- A number has no characters but those of ASCII. -/
theorem toNat_lt_of_isNumberChar {c : Char} (h : isNumberChar c = true) : c.toNat < 128 := by
  simp only [isNumberChar, Bool.or_eq_true, beq_iff_eq] at h
  rcases h with ((((hdigit | rfl) | rfl) | rfl) | rfl) | rfl
  · rw [Char.isDigit, Bool.and_eq_true, decide_eq_true_eq, decide_eq_true_eq] at hdigit
    have hlast : c.toNat ≤ 57 := UInt32.le_iff_toNat_le.mp hdigit.2
    omega
  all_goals decide

/-- Nor blanks. -/
theorem isBlank_of_isNumberChar {c : Char} (h : isNumberChar c = true) :
    Text.isBlank c = false := by
  simp only [isNumberChar, Bool.or_eq_true, beq_iff_eq] at h
  rcases h with ((((hdigit | rfl) | rfl) | rfl) | rfl) | rfl
  · rw [Char.isDigit, Bool.and_eq_true, decide_eq_true_eq, decide_eq_true_eq] at hdigit
    have hfirst : 48 ≤ c.toNat := UInt32.le_iff_toNat_le.mp hdigit.1
    have hlast : c.toNat ≤ 57 := UInt32.le_iff_toNat_le.mp hdigit.2
    simp only [Text.isBlank, Bool.or_eq_false_iff, Bool.and_eq_false_iff, beq_eq_false_iff_ne,
      decide_eq_false_iff_not]
    omega
  all_goals decide

/-- Digits are characters of numbers. -/
theorem all_isNumberChar {digits : List Char} (h : digits.all Char.isDigit = true) :
    digits.all isNumberChar = true := by
  rw [List.all_eq_true] at h ⊢
  intro c hc
  unfold isNumberChar
  rw [h c hc]
  rfl

/-- So are all characters of a number as it is written. -/
theorem all_isNumberChar_unsigned {n : Numeral} (h : n.isSound = true) :
    n.unsigned.all isNumberChar = true := by
  simp only [Numeral.isSound, Bool.and_eq_true, beq_iff_eq] at h
  obtain ⟨⟨⟨⟨-, hwhole⟩, hfraction⟩, hexponent⟩, -⟩ := h
  have hpoint : n.point.all isNumberChar = true := by
    unfold Numeral.point
    split
    · rfl
    · rw [List.all_cons, all_isNumberChar hfraction]
      rfl
  have htail : n.tail.all isNumberChar = true := by
    unfold Numeral.tail
    cases he : n.exponent with
    | none => rfl
    | some e =>
      rw [he, Option.all_some] at hexponent
      obtain ⟨letter, sign, d, more, rfl, hletter, hsign, hdigits⟩ :=
        Exponent.cases_of_isSound hexponent
      have hsignChar : sign.toList.all isNumberChar = true := by
        rcases hsign with rfl | rfl | rfl <;> rfl
      rw [Option.map_some, Option.getD_some, Exponent.written, List.all_cons, List.all_append,
        hsignChar, all_isNumberChar hdigits]
      rcases hletter with rfl | rfl <;> rfl
  rw [Numeral.unsigned, List.all_append, List.all_append, hpoint, htail,
    all_isNumberChar (all_isDigit_of_wholeDigits hwhole)]
  rfl

/-- With the sign. -/
theorem all_isNumberChar_written {n : Numeral} (h : n.isSound = true) :
    n.written.all isNumberChar = true := by
  rw [Numeral.written, List.all_append, all_isNumberChar_unsigned h]
  unfold Numeral.sign
  cases n.negative <;> rfl

/-! ### Preparing a text -/

/-- The characters of a number are in ASCII already. -/
theorem toAscii_of_isNumberChar {text : List Char} (h : text.all isNumberChar = true) :
    toAscii text = text := by
  rw [List.all_eq_true] at h
  have hsame : toAscii text = text.map id :=
    List.map_congr_left fun c hc => if_pos (toNat_lt_of_isNumberChar (h c hc))
  rw [hsame, List.map_id]

/-- There is nothing to trim. -/
theorem trim_of_isNumberChar {text : List Char} (h : text.all isNumberChar = true) :
    Text.trim text = text := by
  have hdrop : ∀ {t : List Char}, t.all isNumberChar = true → t.dropWhile Text.isBlank = t := by
    intro t ht
    cases t with
    | nil => rfl
    | cons c t =>
      rw [List.all_cons, Bool.and_eq_true] at ht
      rw [List.dropWhile_cons_of_neg]
      rw [isBlank_of_isNumberChar ht.1]
      exact Bool.false_ne_true
  unfold Text.trim Text.trimBy
  rw [hdrop h, hdrop (by rw [List.all_reverse]; exact h), List.reverse_reverse]

/-- There are no underscores between digits. -/
theorem joinDigits_of_isNumberChar {text : List Char} (h : text.all isNumberChar = true) :
    joinDigits text = some text := by
  have hgo : ∀ previous, joinDigits.go previous text = some text := by
    induction text with
    | nil => exact fun _ => rfl
    | cons c text ih =>
      intro previous
      rw [List.all_cons, Bool.and_eq_true] at h
      have hc : c ≠ '_' := ne_of_isNumberChar h.1 (by decide)
      rw [joinDigits.go]
      · rw [if_neg (by simpa using hc), ih h.2]
        rfl
      · rintro d rest rfl -
        exact hc rfl
  exact hgo ' '

/-- Lower case changes nothing but the letter of an exponent. -/
theorem lower_of_isNumberChar {text : List Char} (h : text.all isNumberChar = true) :
    Text.lower text = text.map Char.toLower := by
  have hlower : ∀ afterCased, Text.lowerFrom afterCased text = text.map Char.toLower := by
    induction text with
    | nil => exact fun _ => rfl
    | cons c text ih =>
      intro afterCased
      rw [List.all_cons, Bool.and_eq_true] at h
      have hsmall := toNat_lt_of_isNumberChar h.1
      have hsigma : (c == 'Σ') = false :=
        beq_eq_false_iff_ne.mpr (ne_of_isNumberChar h.1 (by decide))
      have hdotted : (c.toNat == 0x130) = false := by
        rw [beq_eq_false_iff_ne]
        omega
      rw [Text.lowerFrom, ih h.2, hsigma, Text.lowerChar, hdotted, Text.lowerSimple,
        if_pos hsmall]
      rfl
  exact hlower false

/-! ### Reading -/

/-- A sign is split off. -/
theorem splitSign_append {d : Char} (h : d.isDigit = true) (n : Numeral) (rest : List Char) :
    splitSign (n.sign ++ d :: rest) = (n.negative, d :: rest) := by
  unfold Numeral.sign
  cases n.negative with
  | true => rfl
  | false =>
    rw [if_neg Bool.false_ne_true, List.nil_append, splitSign]
    · exact fun _ hmore => ne_of_isDigit h rfl (List.cons.inj hmore).1
    · exact fun _ hmore => ne_of_isDigit h rfl (List.cons.inj hmore).1

/-- The rest of a number is the one without a sign. -/
theorem splitSign_written {n : Numeral} (h : n.isSound = true) :
    splitSign n.written = (n.negative, n.unsigned) := by
  obtain ⟨d, rest, hdigit, hd⟩ := exists_unsigned_cons h
  rw [Numeral.written, hd]
  exact splitSign_append hdigit n rest

/-- Digits have no letter case. -/
theorem toLower_of_isDigit {d : Char} (h : d.isDigit = true) : d.toLower = d := by
  unfold Char.toLower
  refine dif_neg fun hupper => ?_
  rw [Char.isDigit, Bool.and_eq_true, decide_eq_true_eq, decide_eq_true_eq] at h
  have hlast : d.toNat ≤ 57 := UInt32.le_iff_toNat_le.mp h.2
  have hfirst : 65 ≤ d.toNat := UInt32.le_iff_toNat_le.mp hupper.1
  omega

/-- No word starts with a digit. -/
theorem word?_of_isDigit {d : Char} (h : d.isDigit = true) (rest : List Char) (negative : Bool) :
    word? negative (d :: rest) = none := by
  have hne : ∀ c : Char, c.isDigit = false → ∀ word : List Char,
      String.ofList (d :: rest.map Char.toLower) ≠ String.ofList (c :: word) := by
    intro c hc word heq
    exact ne_of_isDigit h hc (List.cons.inj (String.ofList_injective heq)).1
  unfold word?
  rw [List.map_cons, toLower_of_isDigit h]
  dsimp only
  rw [if_neg, if_neg]
  · rw [beq_iff_eq]
    exact hne 'n' (by decide) ['a', 'n']
  · rw [Bool.or_eq_true, beq_iff_eq, beq_iff_eq]
    rintro (heq | heq)
    · exact hne 'i' (by decide) ['n', 'f'] heq
    · exact hne 'i' (by decide) ['n', 'f', 'i', 'n', 'i', 't', 'y'] heq

/-- An exponent is read. -/
theorem readExponent?_tail {n : Numeral} (h : n.exponent.all Exponent.isSound = true) :
    readExponent? n.tail = some ((n.exponent.map Exponent.value).getD 0) := by
  unfold Numeral.tail
  cases he : n.exponent with
  | none => rfl
  | some e =>
    rw [he, Option.all_some] at h
    obtain ⟨letter, sign, d, more, rfl, hletter, hsign, hdigits⟩ := Exponent.cases_of_isSound h
    have hsplit : splitSign (sign.toList ++ d :: more) = (sign == some '-', d :: more) := by
      rcases hsign with rfl | rfl | rfl
      · rw [List.all_cons, Bool.and_eq_true] at hdigits
        exact splitSign_append hdigits.1 ⟨false, [], [], none⟩ more
      all_goals rfl
    have hnot : ¬ ((letter != 'e' && letter != 'E') = true) := by
      rcases hletter with rfl | rfl <;> decide
    rw [Option.map_some, Option.getD_some, Option.map_some, Option.getD_some, Exponent.written,
      readExponent?, if_neg hnot, hsplit]
    dsimp only
    rw [List.isEmpty_cons, if_neg Bool.false_ne_true, naturalOf_eq_getD hdigits]
    rfl

/-- The digits after a point that comes first, and what is after them. -/
def splitFraction : List Char → List Char × List Char
  | '.' :: rest => (rest.takeWhile Char.isDigit, rest.dropWhile Char.isDigit)
  | rest => ([], rest)

/-- The parts of a number are the digits that come first, those after a point, and the rest. -/
theorem readUnsigned?_of_parts {negative : Bool} {text whole rest fraction tail : List Char}
    (hwhole : text.takeWhile Char.isDigit = whole) (hrest : text.dropWhile Char.isDigit = rest)
    (hfraction : splitFraction rest = (fraction, tail)) :
    readUnsigned? negative text =
      if whole.isEmpty && fraction.isEmpty then none
      else do
        let exponent ← readExponent? tail
        let digits ← naturalOf 10 0 (whole ++ fraction)
        return Binary64.ofScientific negative digits (exponent - fraction.length) := by
  subst hwhole hrest
  have hpair : ∀ parts : List Char × List Char, parts = (fraction, tail) →
      fraction = parts.1 ∧ tail = parts.2 := by
    rintro parts rfl
    exact ⟨rfl, rfl⟩
  obtain ⟨rfl, rfl⟩ := hpair _ hfraction
  rfl

/-- Digits are split from what comes after them. -/
theorem splitDigits_append {digits rest : List Char} (h : digits.all Char.isDigit = true)
    (hrest : endsDigits rest = true) :
    (digits ++ rest).takeWhile Char.isDigit = digits ∧
      (digits ++ rest).dropWhile Char.isDigit = rest := by
  have htake := takeWhile_isDigit_append h hrest
  have happend := List.takeWhile_append_dropWhile (p := Char.isDigit) (l := digits ++ rest)
  rw [htake] at happend
  exact ⟨htake, List.append_cancel_left happend⟩

/-- A number without its sign is its significand, scaled. -/
theorem readUnsigned?_unsigned {n : Numeral} (h : n.isSound = true) (negative : Bool) :
    readUnsigned? negative n.unsigned =
      some (Binary64.ofScientific negative n.significand n.power) := by
  have hsound := h
  simp only [Numeral.isSound, Bool.and_eq_true, beq_iff_eq, Bool.not_eq_true'] at hsound
  obtain ⟨⟨⟨⟨hne, hwhole⟩, hfraction⟩, hexponent⟩, -⟩ := hsound
  have hends : endsDigits (n.point ++ n.tail) = true := by
    have hpoint := endsDigits_point hexponent (show endsNumber [] = true from rfl)
    rwa [List.append_nil] at hpoint
  have htail : endsDigits n.tail = true ∧ n.tail.head? ≠ some '.' := by
    have htail := endsDigits_tail hexponent (show endsNumber [] = true from rfl)
    rwa [List.append_nil] at htail
  have hparts : splitFraction (n.point ++ n.tail) = (n.fraction, n.tail) := by
    unfold Numeral.point
    cases hf : n.fraction with
    | nil =>
      rw [List.isEmpty_nil, if_pos rfl, List.nil_append, splitFraction]
      rintro rest hrest
      rw [hrest] at htail
      exact htail.2 rfl
    | cons d rest =>
      rw [hf] at hfraction
      obtain ⟨htake, hdrop⟩ := splitDigits_append hfraction htail.1
      rw [List.isEmpty_cons, if_neg Bool.false_ne_true, List.cons_append, splitFraction, htake,
        hdrop]
  have hall : (n.whole ++ n.fraction).all Char.isDigit = true := by
    rw [List.all_append, all_isDigit_of_wholeDigits hwhole, hfraction]
    rfl
  obtain ⟨htake, hdrop⟩ := splitDigits_append (all_isDigit_of_wholeDigits hwhole) hends
  unfold Numeral.unsigned
  rw [readUnsigned?_of_parts htake hdrop hparts, hne, Bool.false_and,
    if_neg Bool.false_ne_true, readExponent?_tail hexponent, naturalOf_eq_getD hall]
  rfl

/-- **A number is read** as the nearest number to its significand, scaled. -/
theorem readNumber?_written {n : Numeral} (h : n.isSound = true) :
    readNumber? n.written =
      some (Binary64.ofScientific n.negative n.significand n.power) := by
  have hchars := all_isNumberChar_written h
  obtain ⟨d, rest, hdigit, hd⟩ := exists_unsigned_cons h
  unfold readNumber?
  rw [toAscii_of_isNumberChar hchars, trim_of_isNumberChar hchars,
    joinDigits_of_isNumberChar hchars]
  rw [Option.bind_eq_bind, Option.bind_some]
  dsimp only
  rw [splitSign_written h]
  dsimp only
  rw [show word? n.negative n.unsigned = none by rw [hd]; exact word?_of_isDigit hdigit _ _]
  exact readUnsigned?_unsigned h n.negative

/-! ### Without sign and letter case -/

/-- An exponent in lower case. -/
def Exponent.folded (e : Exponent) : Exponent := { e with letter := 'e' }

/-- A number without its sign and in lower case. -/
def Numeral.folded (n : Numeral) : Numeral :=
  { n with negative := false, exponent := n.exponent.map Exponent.folded }

/-- It keeps the rules. -/
theorem isSound_folded {n : Numeral} (h : n.isSound = true) : n.folded.isSound = true := by
  simp only [Numeral.isSound, Bool.and_eq_true] at h ⊢
  obtain ⟨⟨⟨⟨hne, hwhole⟩, hfraction⟩, hexponent⟩, hlimit⟩ := h
  refine ⟨⟨⟨⟨hne, hwhole⟩, hfraction⟩, ?_⟩, ?_⟩
  · unfold Numeral.folded
    cases he : n.exponent with
    | none => rfl
    | some e =>
      rw [he, Option.all_some] at hexponent
      simp only [Exponent.isSound, Bool.and_eq_true] at hexponent
      simp [Exponent.isSound, Exponent.folded, hexponent]
  · have hinteger : n.folded.isInteger = n.isInteger := by
      unfold Numeral.isInteger Numeral.folded
      rw [Option.isNone_map]
    rw [hinteger]
    exact hlimit

/-- Its characters are those of the number in lower case. -/
theorem written_folded {n : Numeral} (h : n.isSound = true) :
    n.folded.written = n.unsigned.map Char.toLower := by
  simp only [Numeral.isSound, Bool.and_eq_true, beq_iff_eq] at h
  obtain ⟨⟨⟨⟨-, hwhole⟩, hfraction⟩, hexponent⟩, -⟩ := h
  have hdigits : ∀ {digits : List Char}, digits.all Char.isDigit = true →
      digits.map Char.toLower = digits := by
    intro digits h
    rw [List.all_eq_true] at h
    have hsame : digits.map Char.toLower = digits.map id :=
      List.map_congr_left fun c hc => toLower_of_isDigit (h c hc)
    rw [hsame, List.map_id]
  have hpoint : n.point.map Char.toLower = n.point := by
    unfold Numeral.point
    split
    · rfl
    · rw [List.map_cons, hdigits hfraction]
      rfl
  have htail : n.folded.tail = n.tail.map Char.toLower := by
    unfold Numeral.tail Numeral.folded
    cases he : n.exponent with
    | none => rfl
    | some e =>
      rw [he, Option.all_some] at hexponent
      obtain ⟨letter, sign, d, more, rfl, hletter, hsign, hall⟩ :=
        Exponent.cases_of_isSound hexponent
      have hsigns : sign.toList.map Char.toLower = sign.toList := by
        rcases hsign with rfl | rfl | rfl <;> rfl
      have hfolded : letter.toLower = 'e' := by
        rcases hletter with rfl | rfl <;> rfl
      show 'e' :: (sign.toList ++ d :: more) =
        (letter :: (sign.toList ++ d :: more)).map Char.toLower
      rw [List.map_cons, List.map_append, hfolded, hsigns, hdigits hall]
  show n.whole ++ (n.point ++ n.folded.tail) = _
  rw [htail, Numeral.unsigned, List.map_append, List.map_append, hpoint,
    hdigits (all_isDigit_of_wholeDigits hwhole)]

/-- It is worth the same, apart from the sign. -/
theorem readNumber?_folded {n : Numeral} (h : n.isSound = true) :
    readNumber? (n.unsigned.map Char.toLower) =
      some (Binary64.ofScientific false n.significand n.power) := by
  have hpower : n.folded.power = n.power := by
    unfold Numeral.power Numeral.folded
    cases n.exponent <;> rfl
  rw [← written_folded h, readNumber?_written (isSound_folded h), hpower]
  rfl

end Phrasebook.Json
