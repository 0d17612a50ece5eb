import Phrasebook.Proofs.Json.Numbers
import Phrasebook.Yaml.Value

namespace Phrasebook

/-!
# Numbers and words of JSON as plain scalars

A plain scalar gets its type from its form.  An integer of JSON has that of an integer here, and a
number with a fraction that of a floating-point number, unless its exponent has no sign; without a
fraction an exponent makes it a text.

* `Yaml.isPortableNumber` — a number that is one here;
* `Yaml.scalarValue_written` — it is worth the same;
* `Yaml.scalarValue_word` — so is each of the three words.
-/

/-! ### Opposite signs -/

namespace Binary64

/-- The bits of a quotient leave room for the sign. -/
theorem ratioBits_lt (num den : Nat) : ratioBits num den < Nat.pow 2 63 := by
  have hlimit : infinityBits < Nat.pow 2 63 := by decide
  unfold ratioBits
  split
  · exact Nat.lt_of_le_of_lt (Nat.zero_le _) hlimit
  · exact Nat.lt_of_le_of_lt (Nat.min_le_left _ _) hlimit

/-- The opposite of a number has the other sign. -/
theorem negate_ofUnsigned {n : Nat} (h : n < Nat.pow 2 63) :
    (ofUnsigned false n).negate = ofUnsigned true n := by
  have hbits : (ofUnsigned false n).bits.toNat = n := by
    show n.toUInt64.toNat = n
    have h64 : n < 2 ^ 64 := Nat.lt_trans h (by decide)
    exact Nat.mod_eq_of_lt h64
  unfold negate unsigned isNegative
  rw [hbits, Nat.mod_eq_of_lt h, decide_eq_false (Nat.not_le.mpr h)]
  rfl

/-- So it is with a number in decimal notation. -/
theorem negate_ofScientific (digits : Nat) (exponent : Int) :
    (ofScientific false digits exponent).negate = ofScientific true digits exponent := by
  have hinfinity : infinityBits < Nat.pow 2 63 := by decide
  have hzero : 0 < Nat.pow 2 63 := by decide
  unfold ofScientific
  split
  · exact negate_ofUnsigned hzero
  · split
    · exact negate_ofUnsigned hinfinity
    · cases exponent with
      | ofNat e => exact negate_ofUnsigned (ratioBits_lt _ _)
      | negSucc e =>
        dsimp only
        split
        · exact negate_ofUnsigned hzero
        · exact negate_ofUnsigned (ratioBits_lt _ _)

end Binary64

namespace Yaml

open Decimal
open Json

/-- Whether a number of JSON is a number here. -/
def isPortableNumber (n : Numeral) : Bool :=
  n.isSound && n.exponent.all fun e => e.sign.isSome && !n.fraction.isEmpty

/-! ### The form of a number -/

/-- A character that a number may start with. -/
def startsNumber (c : Char) : Bool := c.isDigit || c == '-'

/-- A text that starts so is none of the words that do not. -/
theorem contains_of_startsNumber {words : List (List Char)}
    (hwords : words.all (fun w => !w.head?.any startsNumber) = true) {text : List Char}
    (h : text.head?.any startsNumber = true) : words.contains text = false := by
  rw [List.contains_eq_mem, decide_eq_false_iff_not]
  intro hmem
  have hnot := List.all_eq_true.mp hwords text hmem
  rw [h] at hnot
  cases hnot

/-- Numbers start so, with their sign and without. -/
theorem head?_written {n : Numeral} (h : n.isSound = true) :
    n.written.head?.any startsNumber = true ∧ n.unsigned.head?.any Char.isDigit = true := by
  obtain ⟨d, rest, hdigit, hd⟩ := exists_unsigned_cons h
  unfold Numeral.written Numeral.sign
  rw [hd]
  refine ⟨?_, hdigit⟩
  cases n.negative with
  | true => rfl
  | false =>
    show startsNumber d = true
    unfold startsNumber
    rw [hdigit]
    rfl

/-- A text without separators is one part. -/
theorem parts_of_not_mem {separator : Char} {text : List Char} (h : separator ∉ text) :
    Number.parts separator text = [text] := by
  induction text with
  | nil => rfl
  | cons c text ih =>
    rw [List.mem_cons, not_or] at h
    have hc : (c == separator) = false := beq_eq_false_iff_ne.mpr (Ne.symm h.1)
    rw [Number.parts, ih h.2]
    dsimp only
    rw [hc, if_neg Bool.false_ne_true]

/-- Digits are one part, and a run of digits. -/
theorem isGrouped_of_isDigit {digits : List Char} (h : digits.all Char.isDigit = true)
    (hne : digits ≠ []) : Number.parts ':' digits = [digits] ∧ Number.isGrouped digits = true := by
  rw [List.all_eq_true] at h
  refine ⟨parts_of_not_mem fun hmem => absurd (h ':' hmem) (by decide), ?_⟩
  cases digits with
  | nil => exact absurd rfl hne
  | cons d rest =>
    have hrun : (d :: rest).all (fun c => c.isDigit || c == '_') = true := by
      rw [List.all_eq_true]
      intro c hc
      rw [h c hc]
      rfl
    unfold Number.isGrouped Number.isRun
    rw [hrun, List.head?_cons, Option.any_some, h d List.mem_cons_self]
    rfl

/-- An exponent with a sign is one here. -/
theorem isExponent_tail {n : Numeral} (h : isPortableNumber n = true) :
    Number.isExponent n.tail = true := by
  simp only [isPortableNumber, Numeral.isSound, Bool.and_eq_true] at h
  unfold Numeral.tail
  cases he : n.exponent with
  | none => rfl
  | some e =>
    rw [he, Option.all_some, Option.all_some, Bool.and_eq_true] at h
    obtain ⟨⟨⟨-, hsound⟩, -⟩, hsome, -⟩ := h
    obtain ⟨letter, sign, d, more, rfl, hletter, hsign, hdigits⟩ :=
      Exponent.cases_of_isSound hsound
    rw [List.all_cons, Bool.and_eq_true] at hdigits
    -- Without a sign it would be read as part of a text.
    rcases hsign with rfl | rfl | rfl
    · cases hsome
    all_goals
      rcases hletter with rfl | rfl <;>
        simp [Exponent.written, Number.isExponent, hdigits]

/-- The digits before a point. -/
theorem takeWhile_point {whole : List Char} (h : whole.all Char.isDigit = true)
    (rest : List Char) (hrest : rest.head?.all (· == '.') = true) :
    (whole ++ rest).takeWhile (· != '.') = whole := by
  have hdigits : ∀ c ∈ whole, (c != '.') = true := by
    intro c hc
    rw [bne_iff_ne]
    exact ne_of_isDigit (List.all_eq_true.mp h c hc) rfl
  rw [List.takeWhile_append_of_pos hdigits]
  cases rest with
  | nil => exact List.append_nil _
  | cons c rest =>
    rw [List.head?_cons, Option.all_some, beq_iff_eq] at hrest
    subst hrest
    exact List.append_nil _

/-- What `isPortableNumber` demands of the parts of a number that is no integer. -/
theorem fraction_ne_nil {n : Numeral} (h : isPortableNumber n = true)
    (hinteger : n.isInteger = false) : n.fraction ≠ [] := by
  intro hnil
  simp only [isPortableNumber, Bool.and_eq_true] at h
  unfold Numeral.isInteger at hinteger
  cases he : n.exponent with
  | none =>
    rw [hnil, he] at hinteger
    cases hinteger
  | some e =>
    rw [hnil, he] at h
    simp at h

/-- An exponent starts with its letter. -/
theorem takeWhile_tail {n : Numeral} (h : n.exponent.all Exponent.isSound = true) :
    n.tail.takeWhile (fun c => c.isDigit || c == '_') = [] := by
  unfold Numeral.tail
  cases he : n.exponent with
  | none => rfl
  | some e =>
    rw [he, Option.all_some] at h
    obtain ⟨letter, sign, d, more, rfl, hletter, -, -⟩ := Exponent.cases_of_isSound h
    rcases hletter with rfl | rfl <;> rfl

/-- A number with a fraction has the form of a floating-point number. -/
theorem isFloat_of_fraction {n : Numeral} (h : isPortableNumber n = true)
    (hinteger : n.isInteger = false) : Number.isFloat n.written = true := by
  have hfraction := fraction_ne_nil h hinteger
  have hexponent := isExponent_tail h
  simp only [isPortableNumber, Bool.and_eq_true] at h
  have hsound := h.1
  simp only [Numeral.isSound, Bool.and_eq_true, beq_iff_eq, Bool.not_eq_true'] at hsound
  obtain ⟨⟨⟨⟨hne, hwhole⟩, hdigits⟩, hletters⟩, -⟩ := hsound
  have hwholeDigits := all_isDigit_of_wholeDigits hwhole
  have hpoint : n.point = '.' :: n.fraction := by
    unfold Numeral.point
    rw [if_neg (by rwa [List.isEmpty_iff])]
  have htake : n.unsigned.takeWhile (· != '.') = n.whole :=
    takeWhile_point hwholeDigits _ (by rw [hpoint]; rfl)
  have hdrop : n.unsigned.drop n.whole.length = '.' :: (n.fraction ++ n.tail) := by
    rw [Numeral.unsigned, List.drop_left, hpoint]
    rfl
  have htakeFraction : (n.fraction ++ n.tail).takeWhile (fun c => c.isDigit || c == '_') =
      n.fraction := by
    have hall : ∀ c ∈ n.fraction, (c.isDigit || c == '_') = true := by
      intro c hc
      rw [List.all_eq_true.mp hdigits c hc]
      rfl
    rw [List.takeWhile_append_of_pos hall, takeWhile_tail hletters, List.append_nil]
  obtain ⟨hparts, hgrouped⟩ :=
    isGrouped_of_isDigit hwholeDigits (by rwa [ne_eq, ← List.isEmpty_iff, Bool.not_eq_true])
  have hsign : Number.dropSign n.written = n.unsigned := congrArg Prod.snd (splitSign_written h.1)
  have hwholeTrue : Number.isWhole n.whole n.tail = true := by
    unfold Number.isWhole
    rw [hparts]
    dsimp only
    rw [hgrouped, hexponent]
    rfl
  unfold Number.isFloat
  rw [hsign]
  dsimp only
  split
  · rfl
  · split
    · rfl
    · rw [htake, hdrop]
      dsimp only
      rw [htakeFraction, hne, if_neg Bool.false_ne_true, List.drop_left, hwholeTrue]

/-- An integer is its sign and digits. -/
theorem unsigned_of_isInteger {n : Numeral} (h : n.isInteger = true) : n.unsigned = n.whole := by
  rw [Numeral.isInteger, Bool.and_eq_true, Option.isNone_iff_eq_none] at h
  unfold Numeral.unsigned Numeral.point Numeral.tail
  rw [if_pos h.1, h.2]
  exact List.append_nil _

/-- It has no form of a floating-point number. -/
theorem isFloat_of_isInteger {n : Numeral} (h : n.isSound = true) (hinteger : n.isInteger = true) :
    Number.isFloat n.written = false := by
  have hsign : Number.dropSign n.written = n.unsigned := congrArg Prod.snd (splitSign_written h)
  obtain ⟨hstart, hdigit⟩ := head?_written h
  have hstartUnsigned : n.unsigned.head?.any startsNumber = true := by
    rw [Option.any_eq_true] at hdigit ⊢
    obtain ⟨d, hd, hdigit⟩ := hdigit
    refine ⟨d, hd, ?_⟩
    unfold startsNumber
    rw [hdigit]
    rfl
  simp only [Numeral.isSound, Bool.and_eq_true, beq_iff_eq] at h
  have htake : n.unsigned.takeWhile (· != '.') = n.whole := by
    have hpoint := takeWhile_point (all_isDigit_of_wholeDigits h.1.1.1.2) [] rfl
    rw [List.append_nil] at hpoint
    rwa [unsigned_of_isInteger hinteger]
  unfold Number.isFloat
  rw [hsign]
  dsimp only
  rw [contains_of_startsNumber (by decide) hstartUnsigned,
    contains_of_startsNumber (by decide) hstart, htake, unsigned_of_isInteger hinteger,
    List.drop_length, Bool.and_false]
  rfl

/-- It has that of an integer. -/
theorem isInteger_of_isInteger {n : Numeral} (h : n.isSound = true)
    (hinteger : n.isInteger = true) : Number.isInteger n.written = true := by
  have hsign : Number.dropSign n.written = n.whole := by
    rw [← unsigned_of_isInteger hinteger]
    exact congrArg Prod.snd (splitSign_written h)
  simp only [Numeral.isSound, Bool.and_eq_true, beq_iff_eq, Bool.not_eq_true'] at h
  have hne : n.whole ≠ [] := by rw [ne_eq, ← List.isEmpty_iff, h.1.1.1.1]; decide
  obtain ⟨hparts, hgrouped⟩ :=
    isGrouped_of_isDigit (all_isDigit_of_wholeDigits h.1.1.1.2) hne
  unfold Number.isInteger
  rw [hsign]
  rcases cases_wholeDigits h.1.1.1.2 hne with hzero | ⟨d, rest, hd, hnonzero, -, -⟩
  · rw [hzero]
    rfl
  · split
    · rename_i hnil
      exact absurd hnil hne
    · rfl
    · rename_i hzero
      rw [hd] at hzero
      exact absurd (List.cons.inj hzero).1 hnonzero
    · rw [hparts]
      dsimp only
      rw [hgrouped]
      rfl

/-- The type of a number. -/
theorem ofPlain_written {n : Numeral} (h : isPortableNumber n = true) :
    Tag.ofPlain n.written = if n.isInteger then .int else .float := by
  have hsound : n.isSound = true := (Bool.and_eq_true_iff.mp h).1
  have htruth : Tag.truthWords.contains n.written = false :=
    contains_of_startsNumber (by decide) (head?_written hsound).1
  unfold Tag.ofPlain
  rw [htruth, if_neg Bool.false_ne_true]
  cases hinteger : n.isInteger with
  | true =>
    rw [isFloat_of_isInteger hsound hinteger, if_neg Bool.false_ne_true,
      isInteger_of_isInteger hsound hinteger]
    rfl
  | false =>
    rw [isFloat_of_fraction h hinteger]
    rfl

/-! ### Its value -/

/-- A number has no underscores and no colons. -/
theorem filter_underscores {text : List Char} (h : text.all isNumberChar = true) :
    text.filter (· != '_') = text := by
  rw [List.filter_eq_self]
  intro c hc
  rw [bne_iff_ne]
  exact ne_of_isNumberChar (List.all_eq_true.mp h c hc) (by decide)

/-- The floating-point number of a scalar that is a number with a fraction. -/
theorem readFloat_written {n : Numeral} (h : n.isSound = true) :
    Number.readFloat n.written =
      .ok (Binary64.ofScientific n.negative n.significand n.power) := by
  have hchars := all_isNumberChar_written h
  obtain ⟨d, rest, hdigit, hd⟩ := exists_unsigned_cons h
  have hlower : n.written.map Char.toLower = n.sign ++ d :: rest.map Char.toLower := by
    rw [Numeral.written, hd, List.map_append, List.map_cons, toLower_of_isDigit hdigit]
    unfold Numeral.sign
    cases n.negative <;> rfl
  have hread := readNumber?_folded h
  have hcolon : ':' ∉ n.unsigned.map Char.toLower := by
    rw [← written_folded h]
    intro hmem
    have := List.all_eq_true.mp (all_isNumberChar_written (isSound_folded h)) ':' hmem
    exact absurd this (by decide)
  rw [hd, List.map_cons, toLower_of_isDigit hdigit] at hread hcolon
  have hnonempty : n.written.isEmpty = false := by
    rw [Numeral.written, hd]
    unfold Numeral.sign
    cases n.negative <;> rfl
  have hword : ∀ word : List Char, (d :: rest.map Char.toLower == '.' :: word) = false := by
    intro word
    rw [beq_eq_false_iff_ne]
    exact fun heq => ne_of_isDigit hdigit rfl (List.cons.inj heq).1
  unfold Number.readFloat
  rw [filter_underscores hchars, lower_of_isNumberChar hchars, hlower,
    splitSign_append hdigit n, hnonempty]
  dsimp only
  rw [if_neg Bool.false_ne_true, show ".inf".toList = '.' :: ['i', 'n', 'f'] from rfl,
    show ".nan".toList = '.' :: ['n', 'a', 'n'] from rfl, hword, hword,
    List.contains_eq_mem, decide_eq_false hcolon]
  simp only [Bool.false_eq_true, if_false, Number.floatIn, hread]
  cases n.negative with
  | true => exact congrArg Except.ok (Binary64.negate_ofScientific _ _)
  | false => rfl

/-- Nothing has to be joined without underscores. -/
theorem joinGroups_of_not_mem {text : List Char} (h : '_' ∉ text) : joinGroups text = some text := by
  induction text with
  | nil => rfl
  | cons c text ih =>
    rw [List.mem_cons, not_or] at h
    rw [joinGroups, ih h.2]
    · rfl
    · exact fun hc _ => h.1 hc.symm
    · exact fun hc => h.1 hc.symm
    · rintro d rest rfl
      exact h.2 List.mem_cons_self

/-- Digits that do not start with a zero are an integer. -/
theorem integerIn_digits {d : Char} {rest : List Char}
    (hdigits : (d :: rest).all Char.isDigit = true) (hzero : d ≠ '0')
    (hlimit : (d :: rest).length ≤ Number.digitLimit) :
    Number.integerIn 10 (d :: rest) =
      .ok (((naturalOf 10 0 (d :: rest)).getD 0 : Nat) : Int) := by
  have hchars := all_isNumberChar hdigits
  have hsign : splitSign (d :: rest) = (false, d :: rest) := by
    rw [List.all_cons, Bool.and_eq_true] at hdigits
    exact splitSign_append hdigits.1 ⟨false, [], [], none⟩ rest
  have hunderscore : '_' ∉ d :: rest := fun hmem =>
    absurd (List.all_eq_true.mp hchars '_' hmem) (by decide)
  have hleading : Number.leadingDigits (d :: rest) = d :: rest := by
    unfold Number.leadingDigits Number.dropSign
    rw [toAscii_of_isNumberChar hchars, trim_of_isNumberChar hchars, hsign,
      List.takeWhile_eq_self_iff.mpr (List.all_eq_true.mp hdigits)]
  have hmark : dropBaseMark 10 (d :: rest) = d :: rest := by
    rw [dropBaseMark]
    rintro m more hmore
    exact absurd (List.cons.inj hmore).1 hzero
  have hread : readInt? 10 (d :: rest) =
      some (((naturalOf 10 0 (d :: rest)).getD 0 : Nat) : Int) := by
    unfold readInt?
    rw [toAscii_of_isNumberChar hchars, trim_of_isNumberChar hchars, hsign]
    dsimp only
    rw [hmark, joinGroups_of_not_mem hunderscore]
    show (if (d :: rest).isEmpty then none else do
      let n ← naturalOf 10 0 (d :: rest)
      return if false then -(n : Int) else n) = _
    rw [naturalOf_eq_getD hdigits]
    rfl
  unfold Number.integerIn
  rw [hleading]
  dsimp only
  rw [decide_eq_false (Nat.not_lt.mpr hlimit), hread]
  rfl

/-- The digits before a point are an integer, be they one zero or begin with another digit. -/
theorem unsignedInteger_whole {whole : List Char} (h : wholeDigits whole = whole)
    (hne : whole ≠ []) (hlimit : whole.length ≤ Number.digitLimit) :
    Number.unsignedInteger whole = .ok (((naturalOf 10 0 whole).getD 0 : Nat) : Int) := by
  rcases cases_wholeDigits h hne with rfl | ⟨d, rest, rfl, hnonzero, hdigit, hrest⟩
  · rfl
  · have hdigits : (d :: rest).all Char.isDigit = true := by
      rw [List.all_cons, hdigit, hrest]
      rfl
    have hcolon : ':' ∉ d :: rest := fun hmem =>
      absurd (List.all_eq_true.mp hdigits ':' hmem) (by decide)
    rw [← integerIn_digits hdigits hnonzero hlimit]
    -- The other bases, and octal digits without a mark, start with a zero.
    unfold Number.unsignedInteger
    split
    · rename_i hnil
      cases hnil
    iterate 4
      · rename_i hzero
        exact absurd (List.cons.inj hzero).1 hnonzero
    · rw [List.contains_eq_mem, decide_eq_false hcolon]
      rfl

/-- The integer of a scalar that is one. -/
theorem readInteger_written {n : Numeral} (h : n.isSound = true) (hinteger : n.isInteger = true) :
    Number.readInteger n.written = .ok (if n.negative then -n.magnitude else n.magnitude) := by
  have hsplit := splitSign_written h
  rw [unsigned_of_isInteger hinteger] at hsplit
  have hsound := h
  simp only [Numeral.isSound, Bool.and_eq_true, beq_iff_eq, Bool.not_eq_true', hinteger,
    Bool.true_and, decide_eq_false_iff_not, Nat.not_lt] at hsound
  obtain ⟨⟨⟨⟨hne, hwhole⟩, -⟩, -⟩, hlimit⟩ := hsound
  have hread : Number.unsignedInteger n.whole = .ok (n.magnitude : Int) :=
    unsignedInteger_whole hwhole (by rw [ne_eq, ← List.isEmpty_iff, hne]; decide) hlimit
  unfold Number.readInteger
  rw [filter_underscores (all_isNumberChar_written h), hsplit]
  dsimp only
  rw [hread]
  rfl

/-- **A number is worth the same.** -/
theorem scalarValue_written {n : Numeral} (h : isPortableNumber n = true) :
    scalarValue (Tag.ofPlain n.written) n.written = .ok n.value := by
  have hsound : n.isSound = true := (Bool.and_eq_true_iff.mp h).1
  rw [ofPlain_written h]
  unfold Numeral.value
  cases hinteger : n.isInteger with
  | true =>
    show (Number.readInteger n.written).map Value.int = _
    rw [readInteger_written hsound hinteger]
    rfl
  | false =>
    show (Number.readFloat n.written).map Value.float = _
    rw [readFloat_written hsound, readNumber?_written hsound]
    rfl

/-- So is each of the three words. -/
theorem scalarValue_word {i : Fin words.length} (h : i.val < 3) :
    scalarValue (Tag.ofPlain (words.get i).1) (words.get i).1 = .ok (words.get i).2 := by
  have htag : Tag.ofPlain "null".toList = .null ∧ Tag.ofPlain "true".toList = .bool ∧
      Tag.ofPlain "false".toList = .bool := by
    decide
  match i, h with
  | ⟨0, _⟩, _ =>
    show scalarValue (Tag.ofPlain "null".toList) "null".toList = _
    rw [htag.1]
    rfl
  | ⟨1, _⟩, _ =>
    show scalarValue (Tag.ofPlain "true".toList) "true".toList = _
    rw [htag.2.1]
    rfl
  | ⟨2, _⟩, _ =>
    show scalarValue (Tag.ofPlain "false".toList) "false".toList = _
    rw [htag.2.2]
    rfl

end Yaml

end Phrasebook
