import Mathlib.Data.List.TakeWhile
import Phrasebook.Proofs.Json.Form

namespace Phrasebook.Json

/-!
# Reading what is written

Every form that keeps the rules of JSON is read back, whatever stands after it, as long as that does
not go on with a number:

* `readChars_writtenAll` — a text up to its closing quote;
* `readNumber_written` — a number;
* `readValue_written` — a value;
* `read_written` — a value with blanks around it is the value of the whole text.
-/

/-! ### Blanks -/

/-- The blanks ahead are passed over. -/
theorem skipBlanks_append {blanks : List Char} (h : blanks.all isBlank = true) {c : Char}
    (hc : isBlank c = false) (position : Nat) (rest : List Char) :
    skipBlanks position (blanks ++ c :: rest) = (position + blanks.length, c :: rest) := by
  induction blanks generalizing position with
  | nil =>
    show skipBlanks position (c :: rest) = _
    rw [skipBlanks, hc]
    rfl
  | cons b blanks ih =>
    rw [List.all_cons, Bool.and_eq_true] at h
    rw [List.cons_append, skipBlanks, if_pos h.1, ih h.2, List.length_cons]
    congr 1
    omega

/-- So are those at the end of a text. -/
theorem skipBlanks_all {blanks : List Char} (h : blanks.all isBlank = true) (position : Nat) :
    skipBlanks position blanks = (position + blanks.length, []) := by
  induction blanks generalizing position with
  | nil => rfl
  | cons b blanks ih =>
    rw [List.all_cons, Bool.and_eq_true] at h
    rw [skipBlanks, if_pos h.1, ih h.2, List.length_cons]
    congr 1
    omega

/-! ### Texts -/

/-- The characters of an escape that has been read are skipped. -/
theorem readChars_skip (start position : Nat) (escape rest : List Char) :
    readChars start position escape.length (escape ++ rest) =
      readChars start (position + escape.length) 0 rest := by
  induction escape generalizing position with
  | nil => rfl
  | cons c escape ih =>
    rw [List.cons_append, List.length_cons, readChars, ih]
    congr 1
    omega

/-- Four digits are four. -/
theorem length_of_fourDigits? {digits : List Char} (h : (fourDigits? digits).isSome = true) :
    digits.length = 4 := by
  unfold fourDigits? at h
  split at h
  · rename_i hlength
    exact eq_of_beq hlength
  · cases h

/-- The code of four digits is what they are read as. -/
theorem fourDigits?_eq_codeOf {digits : List Char} (h : (fourDigits? digits).isSome = true) :
    fourDigits? digits = some (Piece.codeOf digits) := by
  obtain ⟨n, hn⟩ := Option.isSome_iff_exists.mp h
  unfold Piece.codeOf
  rw [hn]
  rfl

/-- The digits of an escape that the text goes on after. -/
theorem take_four {digits : List Char} (h : digits.length = 4) (rest : List Char) :
    (digits ++ rest).take 4 = digits ∧ (digits ++ rest).drop 4 = rest := by
  rw [← h]
  exact ⟨List.take_left, List.drop_left⟩

/-- An escape by code alone, where nothing follows that would make it a pair. -/
theorem unicodeEscape_code {digits : List Char} (h : (fourDigits? digits).isSome = true)
    {rest : List Char} (hrest : rest ≠ [])
    (halone : ∀ more, rest = '\\' :: 'u' :: more → Text.isHighHalf (Piece.codeOf digits) = true →
      ∃ m, fourDigits? (more.take 4) = some m ∧ Text.isLowHalf m = false)
    (position : Nat) :
    unicodeEscape position (digits ++ rest) =
      .ok (Text.ofCode (Piece.codeOf digits), 5) := by
  have hlength := length_of_fourDigits? h
  obtain ⟨htake, hdrop⟩ := take_four hlength rest
  have hlong : ¬ (digits ++ rest).length < 5 := by
    have := List.length_pos_iff.mpr hrest
    rw [List.length_append]
    omega
  unfold unicodeEscape
  rw [if_neg hlong, htake, hdrop, fourDigits?_eq_codeOf h]
  dsimp only
  split
  · rename_i more
    split
    · rename_i hhigh
      obtain ⟨m, hm, hlow⟩ := halone more rfl (Bool.and_eq_true_iff.mp hhigh).1
      rw [hm]
      dsimp only
      rw [hlow]
      rfl
    · rfl
  · rfl

/-- An escape by code for two halves of one character. -/
theorem unicodeEscape_pair {high low : List Char} (h : (Piece.pair high low).isSound = true)
    {rest : List Char} (hrest : rest ≠ []) (position : Nat) :
    unicodeEscape position (high ++ '\\' :: 'u' :: (low ++ rest)) =
      .ok (Char.ofNat (Text.joinHalves (Piece.codeOf high) (Piece.codeOf low)), 11) := by
  simp only [Piece.isSound, Bool.and_eq_true] at h
  obtain ⟨⟨⟨hhigh, hlow⟩, hhighHalf⟩, hlowHalf⟩ := h
  obtain ⟨htake, hdrop⟩ :=
    take_four (length_of_fourDigits? hhigh) ('\\' :: 'u' :: (low ++ rest))
  have hlowTake := (take_four (length_of_fourDigits? hlow) rest).1
  have hmany : 5 ≤ low.length + rest.length := by
    have hlength := length_of_fourDigits? hlow
    have hpositive := List.length_pos_iff.mpr hrest
    omega
  have hlong : ¬ (high ++ '\\' :: 'u' :: (low ++ rest)).length < 5 := by
    simp only [List.length_append, List.length_cons]
    omega
  unfold unicodeEscape
  rw [if_neg hlong, htake, hdrop, fourDigits?_eq_codeOf hhigh]
  simp [hhighHalf, hmany, hlowTake, fourDigits?_eq_codeOf hlow, hlowHalf]

/-- A letter that stands for an escape is no mark of a code. -/
theorem ne_u_of_escaped? {e : Char} (h : (escaped? e).isSome = true) : e ≠ 'u' := by
  rintro rfl
  cases h

/-- The first half of a pair is not the second one. -/
theorem isLowHalf_eq_false_of_isHighHalf {n : Nat} (h : Text.isHighHalf n = true) :
    Text.isLowHalf n = false := by
  simp only [Text.isHighHalf, Bool.and_eq_true, decide_eq_true_eq] at h
  simp only [Text.isLowHalf, Bool.and_eq_false_iff, decide_eq_false_iff_not]
  omega

/-- What is written of a piece comes first. -/
@[simp] theorem writtenAll_cons (p : Piece) (pieces : List Piece) :
    Piece.writtenAll (p :: pieces) = p.written ++ Piece.writtenAll pieces :=
  List.flatMap_cons

/-- What comes after an escape by code, if it is one too, does not make it a pair. -/
theorem alone_of_not_joins {digits : List Char} {pieces : List Piece}
    (h : Piece.areSound pieces = true)
    (hjoins : pieces.head?.any (Piece.joins (.code digits)) = false) (rest : List Char) :
    ∀ more, Piece.writtenAll pieces ++ '"' :: rest = '\\' :: 'u' :: more →
      Text.isHighHalf (Piece.codeOf digits) = true →
      ∃ m, fourDigits? (more.take 4) = some m ∧ Text.isLowHalf m = false := by
  intro more hmore hhigh
  cases pieces with
  | nil => cases hmore
  | cons p pieces =>
    simp only [Piece.areSound, Bool.and_eq_true] at h
    have hp := h.1.1
    cases p with
    | char c =>
      simp only [writtenAll_cons, Piece.written, List.cons_append, List.cons.injEq] at hmore
      simp [Piece.isSound, hmore.1] at hp
    | short e =>
      simp only [writtenAll_cons, Piece.written, List.cons_append, List.cons.injEq] at hmore
      exact absurd hmore.2.1 (ne_u_of_escaped? hp)
    | code low =>
      simp only [writtenAll_cons, Piece.written, List.cons_append, List.cons.injEq, true_and,
        List.append_assoc] at hmore
      refine ⟨Piece.codeOf low, ?_, ?_⟩
      · rw [← hmore, (take_four (length_of_fourDigits? hp) _).1, fourDigits?_eq_codeOf hp]
      · have hjoins' : (Text.isHighHalf (Piece.codeOf digits) &&
            Text.isLowHalf (Piece.codeOf low)) = false := hjoins
        rwa [hhigh, Bool.true_and] at hjoins'
    | pair high low =>
      simp only [writtenAll_cons, Piece.written, List.cons_append, List.cons.injEq, true_and,
        List.append_assoc] at hmore
      simp only [Piece.isSound, Bool.and_eq_true] at hp
      refine ⟨Piece.codeOf high, ?_, isLowHalf_eq_false_of_isHighHalf hp.1.2⟩
      rw [← hmore, (take_four (length_of_fourDigits? hp.1.1.1) _).1,
        fourDigits?_eq_codeOf hp.1.1.1]

/-- A piece is read before those after it. -/
theorem readChars_piece {p : Piece} (hp : p.isSound = true) {rest : List Char} (hrest : rest ≠ [])
    (halone : ∀ digits, p = .code digits →
      ∀ more, rest = '\\' :: 'u' :: more → Text.isHighHalf (Piece.codeOf digits) = true →
        ∃ m, fourDigits? (more.take 4) = some m ∧ Text.isLowHalf m = false)
    {start : Nat} {text ahead : List Char}
    (hread : ∀ position, ∃ after, readChars start position 0 rest = .ok ⟨text, after, ahead⟩)
    (position : Nat) :
    ∃ after, readChars start position 0 (p.written ++ rest) =
      .ok ⟨p.meaning :: text, after, ahead⟩ := by
  cases p with
  | char c =>
    simp only [Piece.isSound, Bool.and_eq_true, bne_iff_ne, Bool.not_eq_true',
      decide_eq_false_iff_not] at hp
    obtain ⟨⟨hcontrol, hquote⟩, hbackslash⟩ := hp
    obtain ⟨after, hafter⟩ := hread (position + 1)
    refine ⟨after, ?_⟩
    rw [Piece.written, List.singleton_append, readChars, if_neg hcontrol, hafter]
    · rfl
    · exact hquote
    · exact hbackslash
  | short e =>
    obtain ⟨c, hc⟩ := Option.isSome_iff_exists.mp hp
    obtain ⟨after, hafter⟩ := hread (position + 1 + 1)
    have hskip : readChars start (position + 1) 1 (e :: rest) = _ :=
      readChars_skip start (position + 1) [e] rest
    refine ⟨after, ?_⟩
    show readChars start position 0 ('\\' :: e :: rest) = _
    rw [readChars]
    simp only [beq_iff_eq, ne_u_of_escaped? hp, if_false, hc, hskip]
    rw [List.length_singleton, hafter]
    simp [Piece.meaning, hc]
  | code digits =>
    obtain ⟨after, hafter⟩ := hread (position + 1 + ('u' :: digits).length)
    have hskip := readChars_skip start (position + 1) ('u' :: digits) rest
    rw [List.length_cons, length_of_fourDigits? hp] at hskip hafter
    refine ⟨after, ?_⟩
    show readChars start position 0 ('\\' :: 'u' :: (digits ++ rest)) = _
    rw [readChars]
    simp only [beq_self_eq_true, if_true, unicodeEscape_code hp hrest (halone digits rfl)]
    rw [show 'u' :: (digits ++ rest) = 'u' :: digits ++ rest from rfl, hskip, hafter]
    rfl
  | pair high low =>
    have hsound := hp
    simp only [Piece.isSound, Bool.and_eq_true] at hp
    have hlength : ('u' :: (high ++ '\\' :: 'u' :: low)).length = 11 := by
      simp [length_of_fourDigits? hp.1.1.1, length_of_fourDigits? hp.1.1.2]
    obtain ⟨after, hafter⟩ := hread (position + 1 + 11)
    have hskip := readChars_skip start (position + 1) ('u' :: (high ++ '\\' :: 'u' :: low)) rest
    rw [hlength] at hskip
    have hwritten : (Piece.pair high low).written ++ rest =
        '\\' :: 'u' :: (high ++ '\\' :: 'u' :: (low ++ rest)) := by
      simp [Piece.written]
    have hsame : 'u' :: (high ++ '\\' :: 'u' :: (low ++ rest)) =
        'u' :: (high ++ '\\' :: 'u' :: low) ++ rest := by
      simp
    refine ⟨after, ?_⟩
    rw [hwritten, readChars]
    simp only [beq_self_eq_true, if_true, unicodeEscape_pair hsound hrest]
    rw [hsame, hskip, hafter]
    rfl

/-- **A text is read up to its closing quote.** -/
theorem readChars_writtenAll {pieces : List Piece} (h : Piece.areSound pieces = true)
    (start position : Nat) (rest : List Char) :
    ∃ after, readChars start position 0 (Piece.writtenAll pieces ++ '"' :: rest) =
      .ok ⟨pieces.map Piece.meaning, after, rest⟩ := by
  induction pieces generalizing position with
  | nil => exact ⟨position + 1, rfl⟩
  | cons p pieces ih =>
    simp only [Piece.areSound, Bool.and_eq_true, Bool.not_eq_true'] at h
    obtain ⟨⟨hp, hjoins⟩, hpieces⟩ := h
    rw [writtenAll_cons, List.append_assoc]
    refine readChars_piece hp (by simp) ?_ (fun position => ih hpieces position) position
    rintro digits rfl
    exact alone_of_not_joins hpieces hjoins rest

/-! ### Numbers -/

/-- Whether a number ends before a text. -/
def endsNumber : List Char → Bool
  | [] => true
  | c :: _ => !(c.isDigit || c == '.' || c == 'e' || c == 'E')

/-- Whether a run of digits ends before a text. -/
def endsDigits : List Char → Bool
  | [] => true
  | c :: _ => !c.isDigit

/-- A digit is no other character. -/
theorem ne_of_isDigit {c d : Char} (hc : c.isDigit = true) (hd : d.isDigit = false) : c ≠ d := by
  rintro rfl
  rw [hc] at hd
  cases hd

/-- Where a number ends, so do its digits. -/
theorem endsDigits_of_endsNumber {rest : List Char} (h : endsNumber rest = true) :
    endsDigits rest = true := by
  cases rest with
  | nil => rfl
  | cons c rest =>
    simp only [endsNumber, Bool.not_eq_true', Bool.or_eq_false_iff] at h
    simp [endsDigits, h.1.1.1]

/-- Digits are taken as far as they go. -/
theorem takeWhile_isDigit_append {digits : List Char} (h : digits.all Char.isDigit = true)
    {rest : List Char} (hrest : endsDigits rest = true) :
    (digits ++ rest).takeWhile Char.isDigit = digits := by
  rw [List.takeWhile_append_of_pos (List.all_eq_true.mp h)]
  cases rest with
  | nil => exact List.append_nil _
  | cons c rest =>
    rw [endsDigits, Bool.not_eq_true'] at hrest
    rw [List.takeWhile_cons_of_neg (by rw [hrest]; exact Bool.false_ne_true), List.append_nil]

/-- Digits before the point are either one zero or begin with another digit. -/
theorem cases_wholeDigits {whole : List Char} (h : wholeDigits whole = whole)
    (hne : whole ≠ []) :
    whole = ['0'] ∨
      ∃ c rest, whole = c :: rest ∧ c ≠ '0' ∧ c.isDigit = true ∧ rest.all Char.isDigit = true := by
  cases whole with
  | nil => exact absurd rfl hne
  | cons c rest =>
    rw [wholeDigits] at h
    split at h
    · rename_i hzero
      rw [← h]
      exact .inl rfl
    · rename_i hnonzero
      split at h
      · rename_i hdigit
        refine .inr ⟨c, rest, rfl, by simpa using hnonzero, hdigit, ?_⟩
        rw [List.cons.injEq] at h
        rw [List.all_eq_true]
        exact List.takeWhile_eq_self_iff.mp h.2
      · cases h

/-- They are digits in any case. -/
theorem all_isDigit_of_wholeDigits {whole : List Char} (h : wholeDigits whole = whole) :
    whole.all Char.isDigit = true := by
  by_cases hne : whole = []
  · rw [hne]
    rfl
  · rcases cases_wholeDigits h hne with rfl | ⟨c, rest, rfl, -, hc, hrest⟩
    · rfl
    · rw [List.all_cons, hc, hrest]
      rfl

/-- They are read as far as they go. -/
theorem wholeDigits_append {whole : List Char} (h : wholeDigits whole = whole) (hne : whole ≠ [])
    {rest : List Char} (hrest : endsDigits rest = true) : wholeDigits (whole ++ rest) = whole := by
  rcases cases_wholeDigits h hne with rfl | ⟨c, more, rfl, hnonzero, hdigit, hmore⟩
  · rfl
  · rw [List.cons_append, wholeDigits, if_neg (by simpa using hnonzero), if_pos hdigit,
      takeWhile_isDigit_append hmore hrest]

/-- A fraction is read as far as it goes. -/
theorem fractionPart_append {n : Numeral} (h : n.fraction.all Char.isDigit = true)
    {rest : List Char} (hrest : endsDigits rest = true) (hpoint : rest.head? ≠ some '.') :
    fractionPart (n.point ++ rest) = n.point := by
  unfold Numeral.point
  cases hfraction : n.fraction with
  | nil =>
    rw [List.isEmpty_nil, if_pos rfl, List.nil_append]
    unfold fractionPart
    split
    · exact absurd rfl hpoint
    · rfl
  | cons d more =>
    rw [hfraction, List.all_cons, Bool.and_eq_true] at h
    rw [List.isEmpty_cons, if_neg Bool.false_ne_true, List.cons_append, List.cons_append,
      fractionPart, if_pos h.1, takeWhile_isDigit_append h.2 hrest]

/-- An exponent is. -/
theorem exponentPart_append {n : Numeral} (h : n.exponent.all Exponent.isSound = true)
    {rest : List Char} (hrest : endsNumber rest = true) :
    exponentPart (n.tail ++ rest) = n.tail := by
  unfold Numeral.tail
  cases hexponent : n.exponent with
  | none =>
    rw [Option.map_none, Option.getD_none, List.nil_append]
    cases rest with
    | nil => rfl
    | cons c rest =>
      simp only [endsNumber, Bool.not_eq_true', Bool.or_eq_false_iff] at hrest
      simp [exponentPart, hrest.1.2, hrest.2]
  | some e =>
    rw [hexponent, Option.all_some] at h
    obtain ⟨letter, sign, d, more, rfl, hletter, hsign, hdigits⟩ := Exponent.cases_of_isSound h
    have htake : (d :: (more ++ rest)).takeWhile Char.isDigit = d :: more :=
      takeWhile_isDigit_append hdigits (endsDigits_of_endsNumber hrest)
    have hletters : (letter == 'e' || letter == 'E') = true := by
      rcases hletter with rfl | rfl <;> rfl
    rw [List.all_cons, Bool.and_eq_true] at hdigits
    -- A digit is no sign, so where there is none the digits follow the letter at once.
    have hunsigned : (d == '+' || d == '-') = false := by
      simp [ne_of_isDigit hdigits.1 (show '+'.isDigit = false from rfl),
        ne_of_isDigit hdigits.1 (show '-'.isDigit = false from rfl)]
    rw [Option.map_some, Option.getD_some, Exponent.written]
    rcases hsign with rfl | rfl | rfl
    · simp only [Option.toList_none, List.nil_append, List.cons_append, exponentPart, hletters,
        if_true, hunsigned, Bool.false_eq_true, if_false, htake, List.isEmpty_cons]
    all_goals
      simp [Option.toList_some, exponentPart, hletters, htake]

/-- A number goes on after its digits with a point, a letter, or what comes after it. -/
theorem endsDigits_tail {n : Numeral} (h : n.exponent.all Exponent.isSound = true)
    {rest : List Char} (hrest : endsNumber rest = true) :
    endsDigits (n.tail ++ rest) = true ∧ (n.tail ++ rest).head? ≠ some '.' := by
  unfold Numeral.tail
  cases he : n.exponent with
  | none =>
    cases rest with
    | nil => exact ⟨rfl, nofun⟩
    | cons c rest =>
      simp only [endsNumber, Bool.not_eq_true', Bool.or_eq_false_iff] at hrest
      simp [endsDigits, hrest.1.1.1, beq_eq_false_iff_ne.mp hrest.1.1.2]
  | some e =>
    rw [he, Option.all_some] at h
    obtain ⟨letter, sign, d, more, rfl, hletter, -, -⟩ := Exponent.cases_of_isSound h
    rcases hletter with rfl | rfl <;> exact ⟨rfl, nofun⟩

/-- The same before the point. -/
theorem endsDigits_point {n : Numeral} (h : n.exponent.all Exponent.isSound = true)
    {rest : List Char} (hrest : endsNumber rest = true) :
    endsDigits (n.point ++ (n.tail ++ rest)) = true := by
  unfold Numeral.point
  split
  · exact (endsDigits_tail h hrest).1
  · rfl

/-- Without its sign a number starts with a digit. -/
theorem exists_unsigned_cons {n : Numeral} (h : n.isSound = true) :
    ∃ d rest, d.isDigit = true ∧ n.unsigned = d :: rest := by
  simp only [Numeral.isSound, Bool.and_eq_true, Bool.not_eq_true', beq_iff_eq] at h
  unfold Numeral.unsigned
  rcases cases_wholeDigits h.1.1.1.2 (by simpa using h.1.1.1.1) with hzero | hother
  · exact ⟨'0', _, by decide, by rw [hzero]; rfl⟩
  · obtain ⟨d, more, hd, -, hdigit, -⟩ := hother
    exact ⟨d, _, hdigit, by rw [hd]; rfl⟩

/-- The sign is taken off a number, be it there or not. -/
theorem take_sign {n : Numeral} (h : n.isSound = true) (rest : List Char) :
    ((n.written ++ rest).takeWhile (· == '-')).take 1 = n.sign := by
  obtain ⟨d, more, hdigit, hd⟩ := exists_unsigned_cons h
  have hminus : (d == '-') = false := beq_eq_false_iff_ne.mpr (ne_of_isDigit hdigit rfl)
  unfold Numeral.written Numeral.sign
  rw [hd]
  cases n.negative <;> simp [hminus]

/-- **A number is read back.** -/
theorem readNumber_written {n : Numeral} (h : n.isSound = true) {rest : List Char}
    (hrest : endsNumber rest = true) (position : Nat) :
    readNumber position (n.written ++ rest) =
      .ok ⟨n.value, position + n.written.length, rest⟩ := by
  have hsign := take_sign h rest
  simp only [Numeral.isSound, Bool.and_eq_true, Bool.not_eq_true', beq_iff_eq] at h
  obtain ⟨⟨⟨⟨hne, hwhole⟩, hfraction⟩, hexponent⟩, hlimit⟩ := h
  obtain ⟨htail, hpoint⟩ := endsDigits_tail hexponent hrest
  have hunsigned : (n.written ++ rest).drop n.sign.length =
      n.whole ++ (n.point ++ (n.tail ++ rest)) := by
    unfold Numeral.written Numeral.unsigned
    simp
  have hwholeRead : wholeDigits (n.whole ++ (n.point ++ (n.tail ++ rest))) = n.whole :=
    wholeDigits_append hwhole (by simpa using hne) (endsDigits_point hexponent hrest)
  have hpointRead : fractionPart (n.point ++ (n.tail ++ rest)) = n.point :=
    fractionPart_append hfraction htail hpoint
  have htailRead : exponentPart ((n.whole ++ (n.point ++ (n.tail ++ rest))).drop
      (n.whole.length + n.point.length)) = n.tail := by
    rw [← List.drop_drop, List.drop_left, List.drop_left]
    exact exponentPart_append hexponent hrest
  have hwidth : n.sign.length + n.whole.length + n.point.length + n.tail.length =
      n.written.length := by
    unfold Numeral.written Numeral.unsigned
    simp only [List.length_append]
    omega
  have hinteger : (n.point.isEmpty && n.tail.isEmpty) = n.isInteger := by
    unfold Numeral.point Numeral.tail Numeral.isInteger
    cases n.fraction <;> cases n.exponent <;> rfl
  have hsignEmpty : n.sign.isEmpty = !n.negative := by
    unfold Numeral.sign
    cases n.negative <;> rfl
  unfold readNumber
  simp only [hsign, hunsigned, hwholeRead, List.drop_left, hpointRead, htailRead, hwidth, hinteger,
    hne, List.take_left, Bool.false_eq_true, if_false]
  unfold Numeral.value
  cases hi : n.isInteger with
  | true =>
    rw [hi, Bool.true_and, decide_eq_false_iff_not] at hlimit
    simp only [if_true, if_neg hlimit, hsignEmpty]
    cases n.negative <;> rfl
  | false => rfl

/-! ### Values -/

/-- Whether a text starts as a value may: with no blank, no bracket or brace that closes, and no
    byte order mark. -/
def startsValue : List Char → Bool
  | [] => false
  | c :: _ => !isBlank c && c != ']' && c != '\x7d' && c != '\uFEFF'

/-- What comes after it does not matter. -/
theorem startsValue_append {text : List Char} (h : startsValue text = true) (rest : List Char) :
    startsValue (text ++ rest) = true := by
  cases text with
  | nil => cases h
  | cons c text => exact h

/-- A digit starts a value. -/
theorem startsValue_of_isDigit {c : Char} (h : c.isDigit = true) (rest : List Char) :
    startsValue (c :: rest) = true := by
  have hother : ∀ d : Char, d.isDigit = false → c ≠ d := fun _ hd => ne_of_isDigit h hd
  simp [startsValue, isBlank, hother ' ' (by decide), hother '\t' (by decide),
    hother '\n' (by decide), hother '\r' (by decide), hother ']' (by decide),
    hother '\x7d' (by decide), hother '\uFEFF' (by decide)]

/-- A number starts with a digit, perhaps after a sign. -/
theorem exists_written_cons {n : Numeral} (h : n.isSound = true) :
    ∃ d rest, d.isDigit = true ∧ (n.written = d :: rest ∨ n.written = '-' :: d :: rest) := by
  obtain ⟨d, rest, hdigit, hd⟩ := exists_unsigned_cons h
  refine ⟨d, rest, hdigit, ?_⟩
  unfold Numeral.written Numeral.sign
  rw [hd]
  cases n.negative with
  | true => exact .inr rfl
  | false => exact .inl rfl

/-- A form starts as a value does. -/
theorem startsValue_written {f : Form} (h : f.keeps .sound = true) :
    startsValue f.written = true := by
  cases f with
  | word i =>
    have hall : ∀ i : Fin words.length, startsValue (words.get i).1 = true := by decide
    exact hall i
  | number n =>
    obtain ⟨d, rest, hdigit, hd | hd⟩ := exists_written_cons h
    · rw [Form.written, hd]
      exact startsValue_of_isDigit hdigit rest
    · rw [Form.written, hd]
      rfl
  | text pieces => rfl
  | emptyArray blanks => rfl
  | array items => rfl
  | emptyObject blanks => rfl
  | object members => rfl

/-- Blanks before a value are passed over. -/
theorem skipBlanks_before {blanks : List Char} (h : blanks.all isBlank = true) {text : List Char}
    (htext : startsValue text = true) (position : Nat) :
    skipBlanks position (blanks ++ text) = (position + blanks.length, text) := by
  cases text with
  | nil => cases htext
  | cons c text =>
    simp only [startsValue, Bool.and_eq_true, Bool.not_eq_true'] at htext
    exact skipBlanks_append h htext.1.1.1 position text

/-- What is neither a text nor a collection nor a word is a number. -/
theorem readValue_eq_readNumber {c : Char} {rest : List Char} (hquote : c ≠ '"')
    (hbrace : c ≠ '\x7b') (hbracket : c ≠ '[')
    (hword : words.find? (fun w => w.1.isPrefixOf (c :: rest)) = none) (fuel position : Nat) :
    readValue (fuel + 1) position (c :: rest) = readNumber position (c :: rest) := by
  rw [readValue.eq_def]
  dsimp only
  split
  · rename_i heq
    cases heq
  · rename_i heq
    exact absurd (List.cons.inj heq).1 hquote
  · rename_i heq
    exact absurd (List.cons.inj heq).1 hbrace
  · rename_i heq
    exact absurd (List.cons.inj heq).1 hbracket
  · rw [hword]

/-- A word is read. -/
theorem readValue_word (i : Fin words.length) (fuel position : Nat) (rest : List Char) :
    ∃ after, readValue (fuel + 1) position ((words.get i).1 ++ rest) =
      .ok ⟨(words.get i).2, after, rest⟩ := by
  match i with
  | ⟨0, _⟩ | ⟨1, _⟩ | ⟨2, _⟩ | ⟨3, _⟩ | ⟨4, _⟩ | ⟨5, _⟩ => exact ⟨_, rfl⟩

/-- No word has a digit where a number has its first one. -/
theorem find?_words_of_isDigit {text : List Char} (h : (text.take 2).any Char.isDigit = true) :
    words.find? (fun w => w.1.isPrefixOf text) = none := by
  have hall : ∀ w ∈ words, 2 ≤ w.1.length ∧ (w.1.take 2).any Char.isDigit = false := by
    decide
  rw [List.find?_eq_none]
  intro w hw hprefix
  obtain ⟨more, rfl⟩ := List.isPrefixOf_iff_prefix.mp hprefix
  obtain ⟨hlength, hdigits⟩ := hall w hw
  rw [List.take_append_of_le_length hlength, hdigits] at h
  cases h

/-- So is a number. -/
theorem readValue_number {n : Numeral} (h : n.isSound = true) {rest : List Char}
    (hrest : endsNumber rest = true) (fuel position : Nat) :
    ∃ after, readValue (fuel + 1) position (n.written ++ rest) = .ok ⟨n.value, after, rest⟩ := by
  refine ⟨position + n.written.length, ?_⟩
  rw [← readNumber_written h hrest position]
  obtain ⟨d, more, hdigit, hd | hd⟩ := exists_written_cons h
  · rw [hd, List.cons_append]
    exact readValue_eq_readNumber (ne_of_isDigit hdigit rfl) (ne_of_isDigit hdigit rfl)
      (ne_of_isDigit hdigit rfl) (find?_words_of_isDigit (by simp [hdigit])) fuel position
  · rw [hd, List.cons_append]
    exact readValue_eq_readNumber (by decide) (by decide) (by decide)
      (find?_words_of_isDigit (by simp [hdigit])) fuel position

/-- What stands after a value in a collection ends a number. -/
theorem endsNumber_append {blanks : List Char} (h : blanks.all isBlank = true) (rest : List Char)
    (hrest : endsNumber rest = true) : endsNumber (blanks ++ rest) = true := by
  cases blanks with
  | nil => exact hrest
  | cons b blanks =>
    rw [List.all_cons, Bool.and_eq_true] at h
    have hb := h.1
    simp only [isBlank, Bool.or_eq_true, beq_iff_eq] at hb
    rcases hb with ((rfl | rfl) | rfl) | rfl <;> rfl

/-- A name is read, and then the colon after it is found. -/
theorem exists_readChars_name {name : Name} (hname : name.keeps .sound = true) (position : Nat)
    (text : List Char) :
    ∃ start colon ahead,
      skipBlanks position (name.written ++ ':' :: text) = (start, '"' :: ahead) ∧
        readChars start (start + 1) 0 ahead =
          .ok ⟨name.pieces.map Piece.meaning, colon, name.after ++ ':' :: text⟩ ∧
        skipBlanks colon (name.after ++ ':' :: text) = (colon + name.after.length, ':' :: text) := by
  simp only [Name.keeps, Rules.sound, Bool.and_eq_true] at hname
  obtain ⟨hblanks, hpieces, hgap⟩ := hname
  have hwritten : name.written ++ ':' :: text =
      name.before ++ '"' :: (Piece.writtenAll name.pieces ++ '"' :: (name.after ++ ':' :: text)) := by
    simp [Name.written]
  obtain ⟨colon, hcolon⟩ := readChars_writtenAll hpieces (position + name.before.length)
    (position + name.before.length + 1) (name.after ++ ':' :: text)
  refine ⟨_, colon, _, ?_, hcolon, skipBlanks_append hgap rfl colon text⟩
  rw [hwritten]
  exact skipBlanks_append hblanks rfl position _

section Collections

variable {before value after rest : List Char} {fuel : Nat} {v : Value}

/-- The last entry of an object is read. -/
theorem readEntries_last {name : Name} (hname : name.keeps .sound = true)
    (hbefore : before.all isBlank = true) (hvalue : startsValue value = true)
    (hafter : after.all isBlank = true)
    (hread : ∀ position, ∃ p, readValue fuel position (value ++ (after ++ '\x7d' :: rest)) =
      .ok ⟨v, p, after ++ '\x7d' :: rest⟩)
    (position : Nat) (done : List (Value × Value)) :
    ∃ p, readEntries (fuel + 1)
        (skipBlanks position
          (name.written ++ ':' :: (before ++ (value ++ (after ++ '\x7d' :: rest))))).1
        (skipBlanks position
          (name.written ++ ':' :: (before ++ (value ++ (after ++ '\x7d' :: rest))))).2 done =
      .ok ⟨.map (Entries.ofPairs ((textOf name.pieces, v) :: done).reverse), p, rest⟩ := by
  obtain ⟨start, colon, ahead, hskip, hchars, hcolon⟩ := exists_readChars_name hname position
    (before ++ (value ++ (after ++ '\x7d' :: rest)))
  obtain ⟨p, hp⟩ := hread (colon + name.after.length + 1 + before.length)
  have hend : isBlank '\x7d' = false := rfl
  refine ⟨p + after.length + 1, ?_⟩
  rw [hskip, readEntries, hchars]
  simp only [hcolon, skipBlanks_before hbefore (startsValue_append hvalue _), hp,
    skipBlanks_append hafter hend]
  rfl

/-- An entry before others is read, and then those. -/
theorem readEntries_cons {name : Name} (hname : name.keeps .sound = true)
    (hbefore : before.all isBlank = true) (hvalue : startsValue value = true)
    (hafter : after.all isBlank = true)
    (hread : ∀ position, ∃ p, readValue fuel position (value ++ (after ++ ',' :: rest)) =
      .ok ⟨v, p, after ++ ',' :: rest⟩)
    (position : Nat) (done : List (Value × Value)) :
    ∃ p, readEntries (fuel + 1)
        (skipBlanks position
          (name.written ++ ':' :: (before ++ (value ++ (after ++ ',' :: rest))))).1
        (skipBlanks position
          (name.written ++ ':' :: (before ++ (value ++ (after ++ ',' :: rest))))).2 done =
      readEntries fuel (skipBlanks p rest).1 (skipBlanks p rest).2
        ((textOf name.pieces, v) :: done) := by
  obtain ⟨start, colon, ahead, hskip, hchars, hcolon⟩ := exists_readChars_name hname position
    (before ++ (value ++ (after ++ ',' :: rest)))
  obtain ⟨p, hp⟩ := hread (colon + name.after.length + 1 + before.length)
  have hend : isBlank ',' = false := rfl
  refine ⟨p + after.length + 1, ?_⟩
  rw [hskip, readEntries, hchars]
  simp only [hcolon, skipBlanks_before hbefore (startsValue_append hvalue _), hp,
    skipBlanks_append hafter hend]
  rfl

/-- The last item of an array is read. -/
theorem readItems_last (hbefore : before.all isBlank = true) (hvalue : startsValue value = true)
    (hafter : after.all isBlank = true)
    (hread : ∀ position, ∃ p, readValue fuel position (value ++ (after ++ ']' :: rest)) =
      .ok ⟨v, p, after ++ ']' :: rest⟩)
    (position : Nat) (done : List Value) :
    ∃ p, readItems (fuel + 1)
        (skipBlanks position (before ++ (value ++ (after ++ ']' :: rest)))).1
        (skipBlanks position (before ++ (value ++ (after ++ ']' :: rest)))).2 done =
      .ok ⟨.list (v :: done).reverse, p, rest⟩ := by
  obtain ⟨p, hp⟩ := hread (position + before.length)
  have hend : isBlank ']' = false := rfl
  refine ⟨p + after.length + 1, ?_⟩
  rw [skipBlanks_before hbefore (startsValue_append hvalue _), readItems]
  simp only [hp, skipBlanks_append hafter hend]

/-- An item before others is read, and then those. -/
theorem readItems_cons (hbefore : before.all isBlank = true) (hvalue : startsValue value = true)
    (hafter : after.all isBlank = true)
    (hread : ∀ position, ∃ p, readValue fuel position (value ++ (after ++ ',' :: rest)) =
      .ok ⟨v, p, after ++ ',' :: rest⟩)
    (position : Nat) (done : List Value) :
    ∃ p, readItems (fuel + 1)
        (skipBlanks position (before ++ (value ++ (after ++ ',' :: rest)))).1
        (skipBlanks position (before ++ (value ++ (after ++ ',' :: rest)))).2 done =
      readItems fuel (skipBlanks p rest).1 (skipBlanks p rest).2 (v :: done) := by
  obtain ⟨p, hp⟩ := hread (position + before.length)
  have hend : isBlank ',' = false := rfl
  refine ⟨p + after.length + 1, ?_⟩
  rw [skipBlanks_before hbefore (startsValue_append hvalue _), readItems]
  simp only [hp, skipBlanks_append hafter hend]

end Collections

/-- An array that does not end at once has items. -/
theorem readValue_array {text : List Char} {position : Nat}
    (h : ∀ rest, (skipBlanks (position + 1) text).2 ≠ ']' :: rest) (fuel : Nat) :
    readValue (fuel + 1) position ('[' :: text) =
      readItems fuel (skipBlanks (position + 1) text).1 (skipBlanks (position + 1) text).2 [] := by
  rw [readValue]
  dsimp only
  split
  · rename_i rest heq
    exact absurd heq (h rest)
  · rfl

/-- An object that does not end at once has entries. -/
theorem readValue_object {text : List Char} {position : Nat}
    (h : ∀ rest, (skipBlanks (position + 1) text).2 ≠ '\x7d' :: rest) (fuel : Nat) :
    readValue (fuel + 1) position ('\x7b' :: text) =
      readEntries fuel (skipBlanks (position + 1) text).1 (skipBlanks (position + 1) text).2
        [] := by
  rw [readValue]
  dsimp only
  split
  · rename_i rest heq
    exact absurd heq (h rest)
  · rfl

/-- Items do not begin with a closing bracket. -/
theorem skipBlanks_items_ne {items : Items} (h : items.keeps .sound = true) (position : Nat)
    (more : List Char) :
    ∀ rest, (skipBlanks position (items.written ++ more)).2 ≠ ']' :: rest := by
  obtain ⟨before, f, after, hwritten, hbefore, hf⟩ : ∃ before f after,
      items.written = before ++ (Form.written f ++ after) ∧ before.all isBlank = true ∧
        f.keeps .sound = true := by
    cases items with
    | last before f after =>
      simp only [Items.keeps, Bool.and_eq_true] at h
      exact ⟨before, f, after, rfl, h.1.1, h.1.2⟩
    | cons before f after items =>
      simp only [Items.keeps, Bool.and_eq_true] at h
      exact ⟨before, f, _, rfl, h.1.1.1, h.1.1.2⟩
  have hstarts := startsValue_append (startsValue_written hf) (after ++ more)
  intro rest heq
  rw [hwritten, List.append_assoc, List.append_assoc, skipBlanks_before hbefore hstarts] at heq
  rw [show Form.written f ++ (after ++ more) = ']' :: rest from heq] at hstarts
  cases hstarts

/-- Entries do not begin with a closing brace. -/
theorem skipBlanks_members_ne {members : Members} (h : members.keeps .sound = true)
    (position : Nat) (more : List Char) :
    ∀ rest, (skipBlanks position (members.written ++ more)).2 ≠ '\x7d' :: rest := by
  obtain ⟨name, after, hwritten, hname⟩ : ∃ name after,
      members.written = Name.written name ++ after ∧ name.keeps .sound = true := by
    cases members with
    | last name before f after =>
      simp only [Members.keeps, Bool.and_eq_true] at h
      exact ⟨name, _, rfl, h.1.1.1⟩
    | cons name before f after members =>
      simp only [Members.keeps, Bool.and_eq_true] at h
      exact ⟨name, _, rfl, h.1.1.1.1⟩
  simp only [Name.keeps, Bool.and_eq_true] at hname
  intro rest heq
  have hquote : isBlank '"' = false := by decide
  rw [hwritten, Name.written, List.append_assoc, List.append_assoc, List.cons_append,
    skipBlanks_append hname.1 hquote] at heq
  cases heq

mutual

/-- **A value is read back**, if no number goes on after it. -/
theorem readValue_written : (f : Form) → f.keeps .sound = true → (fuel : Nat) →
    f.written.length ≤ fuel → (position : Nat) → {rest : List Char} → endsNumber rest = true →
    ∃ after, readValue fuel position (f.written ++ rest) = .ok ⟨f.value, after, rest⟩
  | .word i, _, 0, hfuel, _, _, _ => by
    have hall : ∀ i : Fin words.length, (words.get i).1.length ≠ 0 := by decide
    exact absurd (Nat.le_zero.mp hfuel) (hall i)
  | .word i, _, fuel + 1, _, position, rest, _ => readValue_word i fuel position rest
  | .number n, h, 0, hfuel, _, _, _ => by
    obtain ⟨d, more, -, hd | hd⟩ := exists_written_cons h <;>
      rw [Form.written, hd] at hfuel <;> cases hfuel
  | .number n, h, fuel + 1, _, position, rest, hrest => readValue_number h hrest fuel position
  | .text pieces, h, fuel + 1, _, position, rest, _ => by
    obtain ⟨after, hread⟩ := readChars_writtenAll h position (position + 1) rest
    refine ⟨after, ?_⟩
    rw [Form.written_text_append, readValue, hread]
    rfl
  | .emptyArray blanks, h, fuel + 1, _, position, rest, _ => by
    refine ⟨position + 1 + blanks.length + 1, ?_⟩
    rw [Form.written_emptyArray_append, readValue, skipBlanks_append h rfl]
    rfl
  | .array items, h, fuel + 1, hfuel, position, rest, _ => by
    simp only [Form.written, List.length_cons, List.length_append, List.length_nil] at hfuel
    obtain ⟨after, hread⟩ := readItems_written items h fuel (by omega) (position + 1) []
      rest
    refine ⟨after, ?_⟩
    rw [Form.written_array_append, readValue_array (skipBlanks_items_ne h _ _), hread]
    rfl
  | .emptyObject blanks, h, fuel + 1, _, position, rest, _ => by
    refine ⟨position + 1 + blanks.length + 1, ?_⟩
    rw [Form.written_emptyObject_append, readValue, skipBlanks_append h rfl]
    rfl
  | .object members, h, fuel + 1, hfuel, position, rest, _ => by
    simp only [Form.written, List.length_cons, List.length_append, List.length_nil] at hfuel
    obtain ⟨after, hread⟩ := readEntries_written members h fuel (by omega) (position + 1)
      [] rest
    refine ⟨after, ?_⟩
    rw [Form.written_object_append, readValue_object (skipBlanks_members_ne h _ _), hread]
    rfl

/-- So are the items of an array. -/
theorem readItems_written : (items : Items) → items.keeps .sound = true → (fuel : Nat) →
    items.written.length + 1 ≤ fuel → (position : Nat) → (done : List Value) →
    (rest : List Char) →
    ∃ after, readItems fuel (skipBlanks position (items.written ++ ']' :: rest)).1
        (skipBlanks position (items.written ++ ']' :: rest)).2 done =
      .ok ⟨.list (done.reverse ++ items.values), after, rest⟩
  | .last before f after, h, fuel + 1, hfuel, position, done, rest => by
    simp only [Items.keeps, Bool.and_eq_true] at h
    obtain ⟨⟨hbefore, hf⟩, hafter⟩ := h
    simp only [Items.written, List.length_append] at hfuel
    have hread := fun position => readValue_written f hf fuel (by omega) position
      (endsNumber_append hafter (']' :: rest) rfl)
    obtain ⟨p, hp⟩ := readItems_last hbefore (startsValue_written hf) hafter hread position done
    refine ⟨p, ?_⟩
    simpa [Items.written, Items.values] using hp
  | .cons before f after items, h, fuel + 1, hfuel, position, done, rest => by
    simp only [Items.keeps, Bool.and_eq_true] at h
    obtain ⟨⟨⟨hbefore, hf⟩, hafter⟩, hitems⟩ := h
    simp only [Items.written, List.length_append, List.length_cons] at hfuel
    have hread := fun position => readValue_written f hf fuel (by omega) position
      (endsNumber_append hafter (',' :: (items.written ++ ']' :: rest)) rfl)
    obtain ⟨p, hp⟩ := readItems_cons hbefore (startsValue_written hf) hafter hread position done
    obtain ⟨last, hlast⟩ := readItems_written items hitems fuel (by omega) p
      (f.value :: done) rest
    refine ⟨last, ?_⟩
    simp only [hlast] at hp
    simpa [Items.written, Items.values] using hp

/-- And the entries of an object. -/
theorem readEntries_written : (members : Members) → members.keeps .sound = true → (fuel : Nat) →
    members.written.length + 1 ≤ fuel → (position : Nat) → (done : List (Value × Value)) →
    (rest : List Char) →
    ∃ after, readEntries fuel (skipBlanks position (members.written ++ '\x7d' :: rest)).1
        (skipBlanks position (members.written ++ '\x7d' :: rest)).2 done =
      .ok ⟨.map (Entries.ofPairs (done.reverse ++ members.pairs)), after, rest⟩
  | .last name before f after, h, fuel + 1, hfuel, position, done, rest => by
    simp only [Members.keeps, Bool.and_eq_true] at h
    obtain ⟨⟨⟨hname, hbefore⟩, hf⟩, hafter⟩ := h
    simp only [Members.written, List.length_append, List.length_cons] at hfuel
    have hread := fun position => readValue_written f hf fuel (by omega) position
      (endsNumber_append hafter ('\x7d' :: rest) rfl)
    obtain ⟨p, hp⟩ := readEntries_last hname hbefore (startsValue_written hf) hafter hread position
      done
    refine ⟨p, ?_⟩
    simpa [Members.written, Members.pairs] using hp
  | .cons name before f after members, h, fuel + 1, hfuel, position, done, rest => by
    simp only [Members.keeps, Bool.and_eq_true] at h
    obtain ⟨⟨⟨⟨hname, hbefore⟩, hf⟩, hafter⟩, hmembers⟩ := h
    simp only [Members.written, List.length_append, List.length_cons] at hfuel
    have hread := fun position => readValue_written f hf fuel (by omega) position
      (endsNumber_append hafter (',' :: (members.written ++ '\x7d' :: rest)) rfl)
    obtain ⟨p, hp⟩ := readEntries_cons hname hbefore (startsValue_written hf) hafter hread position
      done
    obtain ⟨last, hlast⟩ := readEntries_written members hmembers fuel (by omega) p
      ((textOf name.pieces, f.value) :: done) rest
    refine ⟨last, ?_⟩
    simp only [hlast] at hp
    simpa [Members.written, Members.pairs] using hp

end

/-- **What is written is read back**, with blanks around it. -/
theorem read_written {f : Form} (h : f.keeps .sound = true) {before after : List Char}
    (hbefore : before.all isBlank = true) (hafter : after.all isBlank = true) :
    read (before ++ (f.written ++ after)) = .ok f.value := by
  have hstarts := startsValue_append (startsValue_written h) after
  have hmark : ((before ++ (f.written ++ after)).head? == some '\uFEFF') = false := by
    rw [beq_eq_false_iff_ne]
    cases before with
    | nil =>
      intro hhead
      cases hw : f.written ++ after with
      | nil => rw [hw] at hstarts; cases hstarts
      | cons c rest =>
        rw [hw] at hstarts hhead
        obtain rfl : c = '\uFEFF' := Option.some.inj hhead
        cases hstarts
    | cons b before =>
      rw [List.all_cons, Bool.and_eq_true] at hbefore
      rintro ⟨⟩
      exact absurd hbefore.1 (by decide)
  have hfuel : f.written.length ≤ 2 * (before ++ (f.written ++ after)).length + 2 := by
    simp only [List.length_append]
    omega
  obtain ⟨p, hp⟩ := readValue_written f h _ hfuel (0 + before.length)
    (endsNumber_append hafter [] rfl)
  rw [List.append_nil] at hp
  unfold read
  rw [hmark, if_neg Bool.false_ne_true, skipBlanks_before hbefore hstarts]
  dsimp only
  rw [hp]
  dsimp only
  rw [skipBlanks_all hafter]
  rfl

end Phrasebook.Json
