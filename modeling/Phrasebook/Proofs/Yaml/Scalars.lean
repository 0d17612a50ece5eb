import Phrasebook.Proofs.Json.Reading
import Phrasebook.Proofs.Yaml.Places
import Phrasebook.Yaml.Node

namespace Phrasebook.Yaml

/-!
# Texts and numbers of JSON as scalars

Between double quotes the escapes of JSON mean the same here, apart from two that are halves of one
character; characters that end a line or that no text may hold have to be escaped.

* `isPortable` — a piece of a text that means the same;
* `all_isLineChar_writtenAll` — what is written of such pieces stays on one line;
* `Scalar.quotedText_written` — a text is read up to its closing quote;
* `Scalar.plainText_append` — a number or word is read up to what follows it in a collection.
-/

open Cursor
open Json (Piece)

/-- A character that may stand in a text and ends no line. -/
def isLineChar (c : Char) : Bool := isAllowed c && !isBreak c

/-- Whether a piece of a text in JSON means the same here. -/
def isPortable : Piece → Bool
  | .char c => isLineChar c
  | .short _ | .code _ => true
  | .pair _ _ => false

/-! ### Escapes -/

/-- The escapes of one letter are the same. -/
theorem escaped?_of_json {e c : Char} (h : Json.escaped? e = some c) :
    Scalar.escaped? e = some c := by
  unfold Json.escaped? at h
  split at h <;> cases h <;> rfl

/-- Characters are compared by their codes. -/
theorem char_le_iff {c d : Char} : c ≤ d ↔ c.toNat ≤ d.toNat := by
  rw [Char.le_def, UInt32.le_iff_toNat_le]
  rfl

/-- A digit below sixteen is a hexadecimal one. -/
theorem isHexDigit_of_digitOf? {c : Char} {d : Nat} (h : Decimal.digitOf? c = some d)
    (hd : d < 16) : isHexDigit c = true := by
  have hletters : 'a'.toNat = 97 ∧ 'f'.toNat = 102 ∧ 'A'.toNat = 65 ∧ 'F'.toNat = 70 :=
    ⟨rfl, rfl, rfl, rfl⟩
  unfold Decimal.digitOf? at h
  unfold isHexDigit
  split at h
  · rename_i hdigit
    rw [hdigit]
    rfl
  · split at h
    · rename_i hlower
      cases h
      have hbounds : (c.val ≥ 97 && c.val ≤ 122) = true := hlower
      simp only [Bool.and_eq_true, decide_eq_true_eq] at hbounds
      have hstart : 97 ≤ c.toNat := UInt32.le_iff_toNat_le.mp hbounds.1
      have hrange : 'a' ≤ c ∧ c ≤ 'f' := by
        rw [char_le_iff, char_le_iff]
        omega
      simp [hrange]
    · split at h
      · rename_i hupper
        cases h
        have hbounds : c.val ≥ 65 ∧ c.val ≤ 90 := of_decide_eq_true hupper
        have hstart : 65 ≤ c.toNat := UInt32.le_iff_toNat_le.mp hbounds.1
        have hrange : 'A' ≤ c ∧ c ≤ 'F' := by
          rw [char_le_iff, char_le_iff]
          omega
        simp [hrange]
      · cases h

/-- Digits that have a value in base sixteen are hexadecimal. -/
theorem all_isHexDigit {digits : List Char} {start n : Nat}
    (h : Decimal.naturalOf 16 start digits = some n) : digits.all isHexDigit = true := by
  induction digits generalizing start with
  | nil => rfl
  | cons c digits ih =>
    rw [Decimal.naturalOf] at h
    split at h
    · rename_i d hd
      split at h
      · rename_i hlt
        rw [List.all_cons, isHexDigit_of_digitOf? hd hlt, ih h]
        rfl
      · cases h
    · cases h

/-- Printed characters of ASCII are allowed and end no line. -/
theorem isLineChar_of_printed {c : Char} (hfirst : 0x20 ≤ c.toNat) (hlast : c.toNat ≤ 0x7E) :
    isLineChar c = true := by
  have hallowed : isAllowed c = true := by simp [isAllowed, hfirst, hlast]
  have hbreak : isBreak c = false := by
    rw [← Bool.not_eq_true]
    intro h
    simp only [isBreak, Bool.or_eq_true, beq_iff_eq] at h
    rcases h with ((rfl | rfl) | rfl) | rfl
    · exact absurd hfirst (by decide)
    all_goals exact absurd hlast (by decide)
  unfold isLineChar
  rw [hallowed, hbreak]
  rfl

/-- So are digits. -/
theorem isLineChar_of_isDigit {c : Char} (h : c.isDigit = true) : isLineChar c = true := by
  rw [Char.isDigit, Bool.and_eq_true, decide_eq_true_eq, decide_eq_true_eq] at h
  have hfirst : 48 ≤ c.toNat := UInt32.le_iff_toNat_le.mp h.1
  have hlast : c.toNat ≤ 57 := UInt32.le_iff_toNat_le.mp h.2
  exact isLineChar_of_printed (by omega) (by omega)

/-- So are hexadecimal digits. -/
theorem isLineChar_of_isHexDigit {c : Char} (h : isHexDigit c = true) : isLineChar c = true := by
  have hletters : 'a'.toNat = 97 ∧ 'f'.toNat = 102 ∧ 'A'.toNat = 65 ∧ 'F'.toNat = 70 :=
    ⟨rfl, rfl, rfl, rfl⟩
  simp only [isHexDigit, Bool.or_eq_true, Bool.and_eq_true, decide_eq_true_eq, char_le_iff] at h
  rcases h with (hdigit | hlower) | hupper
  · exact isLineChar_of_isDigit hdigit
  · exact isLineChar_of_printed (by omega) (by omega)
  · exact isLineChar_of_printed (by omega) (by omega)

/-- So is everything that is written of a piece. -/
theorem all_isLineChar_written {piece : Piece} (hsound : piece.isSound = true)
    (hportable : isPortable piece = true) : piece.written.all isLineChar = true := by
  cases piece with
  | char c =>
    have hchar : isLineChar c = true := hportable
    rw [Piece.written, List.all_cons, hchar]
    rfl
  | short e =>
    have hletter : isLineChar e = true := by
      obtain ⟨d, hd⟩ := Option.isSome_iff_exists.mp hsound
      unfold Json.escaped? at hd
      split at hd <;> first | rfl | cases hd
    rw [Piece.written, List.all_cons, List.all_cons, hletter]
    rfl
  | code digits =>
    have hvalue := Json.fourDigits?_eq_codeOf hsound
    rw [Json.fourDigits?, if_pos (by rw [Json.length_of_fourDigits? hsound]; rfl)] at hvalue
    have hdigits : digits.all isLineChar = true := by
      rw [List.all_eq_true]
      exact fun c hc =>
        isLineChar_of_isHexDigit (List.all_eq_true.mp (all_isHexDigit hvalue) c hc)
    rw [Piece.written, List.all_cons, List.all_cons, hdigits]
    rfl
  | pair high low => cases hportable

/-- A text stays on one line. -/
theorem all_isLineChar_writtenAll {pieces : List Piece} (hsound : Piece.areSound pieces = true)
    (hportable : pieces.all isPortable = true) :
    (Piece.writtenAll pieces).all isLineChar = true := by
  induction pieces with
  | nil => rfl
  | cons piece pieces ih =>
    simp only [Piece.areSound, Bool.and_eq_true] at hsound
    rw [List.all_cons, Bool.and_eq_true] at hportable
    rw [Json.writtenAll_cons, List.all_append, all_isLineChar_written hsound.1.1 hportable.1,
      ih hsound.2 hportable.2]
    rfl

/-- The value of digits is below the power of the base. -/
theorem naturalOf_lt {base start n : Nat} {digits : List Char}
    (h : Decimal.naturalOf base start digits = some n) :
    n < (start + 1) * Nat.pow base digits.length := by
  induction digits generalizing start with
  | nil =>
    cases h
    show n < (n + 1) * 1
    rw [Nat.mul_one]
    exact Nat.lt_succ_self _
  | cons c digits ih =>
    rw [Decimal.naturalOf] at h
    split at h
    · rename_i d hd
      split at h
      · rename_i hlt
        have hstart : start * base + d + 1 ≤ (start + 1) * base := by
          rw [Nat.succ_mul]
          omega
        calc n < (start * base + d + 1) * Nat.pow base digits.length := ih h
          _ ≤ (start + 1) * base * Nat.pow base digits.length := Nat.mul_le_mul_right _ hstart
          _ = (start + 1) * (Nat.pow base digits.length * base) := by
            rw [Nat.mul_assoc, Nat.mul_comm base]
      · cases h
    · cases h

/-- Four digits are read as they are in JSON. -/
theorem readCode_of_fourDigits? {digits : List Char} (h : (Json.fourDigits? digits).isSome = true)
    {p : Cursor} {rest : List Char} (hp : p.ahead = digits ++ rest) :
    Scalar.readCode 4 p = .ok (Text.ofCode (Piece.codeOf digits)) := by
  have hlength := Json.length_of_fourDigits? h
  have htake : p.ahead.take 4 = digits := by
    rw [hp]
    exact (Json.take_four hlength rest).1
  have hvalue : Decimal.naturalOf 16 0 digits = some (Piece.codeOf digits) := by
    rw [← Json.fourDigits?_eq_codeOf h, Json.fourDigits?, hlength]
    rfl
  have hsmall : ¬ 0x110000 ≤ Piece.codeOf digits := by
    have hlt := naturalOf_lt hvalue
    rw [hlength] at hlt
    exact Nat.not_le.mpr (Nat.lt_of_lt_of_le hlt (by decide))
  unfold Scalar.readCode
  simp [htake, hlength, all_isHexDigit hvalue, hvalue, hsmall]

/-! ### Quoted texts -/

namespace Scalar

/-- What is read between double quotes from a place on, given fuel for so many characters. -/
def Quotes (p : Cursor) (size : Nat) (text : List Char) (q : Cursor) : Prop :=
  ∀ fuel, size < fuel → readQuoted true fuel p = .ok (text, q)

/-- The closing quote. -/
theorem quotes_close {p : Cursor} {rest : List Char} (hp : p.ahead = '"' :: rest) :
    Quotes p 0 [] p.step := by
  intro fuel hfuel
  obtain ⟨fuel, rfl⟩ : ∃ n, fuel = n + 1 := ⟨fuel - 1, by omega⟩
  rw [readQuoted, hp]
  rfl

/-- Spaces before a character that is no blank. -/
theorem Quotes.spaces {count : Nat} {p : Cursor} {c : Char} {rest : List Char}
    (hp : p.ahead = List.replicate count ' ' ++ c :: rest)
    (hc : isSpaceOrTab c = false ∧ isBreak c = false) {size : Nat} {text : List Char} {q : Cursor}
    (h : Quotes (p.skip count) size text q) :
    Quotes p (count + size) (List.replicate count ' ' ++ text) q := by
  cases count with
  | zero =>
    rw [Nat.zero_add]
    exact h
  | succ count =>
    intro fuel hfuel
    obtain ⟨fuel, rfl⟩ : ∃ n, fuel = n + 1 := ⟨fuel - 1, by omega⟩
    have hspan : p.span isSpaceOrTab =
        (List.replicate (count + 1) ' ', p.skip (count + 1)) := by
      unfold span
      have hall : ∀ b ∈ List.replicate (count + 1) ' ', isSpaceOrTab b = true := by
        intro b hb
        rw [List.eq_of_mem_replicate hb]
        rfl
      rw [hp, List.takeWhile_append_of_pos hall,
        List.takeWhile_cons_of_neg (by rw [hc.1]; exact Bool.false_ne_true), List.append_nil]
      dsimp only
      rw [List.length_replicate]
    have hahead : (p.skip (count + 1)).ahead = c :: rest := by
      have := ahead_skip hp
      rwa [List.length_replicate] at this
    have hread := h fuel (by omega)
    rw [List.replicate_succ, List.cons_append] at hp
    rw [readQuoted, hp]
    simp only [hspan, hahead, hc.2, hread]
    rfl

/-- The first character of a piece, if the piece is sound and no space. -/
theorem exists_cons_of_isSound {piece : Piece} (hsound : piece.isSound = true)
    (hportable : isPortable piece = true) (hspace : piece ≠ .char ' ') :
    ∃ c rest, piece.written = c :: rest ∧ isSpaceOrTab c = false ∧ isBreak c = false := by
  cases piece with
  | char c =>
    simp only [Piece.isSound, Bool.and_eq_true, Bool.not_eq_true', decide_eq_false_iff_not] at hsound
    simp only [isPortable, isLineChar, Bool.and_eq_true, Bool.not_eq_true'] at hportable
    refine ⟨c, [], rfl, ?_, hportable.2⟩
    unfold isSpaceOrTab
    rw [Bool.or_eq_false_iff, beq_eq_false_iff_ne, beq_eq_false_iff_ne]
    refine ⟨fun h => hspace (by rw [h]), ?_⟩
    rintro rfl
    exact hsound.1.1 (by decide)
  | short e => exact ⟨_, _, rfl, rfl, rfl⟩
  | code digits => exact ⟨_, _, rfl, rfl, rfl⟩
  | pair high low => cases hportable

/-- An escape of one letter is read as JSON reads it. -/
theorem readEscape_short {e d : Char} (hd : Json.escaped? e = some d) {p : Cursor}
    {rest : List Char} (hp : p.ahead = e :: rest) : readEscape p = .ok ([d], p.step) := by
  unfold readEscape
  rw [hp]
  dsimp only
  rw [escaped?_of_json hd]

/-- So is one of four digits. -/
theorem readEscape_code {digits : List Char} (h : (Piece.code digits).isSound = true) {p : Cursor}
    {rest : List Char} (hp : p.ahead = 'u' :: (digits ++ rest)) :
    readEscape p = .ok ([Text.ofCode (Piece.codeOf digits)], p.step.skip 4) := by
  unfold readEscape
  rw [hp]
  show (do let d ← readCode 4 p.step; pure ([d], p.step.skip 4)) = _
  rw [readCode_of_fourDigits? h (ahead_step hp)]
  rfl

/-- A piece other than a space. -/
theorem Quotes.piece {piece : Piece} (hsound : piece.isSound = true)
    (hportable : isPortable piece = true) (hspace : piece ≠ .char ' ') {p : Cursor}
    {rest : List Char} (hp : p.ahead = piece.written ++ rest) {size : Nat} {text : List Char}
    {q : Cursor} (h : Quotes (p.skip piece.written.length) size text q) :
    Quotes p (piece.written.length + size) (piece.meaning :: text) q := by
  obtain ⟨c, more, hwritten, hblank, hbreak⟩ := exists_cons_of_isSound hsound hportable hspace
  intro fuel hfuel
  obtain ⟨fuel, rfl⟩ : ∃ n, fuel = n + 1 := ⟨fuel - 1, by omega⟩
  have hread : readQuoted true fuel (p.skip piece.written.length) = .ok (text, q) := by
    refine h fuel ?_
    rw [hwritten, List.length_cons] at hfuel
    omega
  have hahead : p.ahead = c :: (more ++ rest) := by
    rw [hp, hwritten]
    rfl
  rw [readQuoted, hahead]
  simp only [hblank, hbreak, Bool.or_self, Bool.false_eq_true, if_false, Bool.not_true,
    Bool.false_and, if_true]
  cases piece with
  | char c' =>
    obtain ⟨rfl, rfl⟩ : c' = c ∧ [] = more := List.cons.inj hwritten
    simp only [Piece.isSound, Bool.and_eq_true, bne_iff_ne] at hsound
    rw [if_neg (by simpa using hsound.1.2), if_neg (by simpa using hsound.2)]
    rw [show readQuoted true fuel p.step = _ from hread]
    rfl
  | short e =>
    obtain ⟨rfl, rfl⟩ : '\\' = c ∧ [e] = more := List.cons.inj hwritten
    obtain ⟨d, hd⟩ := Option.isSome_iff_exists.mp hsound
    rw [if_neg (by decide), if_pos (by decide), readEscape_short hd (ahead_step hahead)]
    show (do let r ← readQuoted true fuel p.step.step; pure ([d] ++ r.1, r.2)) = _
    rw [show readQuoted true fuel p.step.step = _ from hread]
    simp [Piece.meaning, hd]
  | code digits =>
    obtain ⟨rfl, rfl⟩ : '\\' = c ∧ 'u' :: digits = more := List.cons.inj hwritten
    have hwidth : (Piece.code digits).written.length = 2 + 4 := by
      simp [Piece.written, Json.length_of_fourDigits? hsound]
    rw [hwidth] at hread
    rw [if_neg (by decide), if_pos (by decide), readEscape_code hsound (ahead_step hahead)]
    show (do
      let r ← readQuoted true fuel (p.step.step.skip 4)
      pure ([Text.ofCode (Piece.codeOf digits)] ++ r.1, r.2)) = _
    rw [show readQuoted true fuel (p.step.step.skip 4) = _ from hread]
    rfl
  | pair high low => cases hportable

/-- Several pieces after some spaces. -/
theorem quotes_writtenAll {pieces : List Piece} (hsound : Piece.areSound pieces = true)
    (hportable : pieces.all isPortable = true) (count : Nat) {p : Cursor} {rest : List Char}
    (hp : p.ahead = List.replicate count ' ' ++ (Piece.writtenAll pieces ++ '"' :: rest)) :
    Quotes p (count + (Piece.writtenAll pieces).length)
      (List.replicate count ' ' ++ pieces.map Piece.meaning)
      (p.skip (count + (Piece.writtenAll pieces).length + 1)) := by
  have hskip : ∀ (count : Nat) {p : Cursor} {text : List Char},
      p.ahead = List.replicate count ' ' ++ text → (p.skip count).ahead = text := by
    intro count p text h
    have hahead := ahead_skip h
    rwa [List.length_replicate] at hahead
  -- Spaces are read in runs, so the induction carries along those that stand before the pieces.
  induction pieces generalizing count p with
  | nil =>
    have hclose := (quotes_close (hskip count hp)).spaces hp ⟨rfl, rfl⟩
    rw [show (p.skip count).step = p.skip (count + 1) from (skip_add count 1 p).symm] at hclose
    exact hclose
  | cons piece pieces ih =>
    simp only [Piece.areSound, Bool.and_eq_true] at hsound
    rw [List.all_cons, Bool.and_eq_true] at hportable
    rw [Json.writtenAll_cons, List.append_assoc] at hp
    by_cases hspace : piece = .char ' '
    · -- One more space before the others.
      subst hspace
      have hmore : p.ahead =
          List.replicate (count + 1) ' ' ++ (Piece.writtenAll pieces ++ '"' :: rest) := by
        rw [hp, List.replicate_succ']
        simp [Piece.written]
      have hread := ih hsound.2 hportable.2 (count + 1) hmore
      have hlength : count + (Piece.writtenAll (.char ' ' :: pieces)).length =
          count + 1 + (Piece.writtenAll pieces).length := by
        rw [Json.writtenAll_cons, List.length_append]
        simp only [Piece.written, List.length_singleton]
        omega
      rw [hlength, List.map_cons, show (Piece.char ' ').meaning = ' ' from rfl]
      rwa [List.replicate_succ', List.append_assoc] at hread
    · obtain ⟨c, more, hwritten, hblank⟩ :=
        exists_cons_of_isSound hsound.1.1 hportable.1 hspace
      have hahead := hskip count hp
      have hread := ih hsound.2 hportable.2 0 (ahead_skip hahead)
      rw [Nat.zero_add, List.replicate_zero, List.nil_append] at hread
      have hstart : p.ahead = List.replicate count ' ' ++
          c :: (more ++ (Piece.writtenAll pieces ++ '"' :: rest)) := by
        rw [hp, hwritten]
        rfl
      have hpiece := (Quotes.piece hsound.1.1 hportable.1 hspace hahead hread).spaces hstart hblank
      rw [← skip_add, ← skip_add] at hpiece
      rw [Json.writtenAll_cons, List.length_append, List.map_cons]
      have hplace : count + (piece.written.length + ((Piece.writtenAll pieces).length + 1)) =
          count + (piece.written.length + (Piece.writtenAll pieces).length) + 1 := by
        omega
      rwa [hplace] at hpiece

/-- **A text is read up to its closing quote.** -/
theorem quotedText_written {pieces : List Piece} (hsound : Piece.areSound pieces = true)
    (hportable : pieces.all isPortable = true) {p : Cursor} {rest : List Char}
    (hp : p.ahead = '"' :: (Piece.writtenAll pieces ++ '"' :: rest)) :
    quotedText p =
      .ok (pieces.map Piece.meaning, p.skip ((Piece.writtenAll pieces).length + 2)) := by
  have hread := quotes_writtenAll hsound hportable 0 (p := p.step) (ahead_step hp)
  have hfuel : 0 + (Piece.writtenAll pieces).length < p.ahead.length + 1 := by
    rw [hp, List.length_cons, List.length_append]
    omega
  have hquote : (p.head? == some '"') = true := by
    unfold head?
    rw [hp]
    rfl
  unfold quotedText
  rw [hquote, hread _ hfuel, Nat.zero_add]
  rfl

/-! ### Plain texts -/

/-- A character that a number or a word may have. -/
def isWordChar (c : Char) : Bool := c.isAlphanum || c == '.' || c == '+' || c == '-'

/-- A character that ends an entry of a flow collection. -/
def endsEntry (c : Char) : Bool := c == ',' || c == ']' || c == '\x7d'

/-- No such character ends a plain text in a flow collection. -/
theorem endsPlain_of_isWordChar {c : Char} (h : isWordChar c = true) (rest : List Char) :
    endsPlain true (c :: rest) = false := by
  have hother : ∀ d : Char, isWordChar d = false → c ≠ d := by
    rintro d hd rfl
    rw [hd] at h
    cases h
  simp [endsPlain, isSpaceOrTab, isBreak, hother ' ' (by decide), hother '\t' (by decide),
    hother '\n' (by decide), hother '\x85' (by decide), hother '\u2028' (by decide),
    hother '\u2029' (by decide), hother ':' (by decide), hother ',' (by decide),
    hother '?' (by decide), hother '[' (by decide), hother ']' (by decide),
    hother '\x7b' (by decide), hother '\x7d' (by decide)]

/-- Blanks and the end of an entry do. -/
theorem endsPlain_append {blanks : List Char} (h : blanks.all isPlainBlank = true) {c : Char}
    (hc : endsEntry c = true) (rest : List Char) :
    endsPlain true (blanks ++ c :: rest) = true := by
  cases blanks with
  | nil =>
    simp only [endsEntry, Bool.or_eq_true, beq_iff_eq] at hc
    rcases hc with (rfl | rfl) | rfl <;> simp [endsPlain]
  | cons b blanks =>
    rw [List.all_cons, Bool.and_eq_true] at h
    rcases isPlainBlank_iff.mp h.1 with rfl | rfl <;> rfl

/-- A plain text is taken up to there. -/
theorem plainPiece_append {text : List Char} (h : text.all isWordChar = true) {rest : List Char}
    (hrest : endsPlain true rest = true) : plainPiece true (text ++ rest) = text := by
  induction text with
  | nil =>
    cases rest with
    | nil => rfl
    | cons c rest => exact if_pos hrest
  | cons c text ih =>
    rw [List.all_cons, Bool.and_eq_true] at h
    rw [List.cons_append, plainPiece, if_neg (by rw [endsPlain_of_isWordChar h.1]; decide), ih h.2]

/-- No separator of documents stands before the end of an entry. -/
theorem isSeparator_append {blanks : List Char} (h : blanks.all isPlainBlank = true) {c : Char}
    (hc : endsEntry c = true) (rest : List Char) : isSeparator (blanks ++ c :: rest) = false := by
  cases blanks with
  | nil =>
    simp only [endsEntry, Bool.or_eq_true, beq_iff_eq] at hc
    rcases hc with (rfl | rfl) | rfl <;> rfl
  | cons b blanks =>
    rw [List.all_cons, Bool.and_eq_true] at h
    rcases isPlainBlank_iff.mp h.1 with rfl | rfl <;> rfl

/-- The end of an entry is no blank. -/
theorem not_blank_of_endsEntry {c : Char} (hc : endsEntry c = true) :
    (c == ' ') = false ∧ isBreak c = false := by
  simp only [endsEntry, Bool.or_eq_true, beq_iff_eq] at hc
  rcases hc with (rfl | rfl) | rfl <;> decide

/-- Empty lines after a plain text are passed over up to the end of the entry. -/
theorem plainEmptyLines_append {blanks : List Char} (h : blanks.all isPlainBlank = true) {c : Char}
    (hc : endsEntry c = true) {p : Cursor} {rest : List Char} (hp : p.ahead = blanks ++ c :: rest)
    (fuel : Nat) (hfuel : blanks.length < fuel) :
    Reaches p (plainEmptyLines fuel p).2.1 ∧ (plainEmptyLines fuel p).2.1.ahead = c :: rest := by
  induction blanks generalizing p fuel with
  | nil =>
    obtain ⟨fuel, rfl⟩ : ∃ n, fuel = n + 1 := ⟨fuel - 1, by omega⟩
    rw [List.nil_append] at hp
    have hspace : p.dropWhile (· == ' ') = p :=
      dropWhile_of_neg (by rw [hp]; exact (not_blank_of_endsEntry hc).1)
    have hend : (plainEmptyLines (fuel + 1) p).2.1 = p := by
      unfold plainEmptyLines
      simp only [hspace, hp, (not_blank_of_endsEntry hc).2, Bool.not_false, if_true]
    rw [hend]
    exact ⟨.refl p, hp⟩
  | cons b blanks ih =>
    obtain ⟨fuel, rfl⟩ : ∃ n, fuel = n + 1 := ⟨fuel - 1, by omega⟩
    rw [List.all_cons, Bool.and_eq_true] at h
    rw [List.length_cons] at hfuel
    rw [List.cons_append] at hp
    have hstep := ahead_step hp
    rcases isPlainBlank_iff.mp h.1 with rfl | rfl
    · -- Spaces at the start of a line are dropped together.
      have hsame : plainEmptyLines (fuel + 1) p = plainEmptyLines (fuel + 1) p.step := by
        unfold plainEmptyLines
        rw [dropWhile_of_pos hp rfl]
      rw [hsame]
      obtain ⟨hreaches, hahead⟩ := ih h.2 hstep (fuel + 1) (by omega)
      exact ⟨(reaches_step p).trans hreaches, hahead⟩
    · obtain ⟨hreaches, hahead⟩ := ih h.2 hstep fuel (by omega)
      have hline : p.dropWhile (· == ' ') = p := dropWhile_of_neg (by rw [hp]; rfl)
      have hsame : (plainEmptyLines (fuel + 1) p).2.1 = (plainEmptyLines fuel p.step).2.1 := by
        rw [plainEmptyLines]
        simp only [hline, hp, hstep, isSeparator_append h.2 hc, show isBreak '\n' = true from rfl,
          Bool.not_true, Bool.false_eq_true, if_false]
      rw [hsame]
      exact ⟨(reaches_step p).trans hreaches, hahead⟩

/-- So are all blanks. -/
theorem plainGap_append {blanks : List Char} (h : blanks.all isPlainBlank = true) {c : Char}
    (hc : endsEntry c = true) {p : Cursor} {rest : List Char}
    (hp : p.ahead = blanks ++ c :: rest) :
    Reaches p (plainGap p).cursor ∧ (plainGap p).cursor.ahead = c :: rest := by
  have hdrop := ahead_dropWhile p (· == ' ')
  have hreaches := reaches_dropWhile p (· == ' ')
  have hrest : (blanks ++ c :: rest).dropWhile (· == ' ') =
      blanks.dropWhile (· == ' ') ++ c :: rest := by
    rw [List.dropWhile_append]
    split
    · rename_i hnil
      rw [List.isEmpty_iff.mp hnil, List.nil_append,
        List.dropWhile_cons_of_neg (by rw [(not_blank_of_endsEntry hc).1]; exact Bool.false_ne_true)]
    · rfl
  rw [hp, hrest] at hdrop
  unfold plainGap
  rw [show p.span (· == ' ') = (p.ahead.takeWhile (· == ' '), p.dropWhile (· == ' ')) from rfl]
  generalize p.dropWhile (· == ' ') = q at hdrop hreaches
  dsimp only
  rcases cases_dropWhile_space h with hnil | ⟨more, hline, hmore⟩
  · -- The entry ends on the line of the text.
    rw [hnil, List.nil_append] at hdrop
    rw [hdrop]
    simp only [(not_blank_of_endsEntry hc).2, Bool.not_false, if_true]
    exact ⟨hreaches, hdrop⟩
  · rw [hline, List.cons_append] at hdrop
    have hstep := ahead_step hdrop
    obtain ⟨hlines, hahead⟩ := plainEmptyLines_append hmore hc hstep
      ('\n' :: (more ++ c :: rest)).length
      (by rw [List.length_cons, List.length_append]; omega)
    have hgap := (hreaches.trans (reaches_step q)).trans hlines
    rw [hdrop]
    simp only [hstep, isSeparator_append hmore hc, show isBreak '\n' = true from rfl,
      Bool.not_true, Bool.false_eq_true, if_false]
    exact ⟨hgap, hahead⟩

/-- **A number or a word is read** up to the end of its entry. -/
theorem plainText_append {text blanks : List Char} (htext : text.all isWordChar = true)
    (hblanks : blanks.all isPlainBlank = true) {c : Char} (hc : endsEntry c = true) {p : Cursor}
    {rest : List Char} (hp : p.ahead = text ++ (blanks ++ c :: rest)) (margin : Int) :
    ∃ q broken, plainText true margin p = (text, q, broken) ∧ Reaches p q ∧
      q.ahead = c :: rest := by
  have hpiece : plainPiece true p.ahead = text := by
    rw [hp]
    exact plainPiece_append htext (endsPlain_append hblanks hc rest)
  obtain ⟨hreaches, hahead⟩ := plainGap_append hblanks hc (ahead_skip hp)
  have hends : endsPlain true (c :: rest) = true :=
    endsPlain_append (show ([] : List Char).all isPlainBlank = true from rfl) hc rest
  refine ⟨(plainGap (p.skip text.length)).cursor, (plainGap (p.skip text.length)).broken, ?_,
    Reaches.trans ⟨text.length, rfl⟩ hreaches, hahead⟩
  unfold plainText
  rw [readPlain]
  simp only [hpiece, hahead, hends, Bool.or_true, if_true]

end Scalar

end Phrasebook.Yaml
