import Phrasebook.Json.Reader

namespace Phrasebook.Json

/-!
# Texts in JSON as they are written

A value may be written in many ways: with blanks between the tokens, with or without escapes, with
a number in any of its spellings.  A form is one of them.

* `Piece` — a character of a text, as it stands there or as an escape;
* `Numeral` — the parts of a number;
* `Form` — a value with everything that is written of it;
* `Form.written`, `Form.value` — the text and the value of a form;
* `Rules`, `Form.keeps` — which of the ways to write are allowed, part by part;
* `Rules.sound` — those of JSON;
* `Rules.Within` — rules that allow no more than others.
-/

/-! ### Pieces of texts -/

/-- A character between quotes as it is written. -/
inductive Piece where
  /-- It stands for itself. -/
  | char (c : Char)
  /-- An escape of one letter. -/
  | short (e : Char)
  /-- An escape by four digits. -/
  | code (digits : List Char)
  /-- Two of those for the halves of one character. -/
  | pair (high low : List Char)

namespace Piece

/-- The code of four digits. -/
def codeOf (digits : List Char) : Nat := (fourDigits? digits).getD 0

/-- What is written. -/
def written : Piece → List Char
  | .char c => [c]
  | .short e => ['\\', e]
  | .code digits => '\\' :: 'u' :: digits
  | .pair high low => '\\' :: 'u' :: (high ++ '\\' :: 'u' :: low)

/-- The character that it stands for. -/
def meaning : Piece → Char
  | .char c => c
  | .short e => (escaped? e).getD e
  | .code digits => Text.ofCode (codeOf digits)
  | .pair high low => Char.ofNat (Text.joinHalves (codeOf high) (codeOf low))

/-- Whether JSON allows a piece. -/
def isSound : Piece → Bool
  | .char c => !(c.toNat ≤ 0x1F) && c != '"' && c != '\\'
  | .short e => (escaped? e).isSome
  | .code digits => (fourDigits? digits).isSome
  | .pair high low =>
    (fourDigits? high).isSome && (fourDigits? low).isSome && Text.isHighHalf (codeOf high) &&
      Text.isLowHalf (codeOf low)

/-- Whether two pieces would be read as one pair. -/
def joins : Piece → Piece → Bool
  | .code high, .code low => Text.isHighHalf (codeOf high) && Text.isLowHalf (codeOf low)
  | _, _ => false

/-- What is written of several pieces. -/
def writtenAll (pieces : List Piece) : List Char := pieces.flatMap written

/-- Whether JSON reads the pieces one by one. -/
def areSound : List Piece → Bool
  | [] => true
  | p :: rest => p.isSound && !rest.head?.any p.joins && areSound rest

end Piece

/-! ### Numbers -/

/-- An exponent. -/
structure Exponent where
  letter : Char
  sign : Option Char
  digits : List Char

namespace Exponent

/-- What is written. -/
def written (e : Exponent) : List Char := e.letter :: (e.sign.toList ++ e.digits)

/-- Whether JSON allows an exponent. -/
def isSound (e : Exponent) : Bool :=
  (e.letter == 'e' || e.letter == 'E') && e.sign.all (fun s => s == '+' || s == '-') &&
    !e.digits.isEmpty && e.digits.all Char.isDigit

/-- One that is allowed has its letter in either case, perhaps a sign, and digits. -/
theorem cases_of_isSound {e : Exponent} (h : e.isSound = true) :
    ∃ letter sign d more, e = ⟨letter, sign, d :: more⟩ ∧ (letter = 'e' ∨ letter = 'E') ∧
      (sign = none ∨ sign = some '+' ∨ sign = some '-') ∧
      (d :: more).all Char.isDigit = true := by
  obtain ⟨letter, sign, digits⟩ := e
  simp only [isSound, Bool.and_eq_true, Bool.or_eq_true, beq_iff_eq, Bool.not_eq_true'] at h
  obtain ⟨⟨⟨hletter, hsign⟩, hsome⟩, hdigits⟩ := h
  cases digits with
  | nil => cases hsome
  | cons d more =>
    refine ⟨letter, sign, d, more, rfl, hletter, ?_, hdigits⟩
    cases sign with
    | none => exact .inl rfl
    | some s => exact .inr (by simpa using hsign)

end Exponent

/-- The parts of a number: its sign, the digits before the point, those after it if there is one,
    and the exponent. -/
structure Numeral where
  negative : Bool
  whole : List Char
  fraction : List Char
  exponent : Option Exponent

namespace Numeral

/-- The point with the digits after it. -/
def point (n : Numeral) : List Char := if n.fraction.isEmpty then [] else '.' :: n.fraction

/-- What is written of the exponent. -/
def tail (n : Numeral) : List Char := (n.exponent.map Exponent.written).getD []

/-- The number without its sign. -/
def unsigned (n : Numeral) : List Char := n.whole ++ (n.point ++ n.tail)

/-- The sign. -/
def sign (n : Numeral) : List Char := if n.negative then ['-'] else []

/-- What is written. -/
def written (n : Numeral) : List Char := n.sign ++ n.unsigned

/-- Neither fraction nor exponent. -/
def isInteger (n : Numeral) : Bool := n.fraction.isEmpty && n.exponent.isNone

/-- The value without its sign of a number that is an integer. -/
def magnitude (n : Numeral) : Nat := (Decimal.naturalOf 10 0 n.whole).getD 0

/-- The value. -/
def value (n : Numeral) : Value :=
  if n.isInteger then .int (if n.negative then -n.magnitude else n.magnitude)
  else .float ((Decimal.readNumber? n.written).getD Binary64.nan)

/-- Whether JSON allows a number; an integer may not be too long. -/
def isSound (n : Numeral) : Bool :=
  !n.whole.isEmpty && wholeDigits n.whole == n.whole && n.fraction.all Char.isDigit &&
    n.exponent.all Exponent.isSound && !(n.isInteger && digitLimit < n.whole.length)

end Numeral

/-! ### Values -/

/-- A name with the blanks before it and those before its colon. -/
structure Name where
  before : List Char
  pieces : List Piece
  after : List Char

/-- What is written of a name. -/
def Name.written (n : Name) : List Char :=
  n.before ++ '"' :: (Piece.writtenAll n.pieces ++ '"' :: n.after)

/-- The text of some pieces. -/
def textOf (pieces : List Piece) : Value := Value.ofChars (pieces.map Piece.meaning)

mutual

/-- A value as it is written. -/
inductive Form where
  | word (i : Fin words.length)
  | number (n : Numeral)
  | text (pieces : List Piece)
  | emptyArray (blanks : List Char)
  | array (items : Items)
  | emptyObject (blanks : List Char)
  | object (members : Members)

/-- The items of an array, with the blanks around each. -/
inductive Items where
  | last (before : List Char) (f : Form) (after : List Char)
  | cons (before : List Char) (f : Form) (after : List Char) (rest : Items)

/-- The entries of an object, with the blanks around each value. -/
inductive Members where
  | last (name : Name) (before : List Char) (f : Form) (after : List Char)
  | cons (name : Name) (before : List Char) (f : Form) (after : List Char) (rest : Members)

end

mutual

/-- What is written of a value. -/
def Form.written : Form → List Char
  | .word i => (words.get i).1
  | .number n => n.written
  | .text pieces => '"' :: (Piece.writtenAll pieces ++ ['"'])
  | .emptyArray blanks => '[' :: (blanks ++ [']'])
  | .array items => '[' :: (items.written ++ [']'])
  | .emptyObject blanks => '\x7b' :: (blanks ++ ['\x7d'])
  | .object members => '\x7b' :: (members.written ++ ['\x7d'])
termination_by structural f => f

/-- What is written of items. -/
def Items.written : Items → List Char
  | .last before f after => before ++ (f.written ++ after)
  | .cons before f after rest => before ++ (f.written ++ (after ++ ',' :: rest.written))
termination_by structural items => items

/-- What is written of entries. -/
def Members.written : Members → List Char
  | .last name before f after => name.written ++ ':' :: (before ++ (f.written ++ after))
  | .cons name before f after rest =>
    name.written ++ ':' :: (before ++ (f.written ++ (after ++ ',' :: rest.written)))
termination_by structural members => members

end

/-! What stands after a value stands after its last character. -/

section

variable (rest : List Char)

theorem Form.written_text_append (pieces : List Piece) :
    (Form.text pieces).written ++ rest = '"' :: (Piece.writtenAll pieces ++ '"' :: rest) := by
  simp [Form.written]

theorem Form.written_emptyArray_append (blanks : List Char) :
    (Form.emptyArray blanks).written ++ rest = '[' :: (blanks ++ ']' :: rest) := by
  simp [Form.written]

theorem Form.written_array_append (items : Items) :
    (Form.array items).written ++ rest = '[' :: (items.written ++ ']' :: rest) := by
  simp [Form.written]

theorem Form.written_emptyObject_append (blanks : List Char) :
    (Form.emptyObject blanks).written ++ rest = '\x7b' :: (blanks ++ '\x7d' :: rest) := by
  simp [Form.written]

theorem Form.written_object_append (members : Members) :
    (Form.object members).written ++ rest = '\x7b' :: (members.written ++ '\x7d' :: rest) := by
  simp [Form.written]

theorem Members.written_last_append (name : Name) (before : List Char) (f : Form)
    (after : List Char) :
    (Members.last name before f after).written ++ rest =
      name.before ++ '"' :: (Piece.writtenAll name.pieces ++
        '"' :: (name.after ++ ':' :: (before ++ (f.written ++ (after ++ rest))))) := by
  simp [Members.written, Name.written]

theorem Members.written_cons_append (name : Name) (before : List Char) (f : Form)
    (after : List Char) (more : Members) :
    (Members.cons name before f after more).written ++ rest =
      name.before ++ '"' :: (Piece.writtenAll name.pieces ++
        '"' :: (name.after ++ ':' :: (before ++ (f.written ++
          (after ++ ',' :: (more.written ++ rest)))))) := by
  simp [Members.written, Name.written]

end

mutual

/-- The value that is written. -/
def Form.value : Form → Value
  | .word i => (words.get i).2
  | .number n => n.value
  | .text pieces => textOf pieces
  | .emptyArray _ => .list []
  | .array items => .list items.values
  | .emptyObject _ => .map []
  | .object members => .map (Entries.ofPairs members.pairs)
termination_by structural f => f

/-- The values of items. -/
def Items.values : Items → List Value
  | .last _ f _ => [f.value]
  | .cons _ f _ rest => f.value :: rest.values
termination_by structural items => items

/-- The names and values of entries. -/
def Members.pairs : Members → List (Value × Value)
  | .last name _ f _ => [(textOf name.pieces, f.value)]
  | .cons name _ f _ rest => (textOf name.pieces, f.value) :: rest.pairs
termination_by structural members => members

end

/-- What is worth a dictionary is an object. -/
theorem Form.cases_of_value_eq_map {f : Form} {entries : Entries} (h : f.value = .map entries) :
    (∃ blanks, f = .emptyObject blanks) ∨ ∃ members, f = .object members := by
  cases f with
  | word i =>
    have hall : ∀ w ∈ words, w.2 ≠ .map entries := by
      simp only [words, List.forall_mem_cons]
      exact ⟨nofun, nofun, nofun, nofun, nofun, nofun, nofun⟩
    exact absurd h (hall _ (words.get_mem i))
  | number n =>
    rw [Form.value, Numeral.value] at h
    split at h <;> cases h
  | text pieces => cases h
  | emptyArray blanks => cases h
  | array items => cases h
  | emptyObject blanks => exact .inl ⟨blanks, rfl⟩
  | object members => exact .inr ⟨members, rfl⟩

/-! ### Rules -/

/-- What is allowed where a value is written. -/
structure Rules where
  /-- Blanks between tokens, except between a name and its colon. -/
  blank : Char → Bool
  /-- Names, with the blanks before the colon. -/
  name : List Piece → List Char → Bool
  word : Fin words.length → Bool
  number : Numeral → Bool
  text : List Piece → Bool

/-- The rules of JSON. -/
def Rules.sound : Rules where
  blank := isBlank
  name := fun pieces after => Piece.areSound pieces && after.all isBlank
  word := fun _ => true
  number := Numeral.isSound
  text := Piece.areSound

/-- Whether a name keeps the rules. -/
def Name.keeps (r : Rules) (n : Name) : Bool := n.before.all r.blank && r.name n.pieces n.after

mutual

/-- Whether a form keeps the rules. -/
def Form.keeps (r : Rules) : Form → Bool
  | .word i => r.word i
  | .number n => r.number n
  | .text pieces => r.text pieces
  | .emptyArray blanks | .emptyObject blanks => blanks.all r.blank
  | .array items => items.keeps r
  | .object members => members.keeps r
termination_by structural f => f

/-- Whether items do. -/
def Items.keeps (r : Rules) : Items → Bool
  | .last before f after => before.all r.blank && f.keeps r && after.all r.blank
  | .cons before f after rest =>
    before.all r.blank && f.keeps r && after.all r.blank && rest.keeps r
termination_by structural items => items

/-- Whether entries do. -/
def Members.keeps (r : Rules) : Members → Bool
  | .last name before f after =>
    name.keeps r && before.all r.blank && f.keeps r && after.all r.blank
  | .cons name before f after rest =>
    name.keeps r && before.all r.blank && f.keeps r && after.all r.blank && rest.keeps r
termination_by structural members => members

end

/-! ### Stricter rules -/

/-- Rules that allow no more than others. -/
structure Rules.Within (r s : Rules) : Prop where
  blank : ∀ c, r.blank c = true → s.blank c = true
  name : ∀ pieces after, r.name pieces after = true → s.name pieces after = true
  word : ∀ i, r.word i = true → s.word i = true
  number : ∀ n, r.number n = true → s.number n = true
  text : ∀ pieces, r.text pieces = true → s.text pieces = true

section

variable {r s : Rules} (hrs : r.Within s)

include hrs

/-- Blanks that keep the stricter rules keep the others. -/
theorem Rules.Within.blanks {blanks : List Char} (h : blanks.all r.blank = true) :
    blanks.all s.blank = true := by
  rw [List.all_eq_true] at h ⊢
  exact fun c hc => hrs.blank c (h c hc)

/-- So do names. -/
theorem Rules.Within.keeps_name {name : Name} (h : name.keeps r = true) :
    name.keeps s = true := by
  rw [Name.keeps, Bool.and_eq_true] at h ⊢
  exact ⟨hrs.blanks h.1, hrs.name _ _ h.2⟩

mutual

/-- A form that keeps the stricter rules keeps the others. -/
theorem Rules.Within.keeps_form : (f : Form) → f.keeps r = true → f.keeps s = true
  | .word i, h => hrs.word i h
  | .number n, h => hrs.number n h
  | .text pieces, h => hrs.text pieces h
  | .emptyArray _, h | .emptyObject _, h => hrs.blanks h
  | .array items, h => Rules.Within.keeps_items items h
  | .object members, h => Rules.Within.keeps_members members h

/-- So do items. -/
theorem Rules.Within.keeps_items : (items : Items) → items.keeps r = true → items.keeps s = true
  | .last before f after, h => by
    simp only [Items.keeps, Bool.and_eq_true] at h ⊢
    exact ⟨⟨hrs.blanks h.1.1, Rules.Within.keeps_form f h.1.2⟩, hrs.blanks h.2⟩
  | .cons before f after rest, h => by
    simp only [Items.keeps, Bool.and_eq_true] at h ⊢
    exact ⟨⟨⟨hrs.blanks h.1.1.1, Rules.Within.keeps_form f h.1.1.2⟩, hrs.blanks h.1.2⟩,
      Rules.Within.keeps_items rest h.2⟩

/-- So do entries. -/
theorem Rules.Within.keeps_members : (members : Members) → members.keeps r = true →
    members.keeps s = true
  | .last name before f after, h => by
    simp only [Members.keeps, Bool.and_eq_true] at h ⊢
    exact ⟨⟨⟨hrs.keeps_name h.1.1.1, hrs.blanks h.1.1.2⟩, Rules.Within.keeps_form f h.1.2⟩,
      hrs.blanks h.2⟩
  | .cons name before f after rest, h => by
    simp only [Members.keeps, Bool.and_eq_true] at h ⊢
    exact ⟨⟨⟨⟨hrs.keeps_name h.1.1.1.1, hrs.blanks h.1.1.1.2⟩, Rules.Within.keeps_form f h.1.1.2⟩,
      hrs.blanks h.1.2⟩, Rules.Within.keeps_members rest h.2⟩

end

end

end Phrasebook.Json
