import Mathlib.Data.List.DropRight
import Phrasebook.Text.Blank

namespace Phrasebook.Text

/-!
# What normalising and trimming keep

Which characters a text still has after it has been split into words, normalised or trimmed:

* `flatten_words` — the words of a text are its characters that are not blank, in order;
* `mem_normalise` — so are those of the normalised text, apart from the spaces;
* `trimBy_eq_nil_iff`, `trimEndBy_eq_nil_iff` — trimming leaves nothing exactly where every
  character may be dropped;
* `head_trimBy`, `getLast?_trimEndBy` — what is left starts, or ends, with a character that may not.
-/

/-- The space is a blank. -/
theorem ne_space_of_not_blank {c : Char} (h : isBlank c = false) : c ≠ ' ' := by
  rintro rfl
  exact absurd h (by decide)

/-! ### Words -/

/-- The words of a text are its characters that are not blank, in order. -/
theorem flatten_words (text : List Char) :
    (words text).flatten = text.filter fun c => !isBlank c := by
  fun_induction words text with
  | case1 => rfl
  | case2 c rest hc ih => simp [hc, ih]
  | case3 c hc => simp [hc]
  | case4 c hc d rest hd ih =>
    rw [List.flatten_cons, ih]
    simp [hc]
  | case5 c hc d rest hd hwords ih =>
    -- The text goes on with a character that is not blank, so it has another word.
    rw [hwords] at ih
    simp [hd] at ih
  | case6 c hc d rest hd word others hwords ih =>
    rw [hwords] at ih
    simp only [hwords]
    rw [List.filter_cons_of_pos (by simp [hc]), ← ih]
    rfl

/-- Words joined by spaces have the characters of the words, and spaces. -/
theorem mem_intercalate_space {c : Char} {ws : List (List Char)} (hc : c ≠ ' ') :
    c ∈ [' '].intercalate ws ↔ c ∈ ws.flatten := by
  induction ws with
  | nil => simp
  | cons w rest ih =>
    cases rest with
    | nil => simp
    | cons w' rest => simp [List.intercalate_cons_cons, ih, hc]

/-- Normalising keeps the characters that are not blank, and adds none but spaces. -/
theorem mem_normalise {c : Char} {text : List Char} (hc : c ≠ ' ') :
    c ∈ normalise text ↔ c ∈ text ∧ isBlank c = false := by
  unfold normalise
  rw [mem_intercalate_space hc, flatten_words, List.mem_filter]
  simp

/-! ### Trimming -/

/-- Trimming at the end leaves nothing exactly where every character may be dropped. -/
theorem trimEndBy_eq_nil_iff {drop : Char → Bool} {text : List Char} :
    trimEndBy drop text = [] ↔ ∀ c ∈ text, drop c = true :=
  List.rdropWhile_eq_nil_iff

/-- So does trimming at both ends. -/
theorem trimBy_eq_nil_iff {drop : Char → Bool} {text : List Char} :
    trimBy drop text = [] ↔ ∀ c ∈ text, drop c = true := by
  show trimEndBy drop (text.dropWhile drop) = [] ↔ _
  rw [trimEndBy_eq_nil_iff]
  constructor
  · intro h
    have hall : (text.dropWhile drop).dropWhile drop = [] := List.dropWhile_eq_nil_iff.mpr h
    rw [List.dropWhile_idempotent] at hall
    exact List.dropWhile_eq_nil_iff.mp hall
  · intro h c hc
    exact h c (List.dropWhile_subset drop hc)

/-- A trimmed text starts with a character that may not be dropped. -/
theorem head_trimBy {drop : Char → Bool} {text rest : List Char} {c : Char}
    (h : trimBy drop text = c :: rest) : drop c = false := by
  obtain ⟨dropped, hprefix⟩ : trimBy drop text <+: text.dropWhile drop := List.rdropWhile_prefix drop _
  rw [h, List.cons_append] at hprefix
  have hhead := List.head?_dropWhile_not drop text
  rw [← hprefix] at hhead
  simpa using hhead

/-- A text trimmed at its end ends with a character that may not be dropped. -/
theorem getLast?_trimEndBy {drop : Char → Bool} {text : List Char} {c : Char}
    (h : (trimEndBy drop text).getLast? = some c) : drop c = false := by
  unfold trimEndBy at h
  rw [List.getLast?_reverse] at h
  have hhead := List.head?_dropWhile_not drop text.reverse
  rw [h] at hhead
  simpa using hhead

end Phrasebook.Text
