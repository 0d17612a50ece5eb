import Phrasebook.Yaml.Lexer

namespace Phrasebook.Yaml

/-!
# Places in a text

What is ahead of a place that is reached by going on, and how far blanks and line ends are passed
over.

* `Cursor.Reaches` — a place further on;
* `Cursor.ahead_skip`, `Cursor.dropWhile_of_pos` — what is ahead;
* `Lexer.exists_skipBlanks` — spaces and line feeds before a token.
-/

namespace Cursor

/-! ### Going on -/

/-- What is ahead after the next character. -/
theorem ahead_step {p : Cursor} {c : Char} {rest : List Char} (h : p.ahead = c :: rest) :
    p.step.ahead = rest := by
  unfold step
  rw [h]
  dsimp only
  split <;> rfl

/-- What is ahead after the next characters. -/
theorem ahead_skip {p : Cursor} {text rest : List Char} (h : p.ahead = text ++ rest) :
    (p.skip text.length).ahead = rest := by
  induction text generalizing p with
  | nil => exact h
  | cons c text ih => exact ih (ahead_step h)

/-- Going on step by step. -/
theorem skip_add (m n : Nat) (p : Cursor) : p.skip (m + n) = (p.skip m).skip n := by
  induction m generalizing p with
  | zero => rw [Nat.zero_add]; rfl
  | succ m ih =>
    rw [Nat.succ_add]
    exact ih p.step

/-- The number of characters behind. -/
theorem index_skip {p : Cursor} {text rest : List Char} (h : p.ahead = text ++ rest) :
    (p.skip text.length).index = p.index + text.length := by
  induction text generalizing p with
  | nil => rfl
  | cons c text ih =>
    have hstep : p.step.index = p.index + 1 := by
      unfold step
      rw [h, List.cons_append]
      dsimp only
      split <;> rfl
    rw [List.length_cons, skip, ih (ahead_step h), hstep]
    omega

/-- The line stays the same up to its end. -/
theorem line_skip {p : Cursor} {text rest : List Char} (h : p.ahead = text ++ rest)
    (hline : text.all (!isBreak ·) = true) : (p.skip text.length).line = p.line := by
  induction text generalizing p with
  | nil => rfl
  | cons c text ih =>
    rw [List.all_cons, Bool.and_eq_true, Bool.not_eq_true'] at hline
    have hstep : p.step.line = p.line := by
      unfold step
      rw [h, List.cons_append]
      simp [hline.1]
    rw [List.length_cons, skip, ih (ahead_step h) hline.2, hstep]

/-- Going on never goes back to a line. -/
theorem line_le_skip (n : Nat) (p : Cursor) : p.line ≤ (p.skip n).line := by
  induction n generalizing p with
  | zero => exact Nat.le_refl _
  | succ n ih =>
    refine Nat.le_trans ?_ (ih p.step)
    unfold step
    split
    · exact Nat.le_refl _
    · split
      · exact Nat.le_succ _
      · exact Nat.le_refl _

/-- Nor to a character. -/
theorem index_le_skip (n : Nat) (p : Cursor) : p.index ≤ (p.skip n).index := by
  induction n generalizing p with
  | zero => exact Nat.le_refl _
  | succ n ih =>
    refine Nat.le_trans ?_ (ih p.step)
    unfold step
    split
    · exact Nat.le_refl _
    · split <;> exact Nat.le_succ _

/-! ### Places further on -/

/-- A place that is reached by going on. -/
def Reaches (p q : Cursor) : Prop := ∃ n, q = p.skip n

/-- Every place is reached from itself. -/
theorem Reaches.refl (p : Cursor) : Reaches p p := ⟨0, rfl⟩

/-- What is reached from there is reached. -/
theorem Reaches.trans {p q r : Cursor} (hpq : Reaches p q) (hqr : Reaches q r) : Reaches p r := by
  obtain ⟨m, rfl⟩ := hpq
  obtain ⟨n, rfl⟩ := hqr
  exact ⟨m + n, (skip_add m n p).symm⟩

theorem reaches_step (p : Cursor) : Reaches p p.step := ⟨1, rfl⟩

theorem reaches_dropWhile (p : Cursor) (f : Char → Bool) : Reaches p (p.dropWhile f) := ⟨_, rfl⟩

theorem reaches_dropComment (p : Cursor) : Reaches p p.dropComment := by
  unfold dropComment
  split
  · exact reaches_dropWhile p _
  · exact .refl p

/-! ### Runs of characters -/

/-- What is ahead after a run of characters. -/
theorem ahead_dropWhile (p : Cursor) (f : Char → Bool) :
    (p.dropWhile f).ahead = p.ahead.dropWhile f :=
  ahead_skip List.takeWhile_append_dropWhile.symm

/-- A character of the class is passed over. -/
theorem dropWhile_of_pos {p : Cursor} {c : Char} {rest : List Char} (h : p.ahead = c :: rest)
    {f : Char → Bool} (hc : f c = true) : p.dropWhile f = p.step.dropWhile f := by
  unfold dropWhile span
  rw [h, ahead_step h, List.takeWhile_cons_of_pos hc]
  rfl

/-- Any other is not. -/
theorem dropWhile_of_neg {p : Cursor} {f : Char → Bool} (h : (p.ahead.head?.any f) = false) :
    p.dropWhile f = p := by
  unfold dropWhile span
  cases hp : p.ahead with
  | nil => rfl
  | cons c rest =>
    rw [hp, List.head?_cons, Option.any_some] at h
    rw [List.takeWhile_cons_of_neg (by rw [h]; exact Bool.false_ne_true)]
    rfl

end Cursor

open Cursor

/-! ### Blanks between tokens -/

/-- A space or a line feed. -/
def isPlainBlank (c : Char) : Bool := c == ' ' || c == '\n'

theorem isPlainBlank_iff {c : Char} : isPlainBlank c = true ↔ c = ' ' ∨ c = '\n' := by
  simp [isPlainBlank]

theorem all_isPlainBlank_of_spaces {blanks : List Char} (h : blanks.all (· == ' ') = true) :
    blanks.all isPlainBlank = true := by
  rw [List.all_eq_true] at h ⊢
  exact fun b hb => isPlainBlank_iff.mpr (.inl (beq_iff_eq.mp (h b hb)))

/-- When the spaces are dropped, blanks are over or go on with a line feed. -/
theorem cases_dropWhile_space {blanks : List Char} (h : blanks.all isPlainBlank = true) :
    blanks.dropWhile (· == ' ') = [] ∨
      ∃ more, blanks.dropWhile (· == ' ') = '\n' :: more ∧ more.all isPlainBlank = true := by
  induction blanks with
  | nil => exact .inl rfl
  | cons b blanks ih =>
    rw [List.all_cons, Bool.and_eq_true] at h
    rcases isPlainBlank_iff.mp h.1 with rfl | rfl
    · exact ih h.2
    · exact .inr ⟨blanks, rfl, h.2⟩

/-- Whether a token starts here, or the text is over. -/
def startsToken : List Char → Bool
  | [] => true
  | c :: _ => !(c == ' ' || c == '#' || isBreak c)

namespace Lexer

/-- Blanks are passed over by going on. -/
theorem reaches_skipBlanks (fuel : Nat) (p : Cursor) (broken : Bool) :
    Reaches p (skipBlanks fuel p broken).1 := by
  induction fuel generalizing p broken with
  | zero => exact .refl p
  | succ fuel ih =>
    have hline := (reaches_dropWhile p (· == ' ')).trans (reaches_dropComment _)
    unfold skipBlanks
    dsimp only
    split
    · exact (hline.trans (reaches_step _)).trans (ih _ _)
    · exact hline

/-- At a token there is nothing to pass over. -/
theorem skipBlanks_of_startsToken {p : Cursor} (h : startsToken p.ahead = true) (fuel : Nat)
    (broken : Bool) : (skipBlanks (fuel + 1) p broken).1 = p := by
  obtain ⟨hspace, hhash, hbreak⟩ : (p.ahead.head?.any (· == ' ')) = false ∧
      (p.ahead.head? == some '#') = false ∧ (p.ahead.head?.any isBreak) = false := by
    cases hp : p.ahead with
    | nil => exact ⟨rfl, rfl, rfl⟩
    | cons c rest =>
      simp only [hp, startsToken, Bool.not_eq_true', Bool.or_eq_false_iff] at h
      exact ⟨h.1.1, by simpa using h.1.2, h.2⟩
  have hcomment : p.dropComment = p := by
    unfold dropComment head?
    rw [if_neg (by rw [hhash]; exact Bool.false_ne_true)]
  unfold skipBlanks
  rw [dropWhile_of_neg hspace, hcomment]
  dsimp only
  rw [show (p.head?.any isBreak) = false from hbreak]
  rfl

/-- Spaces and line feeds are passed over as far as the next token. -/
theorem ahead_skipBlanks {blanks : List Char} (h : blanks.all isPlainBlank = true) {p : Cursor}
    {rest : List Char} (hp : p.ahead = blanks ++ rest) (hrest : startsToken rest = true)
    {fuel : Nat} (hfuel : blanks.length < fuel) (broken : Bool) :
    (skipBlanks fuel p broken).1.ahead = rest := by
  induction blanks generalizing p fuel broken with
  | nil =>
    obtain ⟨fuel, rfl⟩ : ∃ n, fuel = n + 1 := ⟨fuel - 1, by omega⟩
    rw [List.nil_append] at hp
    rw [skipBlanks_of_startsToken (by rw [hp]; exact hrest)]
    exact hp
  | cons b blanks ih =>
    obtain ⟨fuel, rfl⟩ : ∃ n, fuel = n + 1 := ⟨fuel - 1, by omega⟩
    rw [List.all_cons, Bool.and_eq_true] at h
    rw [List.length_cons] at hfuel
    have hstep := ahead_step hp
    rcases isPlainBlank_iff.mp h.1 with rfl | rfl
    · -- A space is dropped along with those after it.
      have hsame : skipBlanks (fuel + 1) p broken = skipBlanks (fuel + 1) p.step broken := by
        unfold skipBlanks
        rw [dropWhile_of_pos hp rfl]
      rw [hsame]
      exact ih h.2 hstep (by omega) broken
    · have hline : p.dropWhile (· == ' ') = p := dropWhile_of_neg (by rw [hp]; rfl)
      have hcomment : p.dropComment = p := by
        unfold dropComment head?
        rw [hp]
        rfl
      have hbreak : (p.head?.any isBreak) = true := by
        unfold head?
        rw [hp]
        rfl
      unfold skipBlanks
      rw [hline, hcomment]
      dsimp only
      rw [hbreak, if_pos rfl]
      exact ih h.2 hstep (by omega) true

end Lexer

end Phrasebook.Yaml
