import Mathlib.Data.List.Chain
import Phrasebook.Proofs.Text.Blank

namespace Phrasebook.Text

/-!
# Words and their layout

The words of a text are its maximal runs of characters that are not blank, and normalising lays them
out again with a single space between neighbours:

* `Runs` — a text cut into such runs and the blanks around them; `runs_iff` — there is one way to
  cut it, and the runs are the words;
* `Normal` — a text without blanks at its ends, whose blanks are single spaces;
* `runs_intercalate`, `normal_intercalate` — words joined by spaces are the runs of a normal text;
* `words_normalise`, `normal_normalise`, `normalise_normalise` — so a normalised text is normal, has
  the words it had, and is left as it is when it is normalised again;
* `normalise_of_not_blank`, `normalise_eq_nil_iff` — one word is left as it is, and nothing is left
  of blanks alone.
-/

/-! ### Runs -/

/-- A text cut into runs of characters that are not blank: there may be blanks before a run, and it
    ends where the text does or where a blank follows. -/
inductive Runs : List Char → List (List Char) → Prop
  | blanks {gap : List Char} (hgap : ∀ c ∈ gap, isBlank c = true) : Runs gap []
  | run {gap word rest : List Char} {runs : List (List Char)}
      (hgap : ∀ c ∈ gap, isBlank c = true) (hne : word ≠ []) (hword : ∀ c ∈ word, isBlank c = false)
      (hend : ∀ c, rest.head? = some c → isBlank c = true) (hrest : Runs rest runs) :
      Runs (gap ++ (word ++ rest)) (word :: runs)

namespace Runs

/-- Runs are not empty, and no character in them is blank. -/
theorem of_mem {text : List Char} {runs : List (List Char)} (h : Runs text runs) :
    ∀ word ∈ runs, word ≠ [] ∧ ∀ c ∈ word, isBlank c = false := by
  induction h with
  | blanks _ => simp
  | run _ hne hword _ _ ih => exact List.forall_mem_cons.mpr ⟨⟨hne, hword⟩, ih⟩

/-- Without runs there are blanks alone. -/
theorem blank_of_nil {text : List Char} (h : Runs text []) : ∀ c ∈ text, isBlank c = true := by
  cases h with
  | blanks hgap => exact hgap

/-- A blank in front changes nothing about the runs. -/
theorem cons_blank {c : Char} {text : List Char} {runs : List (List Char)} (hc : isBlank c = true)
    (h : Runs text runs) : Runs (c :: text) runs := by
  cases h with
  | blanks hgap => exact .blanks (List.forall_mem_cons.mpr ⟨hc, hgap⟩)
  | run hgap hne hword hend hrest =>
    exact .run (List.forall_mem_cons.mpr ⟨hc, hgap⟩) hne hword hend hrest

/-- A run that the text begins with is the first one. -/
theorem first {word text : List Char} {runs : List (List Char)} (hne : word ≠ [])
    (hword : ∀ c ∈ word, isBlank c = false) (hend : ∀ c, text.head? = some c → isBlank c = true)
    (h : Runs text runs) : Runs (word ++ text) (word :: runs) := by
  have hrun : Runs ([] ++ (word ++ text)) (word :: runs) := .run (by simp) hne hword hend h
  exact hrun

/-- A character that is not blank, in front of a run, is part of that run. -/
theorem cons_word {c d : Char} {text word : List Char} {runs : List (List Char)}
    (hc : isBlank c = false) (hd : isBlank d = false) (h : Runs (d :: text) (word :: runs)) :
    Runs (c :: d :: text) ((c :: word) :: runs) := by
  generalize hlist : d :: text = list at h
  cases h with
  | @run gap _ rest _ hgap hne hword hend hrest =>
    cases gap with
    | nil =>
      exact .first (List.cons_ne_nil _ _) (List.forall_mem_cons.mpr ⟨hc, hword⟩) hend hrest
    | cons b gap =>
      -- The run starts at once, as the text does not begin with a blank.
      obtain ⟨rfl, _⟩ := List.cons.inj hlist
      have hb := hgap d List.mem_cons_self
      rw [hd] at hb
      cases hb

end Runs

/-- A text with a blank in front has the words that it has without it. -/
theorem words_cons_of_blank {c : Char} (hc : isBlank c = true) (rest : List Char) :
    words (c :: rest) = words rest := by
  cases rest <;> simp [words, hc]

/-- Blanks in front of a text change nothing about its words. -/
theorem words_append_of_blank {gap : List Char} (hgap : ∀ c ∈ gap, isBlank c = true)
    (rest : List Char) : words (gap ++ rest) = words rest := by
  induction gap with
  | nil => rfl
  | cons c gap ih =>
    obtain ⟨hc, hgap⟩ := List.forall_mem_cons.mp hgap
    rw [List.cons_append, words_cons_of_blank hc, ih hgap]

/-- A run in front of a text is its first word if it ends there. -/
theorem words_append_of_not_blank {word rest : List Char} (hne : word ≠ [])
    (hword : ∀ c ∈ word, isBlank c = false) (hend : ∀ c, rest.head? = some c → isBlank c = true) :
    words (word ++ rest) = word :: words rest := by
  induction word with
  | nil => exact absurd rfl hne
  | cons c more ih =>
    obtain ⟨hc, hmore⟩ := List.forall_mem_cons.mp hword
    cases more with
    | nil =>
      cases rest with
      | nil => simp [words, hc]
      | cons d rest =>
        have hd : isBlank d = true := hend d rfl
        rw [List.singleton_append, words]
        simp [hc, hd]
    | cons d more =>
      have hd : isBlank d = false := hmore d List.mem_cons_self
      have hrest := ih (List.cons_ne_nil d more) hmore
      rw [List.cons_append] at hrest
      rw [List.cons_append, List.cons_append, words]
      simp [hc, hd, hrest]

/-- The words of a text are runs of it. -/
theorem runs_words (text : List Char) : Runs text (words text) := by
  fun_induction words text with
  | case1 => exact .blanks (by simp)
  | case2 c rest hc ih => exact ih.cons_blank hc
  | case3 c hc =>
    -- The text ends with a run of one character, which here is all there is of it.
    have hrun : Runs ([c] ++ []) [[c]] :=
      .first (by simp) (by simpa using hc) (by simp) (.blanks (by simp))
    exact hrun
  | case4 c hc d rest hd ih =>
    -- A blank follows, so the run of one character ends and the next one is still to come.
    have hrun : Runs ([c] ++ d :: rest) ([c] :: words (d :: rest)) :=
      .first (by simp) (by simpa using hc) (by simpa using hd) ih
    exact hrun
  | case5 c hc d rest hd hwords ih =>
    -- The text goes on with a character that is not blank, so it has another word.
    rw [hwords] at ih
    exact absurd (ih.blank_of_nil d List.mem_cons_self) hd
  | case6 c hc d rest hd word others hwords ih =>
    rw [hwords] at ih
    simp only [hwords]
    exact ih.cons_word (by simpa using hc) (by simpa using hd)

/-- And there are no other runs: the words are where the blanks are not. -/
theorem runs_iff {text : List Char} {runs : List (List Char)} :
    Runs text runs ↔ words text = runs := by
  constructor
  · intro h
    induction h with
    | blanks hgap => simpa [words] using words_append_of_blank hgap []
    | run hgap hne hword hend _ ih =>
      rw [words_append_of_blank hgap, words_append_of_not_blank hne hword hend, ih]
  · rintro rfl
    exact runs_words text

/-! ### Words joined by spaces -/

/-- A text in normal layout: no blank at either end, no blanks but spaces, and of two neighbours one
    is not blank. -/
structure Normal (text : List Char) : Prop where
  head : ∀ c, text.head? = some c → isBlank c = false
  last : ∀ c, text.getLast? = some c → isBlank c = false
  spaces : ∀ c ∈ text, isBlank c = true → c = ' '
  apart : text.IsChain fun c d => isBlank c = false ∨ isBlank d = false

/-- A text without blanks is normal. -/
theorem normal_of_not_blank {word : List Char} (hword : ∀ c ∈ word, isBlank c = false) :
    Normal word where
  head c hc := hword c (List.mem_of_mem_head? hc)
  last c hc := hword c (List.mem_of_getLast? hc)
  spaces c hc hblank := by
    rw [hword c hc] at hblank
    cases hblank
  apart := (List.pairwise_of_forall_mem_list fun c hc _ _ => .inl (hword c hc)).isChain

/-- So is one with a word, a space, and something normal after it. -/
theorem Normal.append_space {word text : List Char} (hne : word ≠ [])
    (hword : ∀ c ∈ word, isBlank c = false) (htext : text ≠ []) (h : Normal text) :
    Normal (word ++ ' ' :: text) where
  head c hc := by
    rw [List.head?_append_of_ne_nil _ hne] at hc
    exact hword c (List.mem_of_mem_head? hc)
  last c hc := by
    rw [List.getLast?_append_of_ne_nil _ (List.cons_ne_nil _ _),
      List.getLast?_cons_of_ne_nil htext] at hc
    exact h.last c hc
  spaces c hc hblank := by
    rcases List.mem_append.mp hc with hc | hc
    · rw [hword c hc] at hblank
      cases hblank
    · rcases List.mem_cons.mp hc with rfl | hc
      · rfl
      · exact h.spaces c hc hblank
  apart := by
    -- Of two neighbours across the join one is a letter of the word or the first of the text.
    refine List.isChain_append.mpr ⟨(normal_of_not_blank hword).apart, ?_, fun c hc d _ => ?_⟩
    · exact List.isChain_cons.mpr ⟨fun d hd => .inr (h.head d hd), h.apart⟩
    · exact .inl (hword c (List.mem_of_getLast? hc))

section Joined

variable {ws : List (List Char)} (hws : ∀ word ∈ ws, word ≠ [] ∧ ∀ c ∈ word, isBlank c = false)

include hws

/-- Words joined by spaces are the runs of the text that they make up. -/
theorem runs_intercalate : Runs ([' '].intercalate ws) ws := by
  induction ws with
  | nil => exact .blanks (by simp)
  | cons word others ih =>
    obtain ⟨⟨hne, hword⟩, hothers⟩ := List.forall_mem_cons.mp hws
    cases others with
    | nil =>
      have hrun : Runs (word ++ []) [word] := .first hne hword (by simp) (.blanks (by simp))
      simpa using hrun
    | cons next others =>
      -- The space ends the first run, and is a blank before the next.
      have hspace : Runs (' ' :: [' '].intercalate (next :: others)) (next :: others) :=
        (ih hothers).cons_blank (by decide)
      have hend : ∀ c, (' ' :: [' '].intercalate (next :: others)).head? = some c →
          isBlank c = true := by
        rintro _ ⟨⟩
        decide
      have hrun := Runs.first hne hword hend hspace
      simpa [List.intercalate_cons_cons] using hrun

/-- That text is normal. -/
theorem normal_intercalate : Normal ([' '].intercalate ws) := by
  induction ws with
  | nil => exact normal_of_not_blank (by simp)
  | cons word others ih =>
    obtain ⟨⟨hne, hword⟩, hothers⟩ := List.forall_mem_cons.mp hws
    cases others with
    | nil => simpa using normal_of_not_blank hword
    | cons next others =>
      have hnext : [' '].intercalate (next :: others) ≠ [] := by
        intro h
        have hruns := runs_iff.mp (runs_intercalate hothers)
        rw [h] at hruns
        cases hruns
      simpa [List.intercalate_cons_cons] using (ih hothers).append_space hne hword hnext

end Joined

/-! ### Normalised texts -/

/-- Normalising keeps the words. -/
theorem words_normalise (text : List Char) : words (normalise text) = words text :=
  runs_iff.mp (runs_intercalate (runs_words text).of_mem)

/-- What has been normalised is normal. -/
theorem normal_normalise (text : List Char) : Normal (normalise text) :=
  normal_intercalate (runs_words text).of_mem

/-- So normalising again changes nothing. -/
theorem normalise_normalise (text : List Char) : normalise (normalise text) = normalise text := by
  rw [normalise, words_normalise]
  rfl

/-- Nor does it change a text without blanks. -/
theorem normalise_of_not_blank {text : List Char} (htext : ∀ c ∈ text, isBlank c = false) :
    normalise text = text := by
  cases text with
  | nil => rfl
  | cons c rest =>
    have hwords : words (c :: rest ++ []) = [c :: rest] :=
      words_append_of_not_blank (List.cons_ne_nil c rest) htext (by simp)
    rw [List.append_nil] at hwords
    rw [normalise, hwords]
    exact List.intercalate_singleton

/-- Nothing is left exactly of blanks alone. -/
theorem normalise_eq_nil_iff {text : List Char} :
    normalise text = [] ↔ ∀ c ∈ text, isBlank c = true := by
  constructor
  · intro h c hc
    by_contra hblank
    rw [Bool.not_eq_true] at hblank
    have hmem := (mem_normalise (ne_space_of_not_blank hblank)).mpr ⟨hc, hblank⟩
    rw [h] at hmem
    cases hmem
  · intro h
    rw [normalise, runs_iff.mp (.blanks h)]
    rfl

end Phrasebook.Text
