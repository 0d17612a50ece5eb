import Phrasebook.Proofs.Key.Hash
import Phrasebook.Proofs.Text.Ascii

namespace Phrasebook.Key

open Text

/-!
# What a limit leaves of a slug

An underscored key is the longest start of a slug that a limit has room for and that does not end in
an underscore:

* `isSafe_of_mem_slug`, `head?_slug_ne`, `getLast?_slug_ne` — slugs are clean: small ASCII letters,
  digits and underscores, none of the latter at either end;
* `CleanStart` — the starts that might be left, and `CleanStart.prefix_cutSlug` — each of them is a
  start of what is left;
* `underscored_longest_start` — so the key is the longest of them, grows with the limit, and is empty
  only without room or without anything that stands for itself.
-/

/-! ### Clean slugs -/

/-- Trimming adds no characters. -/
theorem mem_of_mem_trimBy {drop : Char → Bool} {text : List Char} {c : Char}
    (h : c ∈ trimBy drop text) : c ∈ text := by
  have hstart : trimBy drop text <+: text.dropWhile drop := List.rdropWhile_prefix drop _
  exact List.dropWhile_subset drop (hstart.subset h)

/-- A slug has safe characters alone. -/
theorem isSafe_of_mem_slug {text : List Char} {c : Char} (h : c ∈ slug text) :
    isSafe c = true := by
  by_cases hc : c = '_'
  · rw [hc]
    decide
  · exact ((mem_replaceUnsafe_iff hc).mp (mem_of_mem_trimBy h)).2

/-- It does not begin with an underscore. -/
theorem head?_slug_ne (text : List Char) : (slug text).head? ≠ some '_' :=
  head?_ne_of_prefix_slug (List.prefix_refl _)

/-- It does not end in one. -/
theorem getLast?_slug_ne (text : List Char) : (slug text).getLast? ≠ some '_' := by
  intro h
  have hdropped := @getLast?_trimEndBy (· == '_')
    ((replaceUnsafe (lower text)).dropWhile (· == '_')) '_' h
  exact absurd hdropped (by decide)

/-- The safe characters are the small ASCII letters, the digits and the underscore. -/
theorem isSafe_iff_range {c : Char} :
    isSafe c = true ↔ ('a' ≤ c ∧ c ≤ 'z') ∨ ('0' ≤ c ∧ c ≤ '9') ∨ c = '_' := by
  simp [isSafe, isLower_iff, Char.isDigit, Char.le_def, or_assoc]

/-! ### Starts of a slug -/

/-- The starts of a slug that a limit has room for and that do not end in an underscore. -/
structure CleanStart (slug : List Char) (limit : Int) (start : List Char) : Prop where
  isStart : start <+: slug
  length_le : start.length ≤ limit.toNat
  clean : start.getLast? ≠ some '_'

/-- What a limit leaves of a slug is one of them. -/
theorem cleanStart_cutSlug (slug : List Char) (limit : Int) :
    CleanStart slug limit (cutSlug slug limit) where
  isStart := cutSlug_prefix slug limit
  length_le := length_cutSlug_le slug limit
  clean := getLast?_cutSlug_ne slug limit

/-- A start that does not end in a character that may be dropped is left when they are dropped. -/
theorem prefix_trimEndBy {drop : Char → Bool} {start text : List Char} (h : start <+: text)
    (hlast : ∀ c, start.getLast? = some c → drop c = false) : start <+: trimEndBy drop text := by
  show start <+: text.rdropWhile drop
  induction text using List.reverseRecOn with
  | nil => simpa using h
  | append_singleton rest c ih =>
    rcases List.prefix_concat_iff.mp h with rfl | hrest
    · -- The start is the whole text, and its last character stays.
      have hkept : drop c = false := hlast c (by simp)
      rewrite [List.rdropWhile_concat_neg _ _ _ (by simp [hkept])]
      exact h
    · by_cases hc : drop c = true
      · rw [List.rdropWhile_concat_pos _ _ _ hc]
        exact ih hrest
      · rw [List.rdropWhile_concat_neg _ _ _ hc]
        exact h

/-- And each of them is a start of what is left. -/
theorem CleanStart.prefix_cutSlug {slug start : List Char} {limit : Int}
    (h : CleanStart slug limit start) : start <+: cutSlug slug limit := by
  by_cases hlimit : 0 < limit
  · unfold cutSlug
    rw [if_pos hlimit]
    refine prefix_trimEndBy (List.prefix_take_iff.mpr ⟨h.isStart, h.length_le⟩) fun c hc => ?_
    simpa using fun heq : c = '_' => h.clean (heq ▸ hc)
  · -- There is no room for a character.
    have hnone : start.length ≤ 0 := h.length_le.trans (by omega)
    rw [List.eq_nil_of_length_eq_zero (Nat.le_zero.mp hnone)]
    exact List.nil_prefix

/-- More room leaves all the starts that less room leaves. -/
theorem CleanStart.mono {slug start : List Char} {limit more : Int} (hle : limit ≤ more)
    (h : CleanStart slug limit start) : CleanStart slug more start :=
  ⟨h.isStart, h.length_le.trans (Int.toNat_le_toNat hle), h.clean⟩

/-! ### Underscored keys -/

/-- **An underscored key is the longest clean start of a slug.**  A slug has nothing but small ASCII
    letters, digits and underscores, and no underscore at either end.  Whatever the limit, the
    underscored key is a start of the slug that keeps the limit and does not end in an underscore, and
    every other such start is a start of it; it is empty where there is no room.  So a greater limit
    leaves a key that goes on where the key of a smaller one ends; and a limit that has room leaves
    nothing exactly where the text in lower case has no small ASCII letter and no digit. -/
theorem underscored_longest_start (text : List Char) :
    (∀ c ∈ slug text, ('a' ≤ c ∧ c ≤ 'z') ∨ ('0' ≤ c ∧ c ≤ '9') ∨ c = '_') ∧
    (slug text).head? ≠ some '_' ∧ (slug text).getLast? ≠ some '_' ∧
    (∀ limit, CleanStart (slug text) limit (underscored text limit) ∧
      ∀ start, CleanStart (slug text) limit start → start <+: underscored text limit) ∧
    (∀ limit ≤ 0, underscored text limit = []) ∧
    (∀ m n : Int, m ≤ n → underscored text m <+: underscored text n) ∧
    ∀ limit > 0, underscored text limit = [] ↔
      ∀ c ∈ lower text, ¬ (('a' ≤ c ∧ c ≤ 'z') ∨ ('0' ≤ c ∧ c ≤ '9')) := by
  refine ⟨fun c hc => isSafe_iff_range.mp (isSafe_of_mem_slug hc), head?_slug_ne text,
    getLast?_slug_ne text, fun limit => ⟨cleanStart_cutSlug _ limit, fun _ h => h.prefix_cutSlug⟩,
    fun limit hlimit => cutSlug_of_nonpos _ hlimit, fun m n hle => ?_, fun limit hlimit => ?_⟩
  · exact ((cleanStart_cutSlug (slug text) m).mono hle).prefix_cutSlug
  · show cutSlug (slug text) limit = [] ↔ _
    rw [cutSlug_eq_nil_iff hlimit, slug_eq_nil_iff, List.any_eq_false]
    simp [isSolid, isLower_iff, Char.isDigit, Char.le_def]

/-- A cut between two words leaves the first one alone, though there is room for the underscore. -/
theorem underscored_longest_start_twoWords :
    (5 : Int) ≤ 9 ∧ underscored "Some  text?".toList 5 = "some".toList ∧
      underscored "Some  text?".toList 5 <+: underscored "Some  text?".toList 9 ∧
      (7 : Int) > 0 ∧ underscored "?!".toList 7 = [] := by
  obtain ⟨_, _, _, _, _, hgrows, _⟩ := underscored_longest_start "Some  text?".toList
  obtain ⟨_, _, _, _, _, _, hempty⟩ := underscored_longest_start "?!".toList
  have hlower : lower "?!".toList = ['?', '!'] := by decide
  have hnone : ∀ c ∈ lower "?!".toList, ¬ (('a' ≤ c ∧ c ≤ 'z') ∨ ('0' ≤ c ∧ c ≤ '9')) := by
    rw [hlower]
    simp
  exact ⟨by decide, by decide, hgrows 5 9 (by decide), by decide, (hempty 7 (by decide)).mpr hnone⟩

end Phrasebook.Key
