import Phrasebook.Proofs.Key.Cut
import Phrasebook.Proofs.Text.Words

namespace Phrasebook.Key

open Text

/-!
# What leaves keys as they are

Catalogues are looked up by keys, so neither keying a key again nor laying out its text in another
way may change it:

* `Clean` — texts of safe characters without an underscore at either end; `slug_eq_self_iff` — they
  are the texts that are their own slugs;
* `clean_slug`, `Clean.cutSlug` — slugs are clean, and stay so where a limit cuts them;
* `underscored_rekeyed` — so slugs and underscored keys are left as they are when they are keyed
  again;
* `infer_regardless_of_layout` — a key depends on the words of a text alone.
-/

/-! ### Clean texts -/

/-- A text of small ASCII letters, digits and underscores, none of the latter at either end. -/
structure Clean (text : List Char) : Prop where
  safe : ∀ c ∈ text, isSafe c = true
  head : text.head? ≠ some '_'
  last : text.getLast? ≠ some '_'

/-- A safe character is in ASCII, and no capital. -/
theorem ascii_of_isSafe {c : Char} (h : isSafe c = true) : c.toNat < 128 ∧ c.isUpper = false := by
  rw [← Bool.not_eq_true, isUpper_iff]
  have hrange := isSafe_iff_range.mp h
  simp only [Char.le_def, UInt32.le_iff_toNat_le] at hrange ⊢
  unfold Char.toNat
  rcases hrange with ⟨hlow, hhigh⟩ | ⟨hlow, hhigh⟩ | rfl
  · have hz : 'z'.val.toNat = 122 := rfl
    have ha : 'a'.val.toNat = 97 := rfl
    have hZ : (90 : UInt32).toNat = 90 := rfl
    omega
  · have h9 : '9'.val.toNat = 57 := rfl
    have hA : (65 : UInt32).toNat = 65 := rfl
    omega
  · decide

/-- No blank is safe. -/
theorem not_blank_of_isSafe {c : Char} (h : isSafe c = true) : isBlank c = false := by
  by_contra hblank
  rw [Bool.not_eq_false] at hblank
  rcases isSafe_iff.mp h with hsolid | rfl
  · rw [isSolid_of_isBlank hblank] at hsolid
    cases hsolid
  · exact absurd hblank (by decide)

/-- A text of safe characters is in lower case. -/
theorem lower_of_safe {text : List Char} (h : ∀ c ∈ text, isSafe c = true) : lower text = text := by
  rw [lower_of_ascii fun c hc => (ascii_of_isSafe (h c hc)).1]
  exact map_toLower_eq_self_iff.mpr fun c hc => (ascii_of_isSafe (h c hc)).2

/-- In such a text there is nothing to replace. -/
theorem replaceUnsafe_of_safe {text : List Char} (h : ∀ c ∈ text, isSafe c = true) :
    replaceUnsafe text = text := by
  induction text with
  | nil => rfl
  | cons c rest ih =>
    obtain ⟨hc, hrest⟩ := List.forall_mem_cons.mp h
    cases rest <;> simp_all [replaceUnsafe]

/-- Nothing is trimmed off a text that neither starts nor ends with what may be dropped. -/
theorem trimBy_eq_self {drop : Char → Bool} {text : List Char}
    (hhead : ∀ c, text.head? = some c → drop c = false)
    (hlast : ∀ c, text.getLast? = some c → drop c = false) : trimBy drop text = text := by
  have hstart : text.dropWhile drop = text := by
    cases text with
    | nil => rfl
    | cons c rest => exact List.dropWhile_cons_of_neg (by simp [hhead c rfl])
  have hend : text.rdropWhile drop = text :=
    List.rdropWhile_eq_self_iff.mpr fun hne => by
      simp [hlast _ (List.getLast?_eq_getLast_of_ne_nil hne)]
  show (text.dropWhile drop).rdropWhile drop = text
  rw [hstart, hend]

/-- A clean text is its own slug. -/
theorem Clean.slug_eq {text : List Char} (h : Clean text) : slug text = text := by
  rw [slug, lower_of_safe h.safe, replaceUnsafe_of_safe h.safe]
  refine trimBy_eq_self (fun c hc => ?_) fun c hc => ?_
  · simpa using fun heq : c = '_' => h.head (heq ▸ hc)
  · simpa using fun heq : c = '_' => h.last (heq ▸ hc)

/-- Slugs are clean. -/
theorem clean_slug (text : List Char) : Clean (slug text) where
  safe _ hc := isSafe_of_mem_slug hc
  head := head?_slug_ne text
  last := getLast?_slug_ne text

/-- The clean texts are those that are their own slugs. -/
theorem slug_eq_self_iff {text : List Char} : slug text = text ↔ Clean text :=
  ⟨fun h => h ▸ clean_slug text, Clean.slug_eq⟩

/-- What a limit leaves of a clean text is clean. -/
theorem Clean.cutSlug {text : List Char} (h : Clean text) (limit : Int) :
    Clean (cutSlug text limit) where
  safe _ hc := by
    have hstart := cutSlug_prefix text limit
    exact h.safe _ (hstart.subset hc)
  head hhead := by
    obtain ⟨rest, hrest⟩ := cutSlug_prefix text limit
    refine h.head ?_
    rw [← hrest, List.head?_append, hhead]
    rfl
  last := getLast?_cutSlug_ne text limit

/-- A text that a limit has room for is left whole unless it ends in an underscore. -/
theorem cutSlug_eq_self {text : List Char} {limit : Int} (hlength : text.length ≤ limit.toNat)
    (hlast : text.getLast? ≠ some '_') : Key.cutSlug text limit = text := by
  have hwhole : CleanStart text limit text := ⟨List.prefix_refl text, hlength, hlast⟩
  have hstart := cutSlug_prefix text limit
  exact hstart.eq_of_length_le hwhole.prefix_cutSlug.length_le

/-! ### Keys of keys -/

/-- An underscored key is clean, and the limit has room for it. -/
theorem underscored_underscored (text : List Char) (limit : Int) :
    underscored (underscored text limit) limit = underscored text limit := by
  have hclean : Clean (underscored text limit) := (clean_slug text).cutSlug limit
  have hlength : (underscored text limit).length ≤ limit.toNat := length_cutSlug_le _ _
  rw [underscored, slug_eq_self_iff.mpr hclean]
  exact cutSlug_eq_self hlength hclean.last

/-- **Slugs and underscored keys are left as they are.**  The slug of a slug is that slug, and under
    whatever limit a text has been keyed, the same limit gives the same key for the key itself; so
    it does where blanks are normalised first, as there are none in a key. -/
theorem underscored_rekeyed (text : List Char) :
    slug (slug text) = slug text ∧
    ∀ limit : Int, underscored (underscored text limit) limit = underscored text limit ∧
      ∃ key, infer text .underscored limit = .ok key ∧
        infer key .underscored limit = .ok key := by
  refine ⟨slug_eq_self_iff.mpr (clean_slug text), fun limit =>
    ⟨underscored_underscored text limit, underscored (normalise text) limit, rfl, ?_⟩⟩
  -- A key has no blanks, so normalising leaves it alone and it is keyed as it stands.
  have hclean : Clean (underscored (normalise text) limit) :=
    (clean_slug (normalise text)).cutSlug limit
  have hnormal : normalise (underscored (normalise text) limit) =
      underscored (normalise text) limit :=
    normalise_of_not_blank fun c hc => not_blank_of_isSafe (hclean.safe c hc)
  show Except.ok (underscored (normalise (underscored (normalise text) limit)) limit) = .ok _
  rw [hnormal, underscored_underscored (normalise text) limit]

/-! ### Layout -/

/-- Texts with the same words have the same keys. -/
theorem infer_congr_words {text text' : List Char} (h : words text = words text')
    (format : KeyFormat) (limit : Int) : infer text format limit = infer text' format limit := by
  rw [infer, infer, normalise, normalise, h]

/-- **A key does not depend on how its text is laid out.**  The words of a text are its runs of
    characters that are not blank, in the one way in which it can be cut into such runs.
    Normalising keeps them, leaves a text in normal layout, without blanks at its ends and with
    single spaces for the others, and changes nothing when it is done again; nothing is left exactly
    where trimming leaves nothing, which is where a text counts as blank.  So two texts with the
    same runs have the same key, in every format and under every limit. -/
theorem infer_regardless_of_layout (text : List Char) :
    (∀ runs, Runs text runs ↔ words text = runs) ∧
    normalise (normalise text) = normalise text ∧
    Normal (normalise text) ∧
    words (normalise text) = words text ∧
    (normalise text = [] ↔ trim text = []) ∧
    (trim text = [] ↔ Text.isBlankText text = true) ∧
    ∀ text' runs, Runs text runs → Runs text' runs →
      ∀ format limit, infer text format limit = infer text' format limit := by
  have htrim : trim text = [] ↔ ∀ c ∈ text, isBlank c = true := trimBy_eq_nil_iff
  refine ⟨fun _ => runs_iff, normalise_normalise text, normal_normalise text, words_normalise text,
    ?_, ?_, fun text' runs h h' => ?_⟩
  · rw [normalise_eq_nil_iff, htrim]
  · rw [htrim, Text.isBlankText, List.all_eq_true]
  · exact infer_congr_words ((runs_iff.mp h).trans (runs_iff.mp h').symm)

/-- A line separator and a tab lay out the same two words as one space does. -/
theorem infer_regardless_of_layout_separator :
    Runs "Save\u2028\tfile ".toList ["Save".toList, "file".toList] ∧
      Runs "Save file".toList ["Save".toList, "file".toList] ∧
      infer "Save\u2028\tfile ".toList .hashed 50 = infer "Save file".toList .hashed 50 := by
  have hlines : Runs "Save\u2028\tfile ".toList ["Save".toList, "file".toList] :=
    runs_iff.mpr (by decide)
  have hline : Runs "Save file".toList ["Save".toList, "file".toList] := runs_iff.mpr (by decide)
  obtain ⟨_, _, _, _, _, _, hsame⟩ := infer_regardless_of_layout "Save\u2028\tfile ".toList
  exact ⟨hlines, hline, hsame _ _ hlines hline .hashed 50⟩

end Phrasebook.Key
