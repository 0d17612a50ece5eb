import Phrasebook.Call.Translations
import Phrasebook.Proofs.Call.Construction
import Phrasebook.Proofs.Text.Case

namespace Phrasebook

/-!
# Which defaults become plurals

With a count, a default that is a single word is expanded into plural variants.  The test for it
looks past one line feed at the end, so a word before a line feed counts as well:

* `SingleWord` — word characters and hyphens, the first no digit; `SingleWord.not_blank` — so no
  blanks;
* `isSingleWord_iff` — what the test accepts: single words, and those before a line feed;
* `Call.expands_iff` — so a call's text is expanded exactly where there is a count and the test
  accepts it, else kept and translated as it is; and expansion is that of single words unless the
  text ends in a line feed after one.
-/

/-! ### Single words -/

/-- A text of word characters and hyphens that does not start with a digit. -/
structure SingleWord (d : String) : Prop where
  nonempty : d ≠ ""
  chars : ∀ c ∈ d.toList, Text.isWordChar c = true ∨ c = '-'
  first : ∀ c, d.toList.head? = some c → Text.isDigit c = false

namespace Text

/-- A number in a gap of a table is not in the table. -/
theorem inRanges_eq_false_of_gap {table : List (Nat × Nat)} {gap : Nat × Nat} {n : Nat}
    (hgap : (table.all fun range => range.2.blt gap.1 || gap.2.blt range.1) = true)
    (hn : gap.1 ≤ n ∧ n ≤ gap.2) : inRanges table n = false := by
  rw [inRanges, List.any_eq_false]
  intro range hrange
  have hapart := List.all_eq_true.mp hgap range hrange
  simp only [Bool.or_eq_true, Nat.blt_eq] at hapart
  simp only [Bool.and_eq_true, decide_eq_true_eq]
  omega

/-- The runs of blanks beyond ASCII. -/
def wideBlanks : List (Nat × Nat) :=
  [(0x85, 0x85), (0xA0, 0xA0), (0x1680, 0x1680), (0x2000, 0x200A), (0x2028, 0x2029),
    (0x202F, 0x202F), (0x205F, 0x205F), (0x3000, 0x3000)]

/-- Blanks are no word characters. -/
theorem isWordChar_of_blank {c : Char} (h : isBlank c = true) : isWordChar c = false := by
  have hcode := toNat_mem_blankCodes h
  by_cases hascii : c.toNat < 128
  · have hall : ∀ n ∈ blankCodes, n < 128 → isWordChar (Char.ofNat n) = false := by decide
    have hc := hall c.toNat hcode hascii
    rwa [Char.ofNat_toNat] at hc
  · -- The letters and numerals leave a gap for each run.
    have hruns : ∀ n ∈ blankCodes, n < 128 ∨ ∃ run ∈ wideBlanks, run.1 ≤ n ∧ n ≤ run.2 := by decide
    have hgaps : (wideBlanks.all fun gap => alphanumericRanges.all fun range =>
        range.2.blt gap.1 || gap.2.blt range.1) = true := by decide +kernel
    obtain ⟨run, hrun, hbetween⟩ := (hruns c.toNat hcode).resolve_left hascii
    have hnone := inRanges_eq_false_of_gap (List.all_eq_true.mp hgaps run hrun) hbetween
    have hne : c ≠ '_' := by
      rintro rfl
      exact hascii (by decide)
    simp [isWordChar, isAlphanumeric, hascii, hnone, hne]

end Text

/-- A single word has no blank. -/
theorem SingleWord.not_blank {d : String} (h : SingleWord d) {c : Char} (hc : c ∈ d.toList) :
    Text.isBlank c = false := by
  by_contra hblank
  rw [Bool.not_eq_false] at hblank
  rcases h.chars c hc with hword | rfl
  · rw [Text.isWordChar_of_blank hblank] at hword
    cases hword
  · exact absurd hblank (by decide)

/-- So it does not end in a line feed. -/
theorem not_singleWord_append_lineFeed (w : String) : ¬ SingleWord (w ++ "\n") := by
  intro h
  have hblank := h.not_blank (c := '\n') (by simp)
  exact absurd hblank (by decide)

/-- The characters of a single word. -/
theorem singleWord_ofList_iff {text : List Char} :
    SingleWord (String.ofList text) ↔
      text ≠ [] ∧ (∀ c ∈ text, Text.isWordChar c = true ∨ c = '-') ∧
        ∀ c, text.head? = some c → Text.isDigit c = false := by
  constructor
  · rintro ⟨hne, hchars, hfirst⟩
    rw [String.toList_ofList] at hchars hfirst
    exact ⟨fun h => hne (by simp [h]), hchars, hfirst⟩
  · rintro ⟨hne, hchars, hfirst⟩
    refine ⟨fun h => hne ?_, ?_, ?_⟩
    · simpa using congrArg String.toList h
    · rwa [String.toList_ofList]
    · rwa [String.toList_ofList]

/-- The test accepts a text without a line feed at its end if it is a single word. -/
theorem isSingleWord_iff_of_getLast? {text : List Char} (h : text.getLast? ≠ some '\n') :
    isSingleWord text = true ↔ SingleWord (String.ofList text) := by
  rw [singleWord_ofList_iff]
  unfold isSingleWord
  rw [if_neg (by simpa using h)]
  cases text with
  | nil => simp
  | cons c rest => simp [and_comm]

/-- It accepts a text with one if what stands before is a single word. -/
theorem isSingleWord_append_lineFeed (word : List Char) :
    isSingleWord (word ++ ['\n']) = true ↔ SingleWord (String.ofList word) := by
  rw [singleWord_ofList_iff]
  unfold isSingleWord
  rw [if_pos (by simp), List.dropLast_concat]
  cases word with
  | nil => simp
  | cons c rest => simp [and_comm]

/-- The test accepts single words, and single words before a line feed. -/
theorem isSingleWord_iff {d : String} :
    isSingleWord d.toList = true ↔ SingleWord d ∨ ∃ w, SingleWord w ∧ d = w ++ "\n" := by
  by_cases hlast : d.toList.getLast? = some '\n'
  · -- The test is made on what stands before the line feed.
    obtain ⟨word, hword⟩ := List.getLast?_eq_some_iff.mp hlast
    obtain rfl : d = String.ofList word ++ "\n" := String.toList_injective (by simp [hword])
    rw [hword, isSingleWord_append_lineFeed]
    constructor
    · intro h
      exact .inr ⟨_, h, rfl⟩
    · rintro (h | ⟨w, hw, heq⟩)
      · exact absurd h (not_singleWord_append_lineFeed _)
      · rw [String.append_left_inj] at heq
        rwa [heq]
  · rw [isSingleWord_iff_of_getLast? hlast, String.ofList_toList]
    refine ⟨.inl, ?_⟩
    rintro (h | ⟨w, _, rfl⟩)
    · exact h
    · exact absurd (by simp) hlast

/-! ### Texts with a count -/

namespace Call

/-- The bag of the call has a count. -/
def HasCount (c : Call) : Prop := ∃ v, (Value.text "count", v) ∈ c.options

/-- A call is given its text as the default, or the variants of a word. -/
theorem default_of_text {values : OptionValues} {method : String} {line : Option Int}
    {args : List Argument} {key : Option String} {d : String} {bag : Option Entries} {c : Call}
    (hresolve : Signature.resolve values.pluralizationKeys line args = .ok ⟨key, .text d, bag⟩)
    (constructed : Call.ofArguments values method line args = .ok c) :
    c.default = (Default.text d).expand c.options := by
  obtain ⟨sig, default, hsig, hdefault, rfl⟩ := ofArguments_eq_ok_iff.mp constructed
  cases hresolve.symm.trans hsig
  rcases Default.ofArgument_eq_ok_iff.mp hdefault with ⟨s, hs, rfl, _⟩ | ⟨texts, htexts, _⟩
  · cases hs
    rfl
  · cases htexts

/-- A text that is not expanded stays as it is. -/
theorem expand_text_eq (options : Entries) (d : String) :
    (Default.text d).expand options = .variants (wordVariants d) ∨
      (Default.text d).expand options = .text d := by
  unfold Default.expand
  dsimp only
  split
  · exact .inl rfl
  · exact .inr rfl

/-- A text is expanded where there is a count and the test accepts it. -/
theorem expand_text_iff {c : Call} {d : String} :
    (Default.text d).expand c.options = .variants (wordVariants d) ↔
      c.HasCount ∧ (SingleWord d ∨ ∃ w, SingleWord w ∧ d = w ++ "\n") := by
  have hcount : c.options.contains (.text countOption) = true ↔ c.HasCount :=
    Entries.contains_text_iff
  rw [Default.expand_eq_variants_iff, ← hcount, ← isSingleWord_iff]
  constructor
  · rintro (h | ⟨_, ⟨⟩, hthere, hword, _⟩)
    · cases h
    · exact ⟨hthere, hword⟩
  · rintro ⟨hthere, hword⟩
    exact .inr ⟨d, rfl, hthere, hword, rfl⟩

/-- A call with a text has one translation, if it has a key. -/
theorem translations_of_text {c : Call} {d : String} (h : c.default = .text d)
    (values : OptionValues) :
    c.translations values = (c.baseKey values).bind fun key =>
      if key.isEmpty then .error (.signature (.emptyKey values.keyFormat d) c.line)
      else .ok [(key, d)] := by
  unfold translations
  rw [h]
  cases c.baseKey values <;> rfl

/-- **Where a text is expanded.**  In a call that is constructed with a text as its default, the text
    is expanded into plural variants exactly if there is a count and it is a single word, or a single
    word before one line feed.  Else it stays as it is, and the call has one translation under any
    option values that leave it a key.  So it is expanded where there is a count and it is a single
    word, which has no blanks, unless there is a count and it is a single word before a line feed. -/
theorem expands_iff {values : OptionValues} {method : String} {line : Option Int}
    {args : List Argument} {key : Option String} {d : String} {bag : Option Entries} {c : Call}
    (hresolve : Signature.resolve values.pluralizationKeys line args = .ok ⟨key, .text d, bag⟩)
    (constructed : Call.ofArguments values method line args = .ok c) :
    (c.default = .variants [("one", "1 " ++ d),
        ("other", "%\x7bcount\x7d " ++ String.ofList (Inflection.pluralize d.toList))] ↔
      c.HasCount ∧ (SingleWord d ∨ ∃ w, SingleWord w ∧ d = w ++ "\n")) ∧
    (¬ (c.HasCount ∧ (SingleWord d ∨ ∃ w, SingleWord w ∧ d = w ++ "\n")) →
      c.default = .text d ∧
        ∀ values', c.translations values' = (c.baseKey values').bind fun key =>
          if key.isEmpty then .error (.signature (.emptyKey values'.keyFormat d) c.line)
          else .ok [(key, d)]) ∧
    ((c.default = .variants [("one", "1 " ++ d),
        ("other", "%\x7bcount\x7d " ++ String.ofList (Inflection.pluralize d.toList))] ↔
        c.HasCount ∧ SingleWord d) ↔
      ¬ (c.HasCount ∧ ∃ w, SingleWord w ∧ d = w ++ "\n")) ∧
    (SingleWord d → ∀ ch ∈ d.toList, Text.isBlank ch = false) := by
  have hdefault := default_of_text hresolve constructed
  have hexpands : c.default = .variants (wordVariants d) ↔
      c.HasCount ∧ (SingleWord d ∨ ∃ w, SingleWord w ∧ d = w ++ "\n") := by
    rw [hdefault]
    exact expand_text_iff
  refine ⟨hexpands, fun hnot => ?_, ?_, fun h ch hch => h.not_blank hch⟩
  · have hkept : c.default = .text d := by
      rcases expand_text_eq c.options d with h | h
      · exact absurd (hexpands.mp (hdefault.trans h)) hnot
      · exact hdefault.trans h
    exact ⟨hkept, translations_of_text hkept⟩
  · -- A word before a line feed is none itself, so the two cases exclude each other.
    show (c.default = .variants (wordVariants d) ↔ _) ↔ _
    rw [hexpands]
    have hapart : (∃ w, SingleWord w ∧ d = w ++ "\n") → ¬ SingleWord d := by
      rintro ⟨w, _, rfl⟩
      exact not_singleWord_append_lineFeed w
    constructor
    · rintro hsame ⟨hcount, hline⟩
      exact hapart hline (hsame.mp ⟨hcount, .inr hline⟩).2
    · intro hnot
      refine ⟨?_, fun h => ⟨h.1, .inl h.2⟩⟩
      rintro ⟨hcount, hword | hline⟩
      · exact ⟨hcount, hword⟩
      · exact absurd ⟨hcount, hline⟩ hnot

/-! ### A word in a call with a count -/

/-- Option values with the essential variants and placeholders between braces. -/
def wordValues : OptionValues := ⟨.underscored, 50, essentialVariants, "%\\\x7b([^\x7d]+)\\\x7d"⟩

/-- A bag with nothing but a count. -/
def countBag : Entries := [(.text "count", .int 1)]

section Counted

variable {values : OptionValues} (hcount : "count" ∉ values.pluralizationKeys)

include hcount

/-- A text with a key and the bag has the two for its parts, where a count is no variant. -/
theorem resolve_counted_of (d : String) :
    Signature.resolve values.pluralizationKeys none [.text "k", .text d, .map countBag] =
      .ok ⟨some "k", .text d, some countBag⟩ := by
  refine Signature.resolve_of_fits (.keyDefaultOptions ⟨'k', by decide, by decide⟩ ?_)
  rintro ⟨name, hname, v, hv⟩
  cases List.mem_singleton.mp hv
  exact hcount hname

/-- It is valid if it has no placeholders. -/
theorem constructed_counted_of {d : String} (h : placeholders values.interpolationSyntax d = []) :
    Call.ofArguments values "t" none [.text "k", .text d, .map countBag] =
      .ok ⟨"t", none, some "k", (Default.text d).expand countBag, countBag⟩ := by
  refine ofArguments_eq_ok_iff.mpr ⟨_, .text d, resolve_counted_of hcount d, ?_, rfl⟩
  refine Default.ofArgument_eq_ok_iff.mpr (.inl ⟨d, rfl, rfl, ?_⟩)
  simp [Supplied, h]

end Counted

/-- The parts of such a text under these values. -/
theorem resolve_counted (d : String) :
    Signature.resolve wordValues.pluralizationKeys none [.text "k", .text d, .map countBag] =
      .ok ⟨some "k", .text d, some countBag⟩ :=
  @resolve_counted_of wordValues (by decide) d

/-- The call that it is under them. -/
theorem constructed_counted {d : String}
    (h : placeholders wordValues.interpolationSyntax d = []) :
    Call.ofArguments wordValues "t" none [.text "k", .text d, .map countBag] =
      .ok ⟨"t", none, some "k", (Default.text d).expand countBag, countBag⟩ :=
  constructed_counted_of (by decide) h

/-- Neither text has a placeholder, and a line feed keeps the irregular plural from being found. -/
theorem person_inflected :
    (∀ d ∈ ["person", "person\n"], placeholders wordValues.interpolationSyntax d = []) ∧
      Inflection.pluralize "person".toList = "people".toList ∧
      Inflection.pluralize "person\n".toList = "person\ns".toList := by
  decide +kernel

/-- A person becomes people. -/
theorem expands_person :
    ∃ c, Signature.resolve wordValues.pluralizationKeys none
        [.text "k", .text "person", .map countBag] = .ok ⟨some "k", .text "person", some countBag⟩ ∧
      Call.ofArguments wordValues "t" none [.text "k", .text "person", .map countBag] = .ok c ∧
      c.default = .variants [("one", "1 person"), ("other", "%\x7bcount\x7d people")] := by
  obtain ⟨hplaceholders, hplural, _⟩ := person_inflected
  have hconstructed := constructed_counted (hplaceholders "person" (by simp))
  have hexpanded := (expands_iff (resolve_counted "person") hconstructed).1.mpr
    ⟨⟨_, List.mem_singleton_self _⟩, isSingleWord_iff.mp (by decide)⟩
  rw [hplural] at hexpanded
  exact ⟨_, resolve_counted "person", hconstructed, hexpanded⟩

/-- A person before a line feed is expanded as well, though that is no single word. -/
theorem expands_lineFeed :
    ∃ c, Signature.resolve wordValues.pluralizationKeys none
        [.text "k", .text "person\n", .map countBag] =
          .ok ⟨some "k", .text "person\n", some countBag⟩ ∧
      Call.ofArguments wordValues "t" none [.text "k", .text "person\n", .map countBag] = .ok c ∧
      c.HasCount ∧ ¬ SingleWord "person\n" ∧ Text.isBlank '\n' = true ∧
      c.default = .variants [("one", "1 person\n"), ("other", "%\x7bcount\x7d person\ns")] := by
  obtain ⟨hplaceholders, _, hplural⟩ := person_inflected
  have hconstructed := constructed_counted (hplaceholders "person\n" (by simp))
  refine ⟨_, resolve_counted "person\n", hconstructed, ⟨_, List.mem_singleton_self _⟩,
    not_singleWord_append_lineFeed "person", by decide, ?_⟩
  have hexpanded : (Default.text "person\n").expand countBag = .variants (wordVariants "person\n") :=
    Default.expand_eq_variants_iff.mpr (.inr ⟨_, rfl, by decide, by decide, rfl⟩)
  rw [wordVariants, hplural] at hexpanded
  exact hexpanded

end Call

end Phrasebook
