import Phrasebook.Inflection
import Phrasebook.Proofs.Text.Ascii

namespace Phrasebook.Inflection

/-!
# The capitals of a plural

A plural is formed in lower case, and its capitals are restored from the noun: all of it when the
noun is in upper case, the first character otherwise.

* `Rule` — what the plural of a noun that is not irregular is formed by;
* `pluralize_eq` — such a plural is what is left of the noun, and a suffix, each with its capitals;
* `mem_of_mem_pluralize` — a plural has no other characters than letters and those of the word;
* `KeepsCapitals` — the plural is the word as it stands, its final y apart, and a suffix;
* `keepsCapitals_iff` — the words whose plurals do: those whose capitals can be restored, which in
  ASCII are the words in upper case and those without capitals after the first character.  A line
  feed after a consonant and y is taken away in place of the y.
-/

open Text

/-- The part of a word that is inflected. -/
def segment (word : List Char) : List Char := (splitHyphen word).2

/-- Whether a noun has a plural that no rule gives. -/
def isIrregular (noun : List Char) : Bool := irregular.any (·.1.toList == lower noun)

/-- What the plural of a noun that is not irregular is formed by. -/
inductive Rule where
  /-- The noun has no plural of its own. -/
  | uncountable
  /-- The noun ends in a consonant and y. -/
  | consonantY
  /-- The noun ends in a sibilant. -/
  | sibilant
  /-- The noun ends in something else. -/
  | other
deriving DecidableEq, Repr

namespace Rule

/-- The rule for a noun, whatever its capitals. -/
def of (noun : List Char) : Rule :=
  if Inflection.uncountable.any (·.toList == lower noun) then .uncountable
  else if hasEnding endsInConsonantY (lower noun) then .consonantY
  else if hasEnding endsInSibilant (lower noun) then .sibilant
  else .other

/-- What follows the stem. -/
def suffix : Rule → List Char
  | uncountable => []
  | consonantY => ['i', 'e', 's']
  | sibilant => ['e', 's']
  | other => ['s']

/-- What is left of a noun. -/
def stem : Rule → List Char → List Char
  | consonantY, noun => noun.dropLast
  | _, noun => noun

/-- What a word leaves when its final y is taken away, where the rule does so. -/
def Leaves : Rule → List Char → List Char → Prop
  | consonantY, word, left => word = left ++ ['y'] ∨ word = left ++ ['Y']
  | _, word, left => word = left

end Rule

/-- A suffix with the capitals of a noun. -/
def casedSuffix (noun suffix : List Char) : List Char :=
  if isUpperText noun && 1 < noun.length then upper suffix else suffix

/-- The plural is the word as it stands, its final y apart where the rule takes it away, and the
    suffix of the rule, which is in upper case after a segment of several characters in upper case.
    -/
def KeepsCapitals (word plural : List Char) : Prop :=
  ∃ left, (Rule.of (segment word)).Leaves word left ∧
    plural = left ++ casedSuffix (segment word) (Rule.of (segment word)).suffix

/-- What is left of a noun, its capitals restored from lower case. -/
def restored (noun : List Char) : List Char := matchCase noun ((Rule.of noun).stem (lower noun))

/-- A line feed that the noun ends in is taken away in place of the y before it. -/
def LosesLineFeed (noun : List Char) : Prop :=
  Rule.of noun = .consonantY ∧ noun.getLast? = some '\n'

instance (noun : List Char) : Decidable (LosesLineFeed noun) := inferInstanceAs (Decidable (_ ∧ _))

/-! ### The rules -/

/-- A plural that is not irregular, in lower case. -/
theorem pluralOf_lower {noun : List Char} (h : isIrregular noun = false) :
    pluralOf (lower noun) = (Rule.of noun).stem (lower noun) ++ (Rule.of noun).suffix := by
  have hnone : irregular.find? (·.1.toList == lower noun) = none := by
    rw [isIrregular, List.any_eq_false] at h
    exact List.find?_eq_none.mpr h
  rw [pluralOf, hnone, Rule.of]
  split
  · exact (List.append_nil _).symm
  · dsimp only
    split
    · rfl
    · split <;> rfl

/-- A noun that ends in a consonant and y, and possibly in a line feed. -/
theorem exists_of_endsInConsonantY {noun : List Char}
    (h : hasEnding endsInConsonantY noun = true) :
    ∃ start c, noun = start ++ [c, 'y'] ∨ noun = start ++ [c, 'y', '\n'] := by
  have hy : ∀ {reversed}, endsInConsonantY reversed = true →
      ∃ c rest, reversed = 'y' :: c :: rest := by
    intro reversed hends
    unfold endsInConsonantY at hends
    split at hends
    · exact ⟨_, _, rfl⟩
    · exact absurd hends Bool.false_ne_true
  rw [hasEnding, Bool.or_eq_true] at h
  rcases h with h | h
  · obtain ⟨c, rest, hreverse⟩ := hy h
    exact ⟨rest.reverse, c, .inl (by rw [← List.reverse_reverse noun, hreverse]; simp)⟩
  · obtain ⟨c, rest, hreverse⟩ := hy h
    unfold dropLineFeed at hreverse
    split at hreverse
    · rename_i more hfeed
      subst hreverse
      exact ⟨rest.reverse, c, .inr (by rw [← List.reverse_reverse noun, hfeed]; simp)⟩
    · exact ⟨rest.reverse, c, .inl (by rw [← List.reverse_reverse noun, hreverse]; simp)⟩

namespace Rule

/-- The rule that takes the last character away is for such nouns only. -/
theorem exists_of_eq_consonantY {noun : List Char} (h : Rule.of noun = .consonantY) :
    ∃ start c, lower noun = start ++ [c, 'y'] ∨ lower noun = start ++ [c, 'y', '\n'] := by
  unfold Rule.of at h
  split at h
  · cases h
  · split at h
    · exact exists_of_endsInConsonantY ‹_›
    · split at h <;> cases h

/-- Something is left of a noun. -/
theorem stem_lower_ne_nil {noun : List Char} (h : noun ≠ []) :
    (Rule.of noun).stem (lower noun) ≠ [] := by
  cases hrule : Rule.of noun with
  | consonantY =>
    obtain ⟨start, c, hnoun | hnoun⟩ := exists_of_eq_consonantY hrule <;> simp [stem, hnoun]
  | uncountable | sibilant | other => exact lowerFrom_ne_nil h

/-- The part before the last hyphen is left as it is. -/
theorem leaves_append {rule : Rule} {head tail left : List Char} :
    rule.Leaves (head ++ tail) (head ++ left) ↔ rule.Leaves tail left := by
  cases rule <;> simp [Leaves]

/-- A word leaves its stem, unless a line feed comes after the y. -/
theorem leaves_iff {noun left : List Char} :
    (Rule.of noun).Leaves noun left ↔ left = (Rule.of noun).stem noun ∧ ¬ LosesLineFeed noun := by
  unfold LosesLineFeed
  cases hrule : Rule.of noun with
  | uncountable | sibilant | other => simp [Leaves, stem, eq_comm]
  | consonantY =>
    constructor
    · rintro (h | h) <;> simp [h, stem]
    · rintro ⟨rfl, hfeed⟩
      obtain ⟨start, c, hy | hlineFeed⟩ := exists_of_eq_consonantY hrule
      · obtain ⟨last, hlast, hlower⟩ := exists_getLast?_of_lower (isSteady_of_mem 'y' (by simp))
          (show (lower noun).getLast? = some 'y' by simp [hy])
        have hnoun : noun.dropLast ++ [last] = noun := List.dropLast_append_getLast? last hlast
        rcases eq_or_eq_of_toLower hlower with rfl | rfl
        · exact .inl hnoun.symm
        · exact .inr hnoun.symm
      · obtain ⟨last, hlast, hlower⟩ := exists_getLast?_of_lower (isSteady_of_mem '\n' (by simp))
          (show (lower noun).getLast? = some '\n' by simp [hlineFeed])
        exact absurd ⟨rfl, hlast.trans (congrArg some (eq_of_toLower rfl hlower))⟩ hfeed

end Rule

/-! ### Capitals of the parts -/

/-- Capitals are restored in the stem and in the suffix. -/
theorem matchCase_append {noun start : List Char} (h : start ≠ []) (suffix : List Char) :
    matchCase noun (start ++ suffix) = matchCase noun start ++ casedSuffix noun suffix := by
  unfold matchCase casedSuffix
  split
  · rw [upper, List.flatMap_append]
    rfl
  · obtain ⟨c, rest, rfl⟩ := List.exists_cons_of_ne_nil h
    split <;> simp

/-- A word is what stands before its last segment, and the segment. -/
theorem splitHyphen_append (word : List Char) : (splitHyphen word).1 ++ segment word = word := by
  have hsuffix : segment word <:+ word := by
    rw [← List.reverse_prefix]
    show (word.reverse.takeWhile (· != '-')).reverse.reverse <+: word.reverse
    rw [List.reverse_reverse]
    exact List.takeWhile_prefix _
  have hdrop : segment word = word.drop (word.length - (segment word).length) :=
    List.suffix_iff_eq_drop.mp hsuffix
  calc (splitHyphen word).1 ++ segment word
      = word.take (word.length - (segment word).length) ++
          word.drop (word.length - (segment word).length) := by rw [← hdrop]; rfl
    _ = word := List.take_append_drop _ _

section Regular

variable {word : List Char} (hsegment : segment word ≠ [])
  (hregular : isIrregular (segment word) = false)

include hsegment hregular

/-- A plural that is not irregular: what stands before the last segment, what is left of the segment,
    and the suffix. -/
theorem pluralize_eq :
    pluralize word = (splitHyphen word).1 ++ restored (segment word) ++
      casedSuffix (segment word) (Rule.of (segment word)).suffix := by
  have hempty : (segment word).isEmpty = false := by simpa using hsegment
  have hpluralize : pluralize word =
      (splitHyphen word).1 ++ matchCase (segment word) (pluralOf (lower (segment word))) := by
    show (if (segment word).isEmpty then _ else _) = _
    rw [hempty]
    rfl
  rw [hpluralize, pluralOf_lower hregular, matchCase_append (Rule.stem_lower_ne_nil hsegment),
    List.append_assoc, restored]

/-- So the plural keeps the capitals if they are restored in what is left of the segment. -/
theorem keepsCapitals_iff_restored :
    KeepsCapitals word (pluralize word) ↔
      restored (segment word) = (Rule.of (segment word)).stem (segment word) ∧
        ¬ LosesLineFeed (segment word) := by
  have hword : ∀ left, (Rule.of (segment word)).Leaves word left ↔
      (Rule.of (segment word)).Leaves ((splitHyphen word).1 ++ segment word) left := by
    simp [splitHyphen_append]
  simp only [KeepsCapitals, pluralize_eq hsegment hregular, List.append_cancel_right_eq, hword,
    exists_eq_right', Rule.leaves_append, Rule.leaves_iff]

end Regular

/-! ### Capitals in ASCII -/

section Ascii

variable {noun : List Char} (hascii : ∀ c ∈ noun, c.toNat < 128)

/-- What is left of a noun starts as the noun does. -/
theorem Rule.stem_start (rule : Rule) (noun : List Char) : rule.stem noun <+: noun := by
  cases rule with
  | consonantY => exact List.dropLast_prefix noun
  | uncountable | sibilant | other => exact List.prefix_refl noun

include hascii

/-- The stem in lower case, letter by letter. -/
theorem Rule.stem_lower (rule : Rule) :
    rule.stem (lower noun) = (rule.stem noun).map Char.toLower := by
  rw [lower_of_ascii hascii]
  cases rule with
  | consonantY => exact List.map_dropLast.symm
  | uncountable | sibilant | other => rfl

/-- A noun in upper case has no small letters. -/
theorem isLower_of_isUpperText (hupper : isUpperText noun = true) :
    ∀ c ∈ noun, c.isLower = false := by
  intro c hc
  rw [isUpperText, Bool.and_eq_true, Bool.not_eq_true', List.any_eq_false] at hupper
  have hnot := hupper.2 c hc
  rw [isLowerLetter, if_pos (hascii c hc), Bool.or_eq_true, not_or, Bool.not_eq_true] at hnot
  exact hnot.1

/-- Capitals are restored in a noun in upper case. -/
theorem matchCase_of_capitals {start : List Char} (hstart : start <+: noun)
    (hall : isUpperText noun = true ∧ 1 < noun.length) :
    matchCase noun (start.map Char.toLower) = start := by
  have hupper : upper (start.map Char.toLower) = start :=
    upper_map_toLower (fun c hc => hascii c (hstart.subset hc))
      fun c hc => isLower_of_isUpperText hascii hall.1 c (hstart.subset hc)
  simp [matchCase, hall, hupper]

/-- In any other noun the first character alone is restored. -/
theorem matchCase_eq_iff {first : Char} {rest : List Char} (hstart : first :: rest <+: noun)
    (hall : ¬ (isUpperText noun = true ∧ 1 < noun.length)) :
    matchCase noun ((first :: rest).map Char.toLower) = first :: rest ↔
      rest.map Char.toLower = rest := by
  have hfirst : first.toNat < 128 := hascii first (hstart.subset List.mem_cons_self)
  have htake : noun.take 1 = [first] := by
    obtain ⟨dropped, rfl⟩ := hstart
    rfl
  rw [matchCase, if_neg (by simpa using hall), htake, isUpperText_singleton hfirst]
  split
  · rename_i hcapital
    have hsame : upper [first.toLower] = [first] :=
      @upper_map_toLower [first] (by simpa using hfirst) (by simpa using isLower_of_isUpper hcapital)
    simp [hsame]
  · rename_i hsmall
    simp [toLower_eq_self_iff.mpr (Bool.not_eq_true _ ▸ hsmall)]

/-- So what is left of a noun is restored if the noun is in upper case or has no capitals after its
    first character. -/
theorem restored_eq_iff :
    restored noun = (Rule.of noun).stem noun ↔
      isUpperText noun = true ∨ ∀ c ∈ ((Rule.of noun).stem noun).tail, c.isUpper = false := by
  have hstart := (Rule.of noun).stem_start noun
  rw [restored, Rule.stem_lower hascii]
  generalize (Rule.of noun).stem noun = start at hstart ⊢
  by_cases hall : isUpperText noun = true ∧ 1 < noun.length
  · simp [matchCase_of_capitals hascii hstart hall, hall.1]
  · cases start with
    | nil => simp [matchCase, upper]
    | cons first rest =>
      rw [matchCase_eq_iff hascii hstart hall, map_toLower_eq_self_iff]
      refine ⟨.inr, fun h => h.elim (fun hupper => ?_) id⟩
      -- A noun in upper case is one character here, so nothing stands after the first.
      have hlength : ¬ 1 < noun.length := fun h => hall ⟨hupper, h⟩
      have hrest : rest.length + 1 ≤ noun.length := hstart.length_le
      obtain rfl : rest = [] := List.eq_nil_of_length_eq_zero (by omega)
      exact fun c hc => absurd hc List.not_mem_nil

end Ascii

/-! ### Characters that are no letters -/

section NoLetter

variable {d : Char} (hd : isSteady d = true) (hletter : d.isAlpha = false)

include hletter

/-- A plural in lower case has no other characters than letters and those of its noun. -/
theorem mem_of_mem_pluralOf {noun : List Char} (h : d ∈ pluralOf noun) : d ∈ noun := by
  have hirregular : (irregular.all fun e => e.2.toList.all (·.isAlpha)) = true := by decide +kernel
  have hsuffix : ∀ {suffix : List Char}, suffix.all (·.isAlpha) = true → d ∉ suffix := by
    intro suffix hall hmem
    rw [List.all_eq_true.mp hall d hmem] at hletter
    cases hletter
  unfold pluralOf at h
  split at h
  · exact h
  · split at h
    · rename_i hfind
      have hletters := List.all_eq_true.mp hirregular _ (List.mem_of_find?_eq_some hfind)
      rw [List.all_eq_true.mp hletters d h] at hletter
      cases hletter
    · split at h
      · exact (List.dropLast_subset _) ((List.mem_append.mp h).resolve_right (hsuffix rfl))
      · split at h
        · exact (List.mem_append.mp h).resolve_right (hsuffix rfl)
        · exact (List.mem_append.mp h).resolve_right (hsuffix rfl)

include hd

/-- Restored capitals are letters. -/
theorem mem_of_mem_matchCase {noun plural : List Char} (h : d ∈ matchCase noun plural) :
    d ∈ plural := by
  unfold matchCase at h
  split at h
  · exact mem_of_mem_upper hd hletter h
  · split at h
    · rcases List.mem_append.mp h with h | h
      · exact List.mem_of_mem_take (mem_of_mem_upper hd hletter h)
      · exact List.mem_of_mem_drop h
    · exact h

/-- So a steady character that is no letter is in a plural only if it is in the word. -/
theorem mem_of_mem_pluralize {word : List Char} (h : d ∈ pluralize word) : d ∈ word := by
  rw [← splitHyphen_append word]
  unfold pluralize at h
  dsimp only at h
  split at h
  · rwa [splitHyphen_append]
  · refine List.mem_append.mpr ((List.mem_append.mp h).imp_right fun h => ?_)
    exact mem_of_mem_lower hd hletter
      (mem_of_mem_pluralOf hletter (mem_of_mem_matchCase hd hletter h))

end NoLetter

/-! ### The words whose capitals are kept -/

/-- The plural of a word is the word as it stands and a suffix exactly if the capitals of what is
    left are restored and no line feed is taken away.  In ASCII they are restored if the segment is
    in upper case, or if none of them stands after its first character. -/
theorem keepsCapitals_iff {word : List Char} (hsegment : segment word ≠ [])
    (hregular : isIrregular (segment word) = false) :
    (KeepsCapitals word (pluralize word) ↔
      restored (segment word) = (Rule.of (segment word)).stem (segment word) ∧
        ¬ LosesLineFeed (segment word)) ∧
    ((∀ c ∈ segment word, c.toNat < 128) →
      (KeepsCapitals word (pluralize word) ↔
        (isUpperText (segment word) = true ∨
          ∀ c ∈ ((Rule.of (segment word)).stem (segment word)).tail, c.isUpper = false) ∧
        ¬ LosesLineFeed (segment word))) := by
  have hkeeps := keepsCapitals_iff_restored hsegment hregular
  refine ⟨hkeeps, fun hascii => ?_⟩
  rw [hkeeps, restored_eq_iff hascii]

/-- A capitalized word keeps its capital. -/
theorem keepsCapitals_subCategory :
    KeepsCapitals "sub-Category".toList (pluralize "sub-Category".toList) ∧
      pluralize "sub-Category".toList = "sub-Categories".toList := by
  have hfacts : segment "sub-Category".toList = "Category".toList ∧
      isIrregular "Category".toList = false ∧ "Category".toList.all (·.toNat < 128) = true ∧
      ((Rule.of "Category".toList).stem "Category".toList).tail.all (!·.isUpper) = true ∧
      ¬ LosesLineFeed "Category".toList ∧
      pluralize "sub-Category".toList = "sub-Categories".toList := by
    decide +kernel
  obtain ⟨hsegment, hregular, hascii, hcapitals, hfeed, hplural⟩ := hfacts
  simp only [List.all_eq_true, decide_eq_true_eq, Bool.not_eq_true'] at hascii hcapitals
  rw [← hsegment] at hregular hascii hcapitals hfeed
  have hsome : segment "sub-Category".toList ≠ [] := by
    rw [hsegment]
    decide
  exact ⟨((keepsCapitals_iff hsome hregular).2 hascii).mpr ⟨.inr hcapitals, hfeed⟩, hplural⟩

/-- A capital after the first character is lost. -/
theorem not_keepsCapitals_iPhone :
    segment "iPhone".toList = "iPhone".toList ∧ isIrregular "iPhone".toList = false ∧
      pluralize "iPhone".toList = "iphones".toList ∧
      ¬ KeepsCapitals "iPhone".toList (pluralize "iPhone".toList) := by
  have hfacts : segment "iPhone".toList = "iPhone".toList ∧ isIrregular "iPhone".toList = false ∧
      pluralize "iPhone".toList = "iphones".toList ∧ Rule.of "iPhone".toList = .other ∧
      casedSuffix "iPhone".toList Rule.other.suffix = ['s'] := by
    decide +kernel
  obtain ⟨hsegment, hregular, hplural, hrule, hsuffix⟩ := hfacts
  refine ⟨hsegment, hregular, hplural, ?_⟩
  rintro ⟨left, hleft, hkept⟩
  rw [hsegment, hrule] at hleft hkept
  rw [hplural, hsuffix, ← show "iPhone".toList = left from hleft] at hkept
  exact absurd hkept (by decide)

end Phrasebook.Inflection
