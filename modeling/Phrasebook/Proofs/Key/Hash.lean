import Mathlib.Algebra.Group.Nat.Defs
import Phrasebook.Proofs.Key.Slug
import Phrasebook.Proofs.Text.Utf8

namespace Phrasebook.Key

open Text

/-!
# Hashed keys and the limit

A limit cuts the slug of a key and never its checksum:

* `mem_hexDigits_of_mem_hex`, `hex_injective` — fixed-width hexadecimal digits, and the numbers that
  they tell apart;
* `checksum_of_whole`, `exists_checksum_iff` — the texts without halves of surrogate pairs have a
  checksum, and no others do;
* `cutSlug_prefix`, `length_cutSlug_le`, `getLast?_cutSlug_ne` — a cut slug is a start of the slug
  within the limit, and does not end in an underscore;
* `hashed_eq_start_append`, `hashed_eq_checksum_iff` — a hashed key ends in the checksum, and is
  nothing else where there is no slug or no room for one;
* `length_infer_le` — a limit that has room for a checksum is kept in every format;
* `infer_error_iff`, `exists_infer_iff` — and a text has a key in all of them but the hashed one, and
  in that one too if it has a checksum.
-/

/-! ### Hexadecimal digits -/

/-- The lower-case hexadecimal digits. -/
def hexDigits : List Char := "0123456789abcdef".toList

/-- The digits of a number are among them. -/
theorem mem_hexDigits_of_mem_hex {width n : Nat} {c : Char} (h : c ∈ hex width n) :
    c ∈ hexDigits := by
  have hdigit : ∀ m < 16, Nat.digitChar m ∈ hexDigits := by decide
  induction width generalizing n with
  | zero => cases h
  | succ width ih =>
    rcases List.mem_append.mp h with h | h
    · exact ih h
    · rw [List.mem_singleton.mp h]
      exact hdigit _ (Nat.mod_lt n (by decide))

/-- Numbers that fit into the width have different digits. -/
theorem hex_injective {width m n : Nat} (hm : m < 16 ^ width) (hn : n < 16 ^ width)
    (h : hex width m = hex width n) : m = n := by
  have hdigit : ∀ i < 16, ∀ j < 16, Nat.digitChar i = Nat.digitChar j → i = j := by decide
  induction width generalizing m n with
  | zero => omega
  | succ width ih =>
    rw [Nat.pow_succ] at hm hn
    obtain ⟨hhigh, hlow⟩ := List.append_inj' h rfl
    have hquotient : m / 16 = n / 16 := ih (by omega) (by omega) hhigh
    have hremainder : m % 16 = n % 16 :=
      hdigit _ (Nat.mod_lt m (by decide)) _ (Nat.mod_lt n (by decide)) (List.singleton_inj.mp hlow)
    omega

/-! ### Checksums -/

/-- There is no half among the digits of a length. -/
theorem whole_natText (n : Nat) : Utf8.Whole (Decimal.natText n) := by
  intro c hc
  have hdigit : c.isDigit = true := Nat.isDigit_of_mem_toDigits (by decide) (by decide) hc
  have hnine : c.toNat ≤ 57 := by
    simp only [Char.isDigit, Bool.and_eq_true, decide_eq_true_eq] at hdigit
    exact hdigit.2
  exact Utf8.not_isHalf_of_lt (by omega)

/-- The length in front of a text adds no halves. -/
theorem whole_digestInput {text : List Char} : Utf8.Whole (digestInput text) ↔ Utf8.Whole text := by
  unfold digestInput
  rw [Utf8.whole_append, and_iff_right (whole_natText _), Utf8.Whole, List.forall_mem_cons,
    and_iff_right (by decide)]
  rfl

/-- Nor are there any among blanks. -/
theorem whole_normalise {text : List Char} : Utf8.Whole (normalise text) ↔ Utf8.Whole text := by
  have hspace : isHalf ' ' = false := by decide
  constructor
  · -- A half is no blank, so it would be kept.
    intro h c hc
    by_contra hhalf
    rw [Bool.not_eq_false] at hhalf
    have hblank : isBlank c = false := by
      by_contra hblank
      rw [Bool.not_eq_false] at hblank
      have hnone : ∀ n ∈ blankCodes, n < 0xDD800 := by decide
      rw [Utf8.not_isHalf_of_lt (hnone _ (toNat_mem_blankCodes hblank))] at hhalf
      cases hhalf
    have hkept := (mem_normalise (ne_space_of_not_blank hblank)).mpr ⟨hc, hblank⟩
    rw [h c hkept] at hhalf
    cases hhalf
  · intro h c hc
    by_cases hne : c = ' '
    · rw [hne]
      exact hspace
    · exact h c ((mem_normalise hne).mp hc).1

/-- The checksum of a text without halves is that of the octets of the text and its length. -/
theorem checksum_of_whole {text : List Char} (h : Utf8.Whole text) :
    checksum text =
      .ok (hex 8 (Crc32.checksum (Utf8.octetsOf (digestInput text))).toNat) := by
  unfold checksum
  rw [Utf8.encode_of_whole (whole_digestInput.mpr h)]

/-- A text with halves has none, as it has no octets. -/
theorem exists_checksum_error {text : List Char} (h : ¬ Utf8.Whole text) :
    ∃ halves, Utf8.encode (digestInput text) = .error halves ∧ checksum text = .error halves := by
  have hinput : ¬ Utf8.Whole (digestInput text) := fun hwhole => h (whole_digestInput.mp hwhole)
  obtain ⟨halves, herror, _⟩ := Utf8.exists_encode_of_not_whole hinput
  refine ⟨halves, herror, ?_⟩
  unfold checksum
  rw [herror]

/-- The texts that have a checksum are those without halves. -/
theorem exists_checksum_iff {text : List Char} :
    (∃ digest, checksum text = .ok digest) ↔ Utf8.Whole text := by
  constructor
  · rintro ⟨digest, hdigest⟩
    by_contra h
    obtain ⟨halves, _, herror⟩ := exists_checksum_error h
    rw [hdigest] at herror
    cases herror
  · exact fun h => ⟨_, checksum_of_whole h⟩

/-- The digits of a checksum are hexadecimal. -/
theorem mem_hexDigits_of_mem_checksum {text digest : List Char} (h : checksum text = .ok digest)
    {c : Char} (hc : c ∈ digest) : c ∈ hexDigits := by
  unfold checksum at h
  split at h
  · cases h
    exact mem_hexDigits_of_mem_hex hc
  · cases h

/-! ### Cut slugs -/

/-- A cut slug is a start of the slug. -/
theorem cutSlug_prefix (slug : List Char) (limit : Int) : cutSlug slug limit <+: slug := by
  unfold cutSlug
  split
  · exact (List.rdropWhile_prefix _ _).trans (List.take_prefix _ _)
  · exact List.nil_prefix

/-- Without room nothing of it is left. -/
theorem cutSlug_of_nonpos (slug : List Char) {limit : Int} (hlimit : limit ≤ 0) :
    cutSlug slug limit = [] :=
  if_neg (by omega)

/-- It is within the limit. -/
theorem length_cutSlug_le (slug : List Char) (limit : Int) :
    (cutSlug slug limit).length ≤ limit.toNat := by
  unfold cutSlug
  split
  · exact (List.rdropWhile_prefix _ _).length_le.trans (List.length_take_le _ _)
  · exact Nat.zero_le _

/-- It does not end in an underscore. -/
theorem getLast?_cutSlug_ne (slug : List Char) (limit : Int) :
    (cutSlug slug limit).getLast? ≠ some '_' := by
  unfold cutSlug
  split
  · intro h
    exact absurd (getLast?_trimEndBy h) (by decide)
  · simp

/-- The start of a slug does not begin with an underscore. -/
theorem head?_ne_of_prefix_slug {start text : List Char} (h : start <+: slug text) :
    start.head? ≠ some '_' := by
  cases start with
  | nil => simp
  | cons c rest =>
    obtain ⟨more, hmore⟩ := h
    have hslug : trimBy (· == '_') (replaceUnsafe (lower text)) = c :: (rest ++ more) := hmore.symm
    simpa using head_trimBy hslug

/-! ### Hashed keys -/

/-- A hashed key is the checksum, or the cut slug with the checksum behind it. -/
theorem hashed_eq {text digest : List Char} (h : checksum text = .ok digest) (limit : Int) :
    hashed text limit =
      .ok (if cutSlug (slug text) (limit - hashLength) = [] then digest
        else cutSlug (slug text) (limit - hashLength) ++ '_' :: digest) := by
  unfold hashed
  simp only [h, List.isEmpty_iff]

/-- A text without a checksum has no hashed key. -/
theorem hashed_of_checksum_error {text : List Char} {halves : Utf8.Halves}
    (h : checksum text = .error halves) (limit : Int) : hashed text limit = .error halves := by
  unfold hashed
  simp only [h]

/-- Whatever the limit, it ends in the checksum. -/
theorem hashed_eq_start_append {text digest : List Char} (h : checksum text = .ok digest)
    (limit : Int) : ∃ start, hashed text limit = .ok (start ++ digest) := by
  rw [hashed_eq h]
  split
  · exact ⟨[], rfl⟩
  · exact ⟨cutSlug (slug text) (limit - hashLength) ++ ['_'], by simp⟩

/-- It is nothing but the checksum exactly where there is no slug or no room for one. -/
theorem hashed_eq_checksum_iff {text digest : List Char} (h : checksum text = .ok digest)
    (limit : Int) : hashed text limit = .ok digest ↔ slug text = [] ∨ limit ≤ 9 := by
  have hempty : cutSlug (slug text) (limit - hashLength) = [] ↔ slug text = [] ∨ limit ≤ 9 := by
    by_cases hlimit : limit ≤ 9
    · have hroom : limit - hashLength ≤ 0 := Int.sub_nonpos_of_le hlimit
      rw [cutSlug_of_nonpos _ hroom, eq_self, true_iff]
      exact .inr hlimit
    · have hroom : 0 < limit - hashLength := Int.sub_pos_of_lt (Int.not_le.mp hlimit)
      rw [cutSlug_eq_nil_iff hroom, or_iff_left hlimit]
  rw [hashed_eq h, ← hempty]
  split
  · rename_i hnone
    simp [hnone]
  · rename_i hsome
    refine iff_of_false (fun heq => ?_) hsome
    have hlength := congrArg List.length (Except.ok.inj heq)
    rw [List.length_append, List.length_cons] at hlength
    omega

/-! ### Limits -/

/-- A hashed key keeps a limit that has room for a checksum. -/
theorem length_hashed_le {text key : List Char} {limit : Int} (hlimit : 8 ≤ limit)
    (h : hashed text limit = .ok key) : (key.length : Int) ≤ limit := by
  cases hchecksum : checksum text with
  | error halves =>
    rw [hashed_of_checksum_error hchecksum] at h
    cases h
  | ok digest =>
    have height := length_checksum hchecksum
    rw [hashed_eq hchecksum, Except.ok.injEq] at h
    subst h
    split
    · omega
    · rename_i hsome
      -- There is a slug, so there is room for it, and the checksum takes the room that it was left.
      have hroom : 0 < limit - hashLength := by
        by_contra hnone
        exact hsome (cutSlug_of_nonpos _ (Int.not_lt.mp hnone))
      have hcut := length_cutSlug_le (slug text) (limit - hashLength)
      rw [List.length_append, List.length_cons, height]
      simp only [hashLength] at hroom hcut ⊢
      omega

/-- So does a key of any format. -/
theorem length_infer_le {text key : List Char} {format : KeyFormat} {limit : Int}
    (hlimit : 8 ≤ limit) (h : infer text format limit = .ok key) : (key.length : Int) ≤ limit := by
  unfold infer at h
  cases format with
  | literal =>
    cases h
    have hcut := List.length_take_le limit.toNat (normalise text)
    rw [literal, cut, if_pos (by omega)]
    omega
  | underscored =>
    cases h
    have hcut := length_cutSlug_le (slug (normalise text)) limit
    show ((cutSlug (slug (normalise text)) limit).length : Int) ≤ limit
    omega
  | hashed => exact length_hashed_le hlimit h

/-- A text has no key only in the hashed format, and there only if it has no checksum. -/
theorem infer_error_iff {text : List Char} {format : KeyFormat} {limit : Int}
    {halves : Utf8.Halves} :
    infer text format limit = .error halves ↔
      format = .hashed ∧ Utf8.encode (digestInput (normalise text)) = .error halves := by
  unfold infer
  cases format with
  | literal => simp [keyify]
  | underscored => simp [keyify]
  | hashed =>
    show hashed (normalise text) limit = .error halves ↔ _
    unfold hashed checksum
    cases Utf8.encode (digestInput (normalise text)) <;> simp

/-- So the texts that have a key are all of them, or in the hashed format those without halves. -/
theorem exists_infer_iff {text : List Char} {format : KeyFormat} {limit : Int} :
    (∃ key, infer text format limit = .ok key) ↔ (format = .hashed → Utf8.Whole text) := by
  constructor
  · rintro ⟨key, hkey⟩ rfl
    by_contra h
    obtain ⟨halves, hencode, _⟩ := exists_checksum_error (mt whole_normalise.mp h)
    rw [infer_error_iff.mpr ⟨rfl, hencode⟩] at hkey
    cases hkey
  · intro h
    cases hinfer : infer text format limit with
    | ok key => exact ⟨key, rfl⟩
    | error halves =>
      obtain ⟨hformat, hencode⟩ := infer_error_iff.mp hinfer
      have hwhole := whole_digestInput.mpr (whole_normalise.mpr (h hformat))
      rw [Utf8.encode_of_whole hwhole] at hencode
      cases hencode

end Phrasebook.Key
