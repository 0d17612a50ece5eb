import Phrasebook.Key
import Phrasebook.Proofs.Text.Blank
import Phrasebook.Proofs.Text.Case

namespace Phrasebook.Key

open Text

/-!
# Slugs and empty keys

A slug has the small letters and the digits of a text and underscores in place of all else, so it is
empty exactly where there are none:

* `isSolid` — the characters that stand for themselves in a slug;
* `mem_replaceUnsafe_iff` — a text has them before and after the replacement;
* `slug_eq_nil_iff`, `cutSlug_eq_nil_iff` — which slugs are empty, and that no cut empties one;
* `infer_eq_nil_iff` — of the keys of texts that are not blank, only an underscored one is ever
  empty.
-/

/-- The characters that stand for themselves in a slug: small ASCII letters and digits. -/
def isSolid (c : Char) : Bool := c.isLower || c.isDigit

/-- A safe character is solid or the underscore. -/
theorem isSafe_iff {c : Char} : isSafe c = true ↔ isSolid c = true ∨ c = '_' := by
  simp [isSafe, isSolid]

/-- The underscore is not solid. -/
theorem ne_underscore_of_isSolid {c : Char} (h : isSolid c = true) : c ≠ '_' := by
  rintro rfl
  exact absurd h (by decide)

/-- Blanks are not solid. -/
theorem isSolid_of_isBlank {c : Char} (h : isBlank c = true) : isSolid c = false := by
  have hall : ∀ n ∈ blankCodes, isSolid (Char.ofNat n) = false := by decide +kernel
  have hc := hall c.toNat (toNat_mem_blankCodes h)
  rwa [Char.ofNat_toNat] at hc

/-! ### Slugs -/

/-- No safe character is an unsafe one at the start of a text. -/
theorem mem_cons_of_not_isSafe {c d : Char} {rest : List Char} (hd : ¬ isSafe d = true) :
    c ∈ d :: rest ∧ isSafe c = true ↔ c ∈ rest ∧ isSafe c = true := by
  refine and_congr_left fun hsafe => ?_
  have hne : c ≠ d := fun h => hd (h ▸ hsafe)
  simp [hne]

/-- Replacing keeps the safe characters, and adds none but underscores. -/
theorem mem_replaceUnsafe_iff {c : Char} {text : List Char} (hc : c ≠ '_') :
    c ∈ replaceUnsafe text ↔ c ∈ text ∧ isSafe c = true := by
  -- A run of unsafe characters becomes an underscore at its last one, and nothing before.
  fun_induction replaceUnsafe text with
  | case1 => simp
  | case2 d rest hd ih =>
    rw [List.mem_cons, ih, List.mem_cons]
    constructor
    · rintro (rfl | ⟨hmem, hsafe⟩)
      · exact ⟨.inl rfl, hd⟩
      · exact ⟨.inr hmem, hsafe⟩
    · rintro ⟨rfl | hmem, hsafe⟩
      · exact .inl rfl
      · exact .inr ⟨hmem, hsafe⟩
  | case3 d hd =>
    rw [mem_cons_of_not_isSafe hd]
    simp [hc]
  | case4 d hd e rest he ih =>
    rw [mem_cons_of_not_isSafe hd, List.mem_cons, or_iff_right hc]
    exact ih
  | case5 d hd e rest he ih =>
    rw [mem_cons_of_not_isSafe hd]
    exact ih

/-- A slug is empty exactly where the lower-case text has no solid character. -/
theorem slug_eq_nil_iff {text : List Char} :
    slug text = [] ↔ (lower text).any isSolid = false := by
  unfold slug
  rw [trimBy_eq_nil_iff, List.any_eq_false]
  constructor
  · intro h c hc hsolid
    have hne := ne_underscore_of_isSolid hsolid
    have hmem := (mem_replaceUnsafe_iff hne).mpr ⟨hc, isSafe_iff.mpr (.inl hsolid)⟩
    exact hne (by simpa using h c hmem)
  · intro h c hc
    by_contra hne
    have hne : c ≠ '_' := by simpa using hne
    obtain ⟨hlower, hsafe⟩ := (mem_replaceUnsafe_iff hne).mp hc
    exact h c hlower ((isSafe_iff.mp hsafe).resolve_right hne)

/-- No cut empties a slug. -/
theorem cutSlug_eq_nil_iff {text : List Char} {limit : Int} (hlimit : 0 < limit) :
    cutSlug (slug text) limit = [] ↔ slug text = [] := by
  unfold cutSlug
  rw [if_pos hlimit, trimEndBy_eq_nil_iff]
  cases hslug : slug text with
  | nil => simp
  | cons c rest =>
    unfold slug at hslug
    -- The first character is no underscore, and the cut keeps it.
    have hne : c ≠ '_' := by simpa using head_trimBy hslug
    obtain ⟨n, hn⟩ : ∃ n, limit.toNat = n + 1 := ⟨limit.toNat - 1, by omega⟩
    simp [hn, hne]

/-! ### Keys -/

/-- Hexadecimal digits are as many as are asked for. -/
theorem length_hex (width n : Nat) : (hex width n).length = width := by
  induction width generalizing n with
  | zero => rfl
  | succ width ih => simp [hex, ih]

/-- A checksum has eight digits. -/
theorem length_checksum {text digest : List Char} (h : checksum text = .ok digest) :
    digest.length = 8 := by
  unfold checksum at h
  split at h
  · cases h
    exact length_hex 8 _
  · cases h

/-- A hashed key has a checksum at least. -/
theorem hashed_ne_nil {text key : List Char} {limit : Int} (h : hashed text limit = .ok key) :
    key ≠ [] := by
  unfold hashed at h
  dsimp only at h
  split at h
  · rename_i digest hdigest
    cases h
    split
    · exact List.ne_nil_of_length_eq_add_one (length_checksum hdigest)
    · simp
  · cases h

/-- Normalising changes nothing about the solid characters of a lower-case text. -/
theorem any_isSolid_lower_normalise (text : List Char) :
    (lower (normalise text)).any isSolid = (lower text).any isSolid := by
  -- A character that is lowered to a solid one is not blank, and the forms of sigma are not solid.
  have hkept : ∀ {c d}, d ∈ lowerChar c → isSolid d = true → isBlank c = false := by
    intro c d hd hsolid
    by_contra hblank
    rw [Bool.not_eq_false] at hblank
    rw [lowerChar_of_blank hblank, List.mem_singleton] at hd
    rw [hd, isSolid_of_isBlank hblank] at hsolid
    cases hsolid
  rw [Bool.eq_iff_iff, List.any_eq_true, List.any_eq_true]
  refine exists_congr fun d => and_congr_left fun hsolid => ?_
  have hfinal : d ≠ 'ς' := by
    rintro rfl
    exact absurd hsolid (by decide)
  have hmiddle : d ≠ 'σ' := by
    rintro rfl
    exact absurd hsolid (by decide)
  rw [mem_lower hfinal hmiddle, mem_lower hfinal hmiddle]
  refine exists_congr fun c => and_congr_left fun hd => ?_
  have hblank := hkept hd hsolid
  rw [mem_normalise (ne_space_of_not_blank hblank)]
  exact and_iff_left hblank

/-- Normalising leaves something of a text that is not blank. -/
theorem normalise_ne_nil {text : List Char} (hblank : isBlankText text = false) :
    normalise text ≠ [] := by
  obtain ⟨c, hmem, hc⟩ : ∃ c ∈ text, isBlank c = false := by
    simpa [isBlankText] using hblank
  exact List.ne_nil_of_mem ((mem_normalise (ne_space_of_not_blank hc)).mpr ⟨hmem, hc⟩)

/-- Of the keys of texts that are not blank, only an underscored one is empty, namely where the
    lower-case text has no solid character. -/
theorem infer_eq_nil_iff {text : List Char} {format : KeyFormat} {limit : Int}
    (hlimit : 0 < limit) (hblank : isBlankText text = false) :
    infer text format limit = .ok [] ↔
      format = .underscored ∧ (lower text).any isSolid = false := by
  unfold infer
  cases format with
  | literal =>
    have hne := normalise_ne_nil hblank
    have hpositive : limit.toNat ≠ 0 := by omega
    simp [keyify, literal, cut, Int.le_of_lt hlimit, hne, hpositive]
  | underscored =>
    show Except.ok (cutSlug (slug (normalise text)) limit) = .ok [] ↔ _
    rw [Except.ok.injEq, cutSlug_eq_nil_iff hlimit, slug_eq_nil_iff, any_isSolid_lower_normalise]
    exact (and_iff_right rfl).symm
  | hashed =>
    refine iff_of_false (fun h => ?_) (by simp)
    exact hashed_ne_nil (show hashed (normalise text) limit = .ok [] from h) rfl

end Phrasebook.Key
