import Phrasebook.Proofs.Crc32
import Phrasebook.Proofs.Key.Hash
import Phrasebook.Proofs.Text.Utf8

namespace Phrasebook.Key

open Text

/-!
# Texts that differ a little

Texts with the same slug are kept apart by their checksums, at any rate where they differ in a few
octets alone:

* `Near` — texts of the same length, in characters and in octets, that differ within four octets;
* `near_of_replaced` — so do texts of which one has another character of the same width in one
  place;
* `Near.exists_checksum_ne` — near texts have different checksums, as the same octets are summed before
  and after those in which they differ;
* `infer_hashed_ne_of_near` — and so have texts that are near once their blanks are normalised, and
  different hashed keys, whatever the limits.
-/

/-- Different texts of the same length, in characters and in octets, that differ only within four
    octets in a row. -/
structure Near (text text' : List Char) : Prop where
  ne : text ≠ text'
  chars : text.length = text'.length
  window : ∃ before window window' after : List UInt8, window.length ≤ 4 ∧
    window.length = window'.length ∧
    Utf8.encode text = .ok (before ++ window ++ after) ∧
    Utf8.encode text' = .ok (before ++ window' ++ after)

/-- A text is near the one in which a character is replaced by another one of the same width. -/
theorem near_of_replaced {before after : List Char} {c c' : Char} (hne : c ≠ c')
    (hwidth : (Utf8.encodeChar c).length = (Utf8.encodeChar c').length)
    (hwhole : Utf8.Whole (before ++ c :: after)) (hc' : isHalf c' = false) :
    Near (before ++ c :: after) (before ++ c' :: after) := by
  obtain ⟨hbefore, hrest⟩ := Utf8.whole_append.mp hwhole
  have hafter : Utf8.Whole after := (List.forall_mem_cons.mp hrest).2
  have hwhole' : Utf8.Whole (before ++ c' :: after) :=
    Utf8.whole_append.mpr ⟨hbefore, List.forall_mem_cons.mpr ⟨hc', hafter⟩⟩
  have hoctets : ∀ d, Utf8.octetsOf (before ++ d :: after) =
      Utf8.octetsOf before ++ Utf8.encodeChar d ++ Utf8.octetsOf after := by
    intro d
    rw [Utf8.octetsOf_append, List.append_assoc]
    rfl
  refine ⟨by simpa using hne, by simp, Utf8.octetsOf before, Utf8.encodeChar c, Utf8.encodeChar c',
    Utf8.octetsOf after, Utf8.length_encodeChar_le c, hwidth, ?_, ?_⟩
  · rw [Utf8.encode_of_whole hwhole, hoctets]
  · rw [Utf8.encode_of_whole hwhole', hoctets]

/-- The octets that are summed: those of the length and a colon, and those of the text. -/
theorem octetsOf_digestInput (text : List Char) :
    Utf8.octetsOf (digestInput text) =
      Utf8.octetsOf (Decimal.natText text.length ++ [':']) ++ Utf8.octetsOf text := by
  rw [← Utf8.octetsOf_append, List.append_assoc]
  rfl

/-- Checksums are equal only where the check values of what is summed are. -/
theorem crc_eq_of_hex_eq {octets octets' : List UInt8}
    (h : hex 8 (Crc32.checksum octets).toNat = hex 8 (Crc32.checksum octets').toNat) :
    Crc32.checksum octets = Crc32.checksum octets' := by
  have hbound : ∀ value : BitVec 32, value.toNat < 16 ^ 8 := fun value => value.isLt
  exact BitVec.eq_of_toNat_eq (hex_injective (hbound _) (hbound _) h)

/-- Near texts have different checksums. -/
theorem Near.exists_checksum_ne {text text' : List Char} (hnear : Near text text') :
    ∃ digest digest', checksum text = .ok digest ∧ checksum text' = .ok digest' ∧
      digest ≠ digest' := by
  obtain ⟨before, window, window', after, hshort, hlength, h, h'⟩ := hnear.window
  obtain ⟨hwhole, hoctets⟩ := Utf8.encode_eq_ok_iff.mp h
  obtain ⟨hwhole', hoctets'⟩ := Utf8.encode_eq_ok_iff.mp h'
  have hwindow : window ≠ window' := by
    rintro rfl
    exact hnear.ne (Utf8.octetsOf_injective (hoctets.symm.trans hoctets'))
  refine ⟨_, _, checksum_of_whole hwhole, checksum_of_whole hwhole', fun heq => ?_⟩
  have hcrc := crc_eq_of_hex_eq heq
  -- The length in front of both texts is the same, so it only adds to what stands before.
  rw [octetsOf_digestInput, octetsOf_digestInput, ← hnear.chars, ← hoctets, ← hoctets',
    ← List.append_assoc, ← List.append_assoc, ← List.append_assoc, ← List.append_assoc] at hcrc
  exact Crc32.checksum_ne_of_burst _ _ hlength hshort hwindow hcrc

/-- Hashed keys end in the checksums, so with them the keys are different under any limits. -/
theorem exists_hashed_ne {text text' digest digest' : List Char} (h : checksum text = .ok digest)
    (h' : checksum text' = .ok digest') (hne : digest ≠ digest') (limit limit' : Int) :
    ∃ key key', hashed text limit = .ok key ∧ hashed text' limit' = .ok key' ∧ key ≠ key' := by
  obtain ⟨start, hstart⟩ := hashed_eq_start_append h limit
  obtain ⟨start', hstart'⟩ := hashed_eq_start_append h' limit'
  refine ⟨_, _, hstart, hstart', fun heq => hne (List.append_inj_right' heq ?_)⟩
  rw [length_checksum h, length_checksum h']

/-- **Texts that differ a little have different hashed keys.**  If two texts, their blanks
    normalised, are different but have as many characters and as many octets, and differ in at most
    four octets in a row, then they have different checksums, and different hashed keys under any
    two limits, whether their slugs differ or not. -/
theorem infer_hashed_ne_of_near {text text' : List Char}
    (hnear : Near (normalise text) (normalise text')) :
    (∃ digest digest', checksum (normalise text) = .ok digest ∧
      checksum (normalise text') = .ok digest' ∧ digest ≠ digest') ∧
    ∀ limit limit', ∃ key key', infer text .hashed limit = .ok key ∧
      infer text' .hashed limit' = .ok key' ∧ key ≠ key' := by
  obtain ⟨digest, digest', h, h', hne⟩ := hnear.exists_checksum_ne
  exact ⟨⟨digest, digest', h, h', hne⟩, exists_hashed_ne h h' hne⟩

/-- Two texts with the same slug, one of them laid out otherwise, have different keys under a limit
    that cuts both and another that cuts neither. -/
theorem infer_hashed_ne_of_near_punctuation :
    Near (normalise "Größe ändern …".toList) (normalise " Größe  ändern ‼".toList) ∧
      slug (normalise "Größe ändern …".toList) = slug (normalise " Größe  ändern ‼".toList) ∧
      infer "Größe ändern …".toList .hashed 12 ≠ infer " Größe  ändern ‼".toList .hashed 12 ∧
      infer "Größe ändern …".toList .hashed 50 ≠ infer " Größe  ändern ‼".toList .hashed 50 := by
  have hnear : Near (normalise "Größe ändern …".toList) (normalise " Größe  ändern ‼".toList) := by
    have hfirst : normalise "Größe ändern …".toList = "Größe ändern ".toList ++ '…' :: [] := by
      decide +kernel
    have hsecond : normalise " Größe  ändern ‼".toList = "Größe ändern ".toList ++ '‼' :: [] := by
      decide +kernel
    rw [hfirst, hsecond]
    exact near_of_replaced (by decide) (by decide +kernel) (by decide) (by decide)
  obtain ⟨_, hkeys⟩ := infer_hashed_ne_of_near hnear
  have hne : ∀ limit, infer "Größe ändern …".toList .hashed limit ≠
      infer " Größe  ändern ‼".toList .hashed limit := by
    intro limit heq
    obtain ⟨key, key', hkey, hkey', hne⟩ := hkeys limit limit
    rw [hkey, hkey', Except.ok.injEq] at heq
    exact hne heq
  exact ⟨hnear, by decide +kernel, hne 12, hne 50⟩

end Phrasebook.Key
