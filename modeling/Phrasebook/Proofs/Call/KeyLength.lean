import Phrasebook.Proofs.Call.Projection
import Phrasebook.Proofs.Call.Translations
import Phrasebook.Proofs.Key.Hash

namespace Phrasebook

/-!
# The length of inferred keys

The limit on keys applies to what is inferred from a text, before the name of a variant is added:

* `Call.length_baseKey_le` — an inferred key is within the limit of a reachable resolver;
* `Call.limit_kept_and_hash_whole` — which texts have keys, which limits these are within, and what
  a limit leaves of a hashed one.
-/

namespace Call

/-- An inferred key is within the limit that is in force. -/
theorem length_baseKey_le {c : Call} (hkey : c.key = none) {r : Resolver} (hr : r.Reachable)
    {base : String} (hbase : c.baseKey r.values = .ok base) :
    (base.length : Int) ≤ r.values.maxKeyLength := by
  have hrange : 16 ≤ r.values.maxKeyLength ∧ r.values.maxKeyLength ≤ 1000 :=
    hr.valid.values .maxKeyLength
  rw [baseKey_eq_ok_iff, hkey] at hbase
  obtain ⟨⟨⟩⟩ | ⟨_, hinfer⟩ := hbase
  have hlength := Key.length_infer_le (by omega) hinfer
  rwa [String.length_toList] at hlength

/-- **A limit is kept, and no checksum is cut for it.**  Any text has a key that is inferred in any
    format, with no more characters than any limit from eight on, and it has a checksum of eight
    hexadecimal digits, exactly unless halves of surrogate pairs stand in it, and then it has no
    checksum and no hashed key.  Under any limit, negative ones among them, a hashed key is the
    checksum alone, all of it, if there is no slug or the limit is at most nine, and otherwise it is
    a start of the slug, an underscore and the checksum, the start being neither empty nor with an
    underscore at either end.  So in any reachable resolver the base of all keys of a call without a
    literal key and with that primary text is within the limit. -/
theorem limit_kept_and_hash_whole (text : List Char) :
    (∀ format (limit : Int), 8 ≤ limit →
      ((∃ key, Key.infer text format limit = .ok key ∧ (key.length : Int) ≤ limit) ↔
        (format = .hashed → Text.Utf8.Whole text))) ∧
    ((∃ digest, Key.checksum text = .ok digest ∧ digest.length = 8 ∧
      ∀ digit ∈ digest, digit ∈ "0123456789abcdef".toList) ↔ Text.Utf8.Whole text) ∧
    (¬ Text.Utf8.Whole text → ∃ halves, Key.checksum text = .error halves ∧
      ∀ limit, Key.hashed text limit = .error halves) ∧
    (∀ digest, Key.checksum text = .ok digest → ∀ limit : Int,
      (Key.hashed text limit = .ok digest ↔ Key.slug text = [] ∨ limit ≤ 9) ∧
      (Key.hashed text limit = .ok digest ∨
        ∃ start, start ≠ [] ∧ start <+: Key.slug text ∧ start.head? ≠ some '_' ∧
          start.getLast? ≠ some '_' ∧
          Key.hashed text limit = .ok (start ++ '_' :: digest))) ∧
    ∀ (c : Call) (r : Resolver) pairs, c.key = none → c.default.primaryText.toList = text →
      r.Reachable → c.translations r.values = .ok pairs → ∃ base, c.baseKey r.values = .ok base ∧
        (base.length : Int) ≤ r.values.maxKeyLength ∧
        (∀ s, c.default = .text s → pairs = [(base, s)]) ∧
        ∀ entries, c.default = .variants entries → ∀ p ∈ pairs, ∃ name,
          (entries.lookup name).isSome = true ∧ p.1 = base ++ "." ++ name := by
  refine ⟨fun format limit hlimit => ?_, ?_, fun h => ?_,
    fun digest h limit => ⟨Key.hashed_eq_checksum_iff h limit, ?_⟩, ?_⟩
  · rw [← Key.exists_infer_iff]
    exact exists_congr fun key => and_iff_left_of_imp (Key.length_infer_le hlimit)
  · rw [← Key.exists_checksum_iff]
    exact exists_congr fun digest => and_iff_left_of_imp fun h =>
      ⟨Key.length_checksum h, fun _ => Key.mem_hexDigits_of_mem_checksum h⟩
  · obtain ⟨halves, _, herror⟩ := Key.exists_checksum_error h
    exact ⟨halves, herror, Key.hashed_of_checksum_error herror⟩
  · rw [Key.hashed_eq h]
    split
    · exact .inl rfl
    · rename_i hsome
      have hprefix := Key.cutSlug_prefix (Key.slug text) (limit - Key.hashLength)
      exact .inr ⟨_, hsome, hprefix, Key.head?_ne_of_prefix_slug hprefix,
        Key.getLast?_cutSlug_ne _ _, rfl⟩
  · intro c r pairs hkey _ hr success
    obtain ⟨base, hbase, _, hpairs⟩ := translations_eq_ok_iff.mp success
    refine ⟨base, hbase, length_baseKey_le hkey hr hbase, fun s hs => ?_,
      fun entries hentries p hp => ?_⟩
    · rcases hpairs with ⟨t, ht, rfl⟩ | ⟨entries, hentries, _⟩
      · cases ht.symm.trans hs
        rfl
      · cases hentries.symm.trans hs
    · rcases hpairs with ⟨t, ht, _⟩ | ⟨entries', hentries', rfl⟩
      · cases ht.symm.trans hentries
      · cases hentries'.symm.trans hentries
        obtain ⟨e, he, rfl⟩ := List.mem_map.mp hp
        exact ⟨e.1, lookup_of_mem_orderedVariants he, rfl⟩

/-- A limit of eight is kept by a hashed key, and the least limit that can be set by the keys of a
    plural call. -/
theorem limit_kept_and_hash_whole_cart :
    (8 : Int) ≤ 8 ∧ Text.Utf8.Whole "zOmg key!!".toList ∧
      (∃ key, Key.infer "zOmg key!!".toList .hashed 8 = .ok key ∧ (key.length : Int) ≤ 8) ∧
      cart.key = none ∧ ∃ r : Resolver, r.Reachable ∧ r.values.maxKeyLength = 16 ∧
        cart.translations r.values = .ok
          [("count_i_5ad2c21e.one", "one of %\x7bname\x7d"),
            ("count_i_5ad2c21e.few", "some %\x7bname\x7d"),
            ("count_i_5ad2c21e.other", "%\x7b count \x7d items of %\x7bname\x7d")] ∧
        ∃ base, cart.baseKey r.values = .ok base ∧ (base.length : Int) ≤ 16 := by
  have hbuilt : (Resolver.ofDefaults builtInValues).Reachable := .built Resolver.build_builtIn
  have hset : (Resolver.ofDefaults builtInValues).set (.text "maxKeyLength") (.int 16) =
      .ok ((Resolver.ofDefaults builtInValues).write (.maxKeyLength 16)) :=
    hbuilt.valid.set_toValue (s := .maxKeyLength 16) rfl ⟨by decide, by decide⟩
  have hr := hbuilt.set hset
  have hpairs : cart.translations
      ((Resolver.ofDefaults builtInValues).write (.maxKeyLength 16)).values = .ok
        [("count_i_5ad2c21e.one", "one of %\x7bname\x7d"),
          ("count_i_5ad2c21e.few", "some %\x7bname\x7d"),
          ("count_i_5ad2c21e.other", "%\x7b count \x7d items of %\x7bname\x7d")] :=
    eq_ok_of_toOption (by decide +kernel)
  have hwhole : Text.Utf8.Whole "zOmg key!!".toList := by decide
  obtain ⟨hcap, _⟩ := limit_kept_and_hash_whole "zOmg key!!".toList
  obtain ⟨_, _, _, _, hcalls⟩ := limit_kept_and_hash_whole cart.default.primaryText.toList
  obtain ⟨base, hbase, hlength, _⟩ := hcalls cart _ _ rfl rfl hr hpairs
  exact ⟨Int.le_refl 8, hwhole, (hcap _ 8 (Int.le_refl 8)).mpr fun _ => hwhole, rfl, _, hr, rfl,
    hpairs, base, hbase, hlength⟩

/-- A text with half of a surrogate pair has no checksum, and no hashed key under any limit. -/
theorem checksum_lonelyHalf :
    Key.checksum lonelyHalf.toList = .error ⟨7, 1⟩ ∧
      ∀ limit, Key.infer lonelyHalf.toList .hashed limit = .error ⟨7, 1⟩ := by
  have hnormal : Text.normalise lonelyHalf.toList = lonelyHalf.toList := by decide
  have hchecksum : Key.checksum lonelyHalf.toList = .error ⟨7, 1⟩ := by decide
  refine ⟨hchecksum, fun limit => ?_⟩
  show Key.hashed (Text.normalise lonelyHalf.toList) limit = .error ⟨7, 1⟩
  rw [hnormal]
  exact Key.hashed_of_checksum_error hchecksum limit

/-- The least limit that leaves something of a slug leaves one character. -/
example : Key.hashed "zOmg key!!".toList 10 = .ok "z_90a85b0b".toList := by decide +kernel

end Call

end Phrasebook
