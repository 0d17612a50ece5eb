import Phrasebook.Proofs.Call.Placeholders
import Phrasebook.Proofs.Call.Projection
import Phrasebook.Proofs.Key.Hash

namespace Phrasebook

/-!
# When a call has no translations

The options in force when a call is projected may be any others than those it was constructed under:

* `Call.baseKey_eq_error_iff` — only a hashed key may be wanting, for the halves of surrogate pairs
  in the text;
* `Call.Sound.baseKey_eq_empty_iff` — the key is empty only where it is inferred, the format is the
  underscored one and the text has no solid character;
* `Call.lookup_of_mem_orderedVariants` — only variants that the call has are put in order;
* `Call.translations_error_iff` — so these are the two cases in which a constructed call has no
  translations;
* `Call.translations_lonelyHalf` — a call in the second one.
-/

namespace Call

/-- A call has no key exactly where a hashed one is to be inferred from a text without octets. -/
theorem baseKey_eq_error_iff {values : OptionValues} {c : Call} {e : CallError} :
    c.baseKey values = .error e ↔ c.key = none ∧ values.keyFormat = .hashed ∧
      ∃ halves, Text.Utf8.encode (Key.digestInput (Text.normalise c.default.primaryText.toList)) =
        .error halves ∧ e = .unencodable halves := by
  unfold baseKey
  cases hkey : c.key with
  | some key => simp
  | none =>
    cases hinfer : Key.infer c.default.primaryText.toList values.keyFormat values.maxKeyLength with
    | ok key =>
      have hnone : ∀ halves, ¬ (values.keyFormat = .hashed ∧
          Text.Utf8.encode (Key.digestInput (Text.normalise c.default.primaryText.toList)) =
            .error halves) := by
        intro halves h
        rw [Key.infer_error_iff.mpr h] at hinfer
        cases hinfer
      simp only [reduceCtorEq, false_iff, not_and, not_exists]
      exact fun _ hformat halves hencode => absurd ⟨hformat, hencode⟩ (hnone halves)
    | error halves =>
      obtain ⟨hformat, hencode⟩ := Key.infer_error_iff.mp hinfer
      simp [hformat, hencode, eq_comm]

/-- The key of a sound call is empty exactly where an underscored key is inferred from a text
    without solid characters. -/
theorem Sound.baseKey_eq_empty_iff {c : Call} (hc : c.Sound) {values : OptionValues}
    (hlimit : 0 < values.maxKeyLength) :
    c.baseKey values = .ok "" ↔ c.key = none ∧ values.keyFormat = .underscored ∧
      (Text.lower c.default.primaryText.toList).any Key.isSolid = false := by
  rw [baseKey_eq_ok_iff]
  cases hkey : c.key with
  | some key =>
    obtain ⟨ch, hch, _⟩ := isBlankText_eq_false_iff.mp (hc.key key hkey)
    have hne : key ≠ "" := by
      rintro rfl
      simp at hch
    simp [hne]
  | none =>
    have hprimary : Text.isBlankText c.default.primaryText.toList = false :=
      hc.default.primary hkey
    simp only [reduceCtorEq, false_or, true_and]
    exact Key.infer_eq_nil_iff hlimit hprimary

/-- A call has no translations if it has no key or an empty one. -/
theorem translations_eq_error_iff {values : OptionValues} {c : Call} {e : CallError} :
    c.translations values = .error e ↔ c.baseKey values = .error e ∨
      c.baseKey values = .ok "" ∧
        e = .signature (.emptyKey values.keyFormat c.default.primaryText) c.line := by
  unfold translations
  cases c.baseKey values with
  | error e' => simp
  | ok key =>
    simp only [Except.ok.injEq, reduceCtorEq, false_or, String.isEmpty_iff]
    split
    · rename_i hempty
      simp [hempty, eq_comm]
    · rename_i hne
      cases c.default <;> simp [hne]

/-- Only variants that there are are put in order. -/
theorem lookup_of_mem_orderedVariants {declared : List String} {entries : List (String × String)}
    {e : String × String} (he : e ∈ orderedVariants declared entries) :
    (entries.lookup e.1).isSome = true := by
  unfold orderedVariants at he
  rcases List.mem_append.mp he with he | he
  · obtain ⟨name, _, hname⟩ := List.mem_filterMap.mp he
    obtain ⟨s, hs, rfl⟩ := Option.map_eq_some_iff.mp hname
    simp [hs]
  · have hmem := (List.mem_filter.mp he).1
    rw [List.lookup_isSome_iff]
    exact ⟨e, hmem, by simp⟩

/-- A sound call has no translations if an underscored key is inferred from a text without solid
    characters, or a hashed one from a text without octets. -/
theorem Sound.translations_eq_error_iff {c : Call} (hc : c.Sound) {values : OptionValues}
    (hlimit : 0 < values.maxKeyLength) {e : CallError} :
    c.translations values = .error e ↔
      c.key = none ∧ values.keyFormat = .underscored ∧
        (Text.lower c.default.primaryText.toList).any Key.isSolid = false ∧
        e = .signature (.emptyKey .underscored c.default.primaryText) c.line ∨
      c.key = none ∧ values.keyFormat = .hashed ∧ ∃ halves,
        Text.Utf8.encode (Key.digestInput (Text.normalise c.default.primaryText.toList)) =
          .error halves ∧ e = .unencodable halves := by
  rw [Call.translations_eq_error_iff, baseKey_eq_error_iff, hc.baseKey_eq_empty_iff hlimit, or_comm]
  refine or_congr_left ⟨?_, ?_⟩
  · rintro ⟨⟨hkey, hformat, hsolid⟩, he⟩
    exact ⟨hkey, hformat, hsolid, hformat ▸ he⟩
  · rintro ⟨hkey, hformat, hsolid, he⟩
    exact ⟨⟨hkey, hformat, hsolid⟩, hformat.symm ▸ he⟩

/-- The second happens where there is a half of a surrogate pair in the text. -/
theorem exists_unencodable_iff {text : List Char} :
    (∃ halves, Text.Utf8.encode (Key.digestInput (Text.normalise text)) = .error halves) ↔
      ¬ Text.Utf8.Whole text := by
  rw [← Key.whole_normalise, ← Key.whole_digestInput]
  constructor
  · rintro ⟨halves, herror⟩ hwhole
    rw [Text.Utf8.encode_of_whole hwhole] at herror
    cases herror
  · intro h
    obtain ⟨halves, herror, _⟩ := Text.Utf8.exists_encode_of_not_whole h
    exact ⟨halves, herror⟩

/-- The limit in force in a reachable resolver lets a key have characters. -/
theorem maxKeyLength_pos {r : Resolver} (hr : r.Reachable) : 0 < r.values.maxKeyLength := by
  have hrange : 16 ≤ r.values.maxKeyLength ∧ r.values.maxKeyLength ≤ 1000 :=
    hr.valid.values .maxKeyLength
  omega

/-- **A constructed call has no translations in two cases.**  Whatever the options were when it was
    constructed and are now, in any reachable resolver, projecting it fails only where it has no
    literal key: if the format in force is the underscored one and its primary text in lower case
    has no small ASCII letter and no digit, for an error in the signature with the line of the call;
    and if the format is the hashed one and there are halves of surrogate pairs in the text, for
    these.  So the first case is the only one exactly if the second is not there.  A session answers
    with the error as it is.  No variant is looked up that the call does not have. -/
theorem translations_error_iff {values : OptionValues} {method : String} {line : Option Int}
    {args : List Argument} {c : Call} {r : Resolver}
    (constructed : Call.ofArguments values method line args = .ok c) (hr : r.Reachable) :
    (∀ e, c.translations r.values = .error e ↔
      c.key = none ∧ r.values.keyFormat = .underscored ∧
        (Text.lower c.default.primaryText.toList).any Key.isSolid = false ∧
        e = .signature (.emptyKey .underscored c.default.primaryText) line ∨
      c.key = none ∧ r.values.keyFormat = .hashed ∧ ∃ halves,
        Text.Utf8.encode (Key.digestInput (Text.normalise c.default.primaryText.toList)) =
          .error halves ∧ e = .unencodable halves) ∧
    ((∀ e, c.translations r.values = .error e ↔
      c.key = none ∧ r.values.keyFormat = .underscored ∧
        (Text.lower c.default.primaryText.toList).any Key.isSolid = false ∧
        e = .signature (.emptyKey .underscored c.default.primaryText) line) ↔
      ¬ (c.key = none ∧ r.values.keyFormat = .hashed ∧
        ¬ Text.Utf8.Whole c.default.primaryText.toList)) ∧
    (∀ (s : Session) (id : String) (shared : Bool), s.calls.lookup id = some (c, shared) →
      s.resolverOf shared = .ok r → ∀ e, c.translations r.values = .error e →
        s.translations id = .failed (.call e) ∧ (e.Documented → e.line = line)) ∧
    ∀ entries, c.default = .variants entries →
      (entries.lookup Default.primaryVariant).isSome = true ∧
      ∀ e ∈ orderedVariants r.values.pluralizationKeys entries,
        (entries.lookup e.1).isSome = true := by
  obtain ⟨hsound, hline⟩ := sound_of_ofArguments constructed
  subst hline
  have hcases := fun e => @Sound.translations_eq_error_iff c hsound _ (maxKeyLength_pos hr) e
  refine ⟨hcases, ?_, ?_, ?_⟩
  · rw [← exists_unencodable_iff]
    constructor
    · rintro hsame ⟨hkey, hformat, halves, hencode⟩
      have herror := (hcases _).mpr (.inr ⟨hkey, hformat, halves, hencode, rfl⟩)
      have hother := ((hsame _).mp herror).2.1
      rw [hformat] at hother
      cases hother
    · intro hnone e
      rw [hcases e, or_iff_left]
      rintro ⟨hkey, hformat, halves, hencode, _⟩
      exact hnone ⟨hkey, hformat, halves, hencode⟩
  · intro s id shared hcall hresolver e he
    refine ⟨?_, line_of_translations he⟩
    unfold Session.translations
    simp only [hcall, hresolver, he]
  · intro entries hentries
    exact ⟨hsound.default.essential entries hentries _ (by simp [Default.primaryVariant,
      essentialVariants]), fun e he => lookup_of_mem_orderedVariants he⟩

/-- A text that is not blank and has no placeholders makes a call of its own. -/
theorem constructed_text {d : String} (hd : NotBlank d)
    (hfound : placeholders builtInValues.interpolationSyntax d = []) (line : Option Int) :
    Call.ofArguments builtInValues "t" line [.text d] = .ok ⟨"t", line, none, .text d, []⟩ := by
  refine ofArguments_eq_ok_iff.mpr
    ⟨_, .text d, Signature.resolve_of_fits (.default hd), ?_, rfl⟩
  refine Default.ofArgument_eq_ok_iff.mpr (.inl ⟨d, rfl, rfl, ?_⟩)
  simp [Supplied, hfound]

/-- Once the format has been set to the underscored one, a call with nothing but punctuation has no
    translations. -/
theorem translations_error_punctuation :
    ∃ r : Resolver, r.Reachable ∧
      Call.ofArguments builtInValues "t" (some 3) [.text "?!"] =
        .ok ⟨"t", some 3, none, .text "?!", []⟩ ∧
      (⟨"t", some 3, none, .text "?!", []⟩ : Call).translations r.values =
        .error (.signature (.emptyKey .underscored "?!") (some 3)) := by
  have hbuilt : (Resolver.ofDefaults builtInValues).Reachable := .built Resolver.build_builtIn
  have hset : (Resolver.ofDefaults builtInValues).set (.text "inferredKeyFormat")
      (.text "underscored") =
        .ok ((Resolver.ofDefaults builtInValues).write (.keyFormat .underscored)) :=
    hbuilt.valid.set_toValue (s := .keyFormat .underscored) rfl trivial
  have hr := hbuilt.set hset
  have hconstructed := constructed_text (d := "?!") ⟨'?', by decide, by decide⟩
    (placeholders_builtIn_eq_nil (by decide)) (some 3)
  have herror := (translations_error_iff hconstructed hr).1
  exact ⟨_, hr, hconstructed, (herror _).mpr (.inl ⟨rfl, rfl, by decide, rfl⟩)⟩

/-- A word and half of a surrogate pair. -/
def lonelyHalf : String := String.ofList ("Save ".toList ++ [Text.ofCode 0xD83D])

/-- Under the built-in defaults a call with that text is constructed and has no translations, though
    the format is not the underscored one. -/
theorem translations_lonelyHalf :
    (Resolver.ofDefaults builtInValues).Reachable ∧
      (Resolver.ofDefaults builtInValues).values.keyFormat = .hashed ∧
      Call.ofArguments (Resolver.ofDefaults builtInValues).values "t" (some 3) [.text lonelyHalf] =
        .ok ⟨"t", some 3, none, .text lonelyHalf, []⟩ ∧
      (⟨"t", some 3, none, .text lonelyHalf, []⟩ : Call).translations
        (Resolver.ofDefaults builtInValues).values = .error (.unencodable ⟨7, 1⟩) ∧
      ¬ (CallError.unencodable ⟨7, 1⟩).Documented := by
  have hconstructed := constructed_text (d := lonelyHalf) ⟨'S', by decide, by decide⟩
    (placeholders_builtIn_eq_nil (by decide)) (some 3)
  refine ⟨.built Resolver.build_builtIn, rfl, hconstructed, ?_, fun h => h⟩
  refine translations_eq_error_iff.mpr (.inl (baseKey_eq_error_iff.mpr ⟨rfl, rfl, _, ?_, rfl⟩))
  decide

end Call

end Phrasebook
