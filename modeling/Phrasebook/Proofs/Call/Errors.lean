import Phrasebook.Proofs.Call.Projection
import Phrasebook.Proofs.Pattern.Matching

namespace Phrasebook

/-!
# Errors of calls

A call is documented to fail with errors of six kinds.  One more gets through: the interpolation
pattern may match without its group, and then there is no placeholder to look for.

* `checkTexts_eq_emptyCapture_iff` — texts fail for a placeholder without a name if the pattern
  matches without its group before it captures a name that the bag has no value for;
* `documented_of_pluralVariants`, `documented_of_checkTexts` — what else the checks fail with;
* `Argument.Presentable` — a default that only its placeholders can still make fail;
* `Default.documented_of_ofArgument`, `Call.documented_of_ofArguments` — so defaults and calls fail
  with documented errors, or there;
* `Call.error_taxonomy` — a call fails with an undocumented error exactly then, and never under a
  pattern that secures its group;
* `Call.emptyCapture_of_skippedGroup` — a call that does.
-/

variable {line : Option Int}

/-! ### Placeholders -/

/-- Placeholders are checked in order. -/
theorem checkPlaceholders_append (options : Entries) (found more : List (Option String)) :
    checkPlaceholders line options (found ++ more) =
      match checkPlaceholders line options found with
      | .ok () => checkPlaceholders line options more
      | .error e => .error e := by
  induction found with
  | nil => rfl
  | cons p rest ih =>
    cases p with
    | none => rfl
    | some name =>
      rw [List.cons_append, checkPlaceholders, checkPlaceholders]
      split
      · exact ih
      · rfl

/-- Texts are checked as all their placeholders are, text by text. -/
theorem checkTexts_eq_checkPlaceholders (interpolation : String) (options : Entries)
    (texts : List String) :
    checkTexts line interpolation options texts =
      checkPlaceholders line options (texts.flatMap (placeholders interpolation)) := by
  induction texts with
  | nil => rfl
  | cons text rest ih =>
    rw [checkTexts, List.flatMap_cons, checkPlaceholders_append]
    cases checkPlaceholders line options (placeholders interpolation text) with
    | ok _ => exact ih
    | error e => rfl

/-- Placeholders fail without a name if there is one without a name, and those before it have
    values. -/
theorem checkPlaceholders_eq_emptyCapture_iff {options : Entries} {found : List (Option String)} :
    checkPlaceholders line options found = .error .emptyCapture ↔
      ∃ before after, found = before ++ none :: after ∧
        ∀ p ∈ before, ∃ name, p = some name ∧ options.contains (.text name) = true := by
  constructor
  · intro h
    induction found with
    | nil => cases h
    | cons p rest ih =>
      cases p with
      | none => exact ⟨[], rest, rfl, fun p hp => by cases hp⟩
      | some name =>
        rw [checkPlaceholders] at h
        split at h
        · rename_i hname
          obtain ⟨before, after, rfl, hbefore⟩ := ih h
          refine ⟨some name :: before, after, rfl, ?_⟩
          exact List.forall_mem_cons.mpr ⟨⟨name, rfl, hname⟩, hbefore⟩
        · cases h
  · rintro ⟨before, after, rfl, hbefore⟩
    rw [checkPlaceholders_append, checkPlaceholders_eq_ok_iff.mpr hbefore]
    rfl

/-- Placeholders fail for want of a value or of a name. -/
theorem eq_emptyCapture_or_of_checkPlaceholders {options : Entries} {found : List (Option String)}
    {e : CallError} (h : checkPlaceholders line options found = .error e) :
    e = .emptyCapture ∨ ∃ name, e = .missingValue name line := by
  induction found with
  | nil => cases h
  | cons p rest ih =>
    cases p with
    | none =>
      cases h
      exact .inl rfl
    | some name =>
      rw [checkPlaceholders] at h
      split at h
      · exact ih h
      · cases h
        exact .inr ⟨name, rfl⟩

/-- Texts fail for a placeholder without a name if the pattern matches somewhere without its group,
    and whatever it captures before that is a name in the bag. -/
theorem checkTexts_eq_emptyCapture_iff {interpolation : String} {pattern : Pattern}
    (hread : Pattern.read interpolation.toList = .ok pattern) {options : Entries}
    {texts : List String} :
    checkTexts line interpolation options texts = .error .emptyCapture ↔
      ∃ before after,
        (texts.flatMap fun text => pattern.captures text.toList) = before ++ none :: after ∧
        ∀ capture ∈ before, ∃ name, capture = some name ∧
          ∃ v, (Value.ofChars (Text.trim name), v) ∈ options := by
  have hplaceholders : texts.flatMap (placeholders interpolation) =
      (texts.flatMap fun text => pattern.captures text.toList).map
        (Option.map fun s => String.ofList (Text.trim s)) := by
    rw [List.map_flatMap]
    unfold placeholders
    rw [hread]
  rw [checkTexts_eq_checkPlaceholders, checkPlaceholders_eq_emptyCapture_iff, hplaceholders]
  constructor
  · rintro ⟨before, after, heq, hbefore⟩
    obtain ⟨first, rest, hall, rfl, hrest⟩ := List.map_eq_append_iff.mp heq
    obtain ⟨capture, later, rfl, hnone, _⟩ := List.map_eq_cons_iff.mp hrest
    rw [Option.map_eq_none_iff] at hnone
    subst hnone
    refine ⟨first, later, hall, fun capture hcapture => supplied_capture_iff.mp ?_⟩
    exact hbefore _ (List.mem_map_of_mem hcapture)
  · rintro ⟨before, after, heq, hbefore⟩
    refine ⟨_, _, by rw [heq, List.map_append]; rfl, ?_⟩
    rw [List.forall_mem_map]
    exact fun capture hcapture => supplied_capture_iff.mpr (hbefore capture hcapture)

/-- Texts fail with a documented error, or for a placeholder without a name. -/
theorem documented_of_checkTexts {interpolation : String} {options : Entries}
    {texts : List String} {e : CallError}
    (h : checkTexts line interpolation options texts = .error e) :
    e.Documented ∨ e = .emptyCapture := by
  rw [checkTexts_eq_checkPlaceholders] at h
  rcases eq_emptyCapture_or_of_checkPlaceholders h with rfl | ⟨name, rfl⟩
  · exact .inr rfl
  · exact .inl trivial

/-! ### Plural maps -/

/-- Names that are texts can be listed. -/
theorem exists_texts_of_forall {names : List Value} (h : ∀ k ∈ names, ∃ s, k = .text s) :
    ∃ texts, Value.texts? names = some texts := by
  induction names with
  | nil => exact ⟨[], rfl⟩
  | cons k rest ih =>
    obtain ⟨⟨s, rfl⟩, hrest⟩ := List.forall_mem_cons.mp h
    obtain ⟨texts, htexts⟩ := ih hrest
    exact ⟨s :: texts, by rw [Value.texts?, htexts]; rfl⟩

/-- A plural map without string literals for all variants fails for the first variant without. -/
theorem exists_of_variantTexts_eq_error {entries : Entries} {e : CallError}
    (h : variantTexts line entries = .error e) : ∃ k, e = .variantNotText k line := by
  induction entries with
  | nil => cases h
  | cons entry rest ih =>
    unfold variantTexts at h
    split at h
    · split at h
      · cases h
      · rename_i hrest
        cases h
        exact ih hrest
    · cases h
      exact ⟨_, rfl⟩

/-- A plural map whose names are texts fails with a documented error. -/
theorem documented_of_pluralVariants {declared : List String} {entries : Entries} {e : CallError}
    (hnames : ∀ entry ∈ entries, ∃ name, entry.1 = .text name)
    (h : pluralVariants line declared entries = .error e) : e.Documented := by
  unfold pluralVariants at h
  split at h
  · split at h
    · obtain ⟨k, rfl⟩ := exists_of_variantTexts_eq_error h
      trivial
    · cases h
      trivial
  · have hforeign : ∀ k ∈ foreignNames declared entries, ∃ s, k = .text s := by
      intro k hk
      obtain ⟨entry, hentry, rfl⟩ := List.mem_map.mp (List.mem_filter.mp hk).1
      exact hnames entry hentry
    obtain ⟨texts, htexts⟩ := exists_texts_of_forall hforeign
    rw [htexts] at h
    cases h
    trivial

/-! ### Defaults -/

/-- A default that only its placeholders can still make fail: a text, or a plural map with string
    literals for declared variants, the essential ones among them, without a blank text to infer a
    key from. -/
def Argument.Presentable (values : OptionValues) (key : Option String) : Argument → Prop
  | .text _ => True
  | .map entries => ∃ texts, entries = literalEntries texts ∧
      (∀ e ∈ texts, e.1 ∈ values.pluralizationKeys) ∧
      (∀ name ∈ essentialVariants, ∃ s, (name, s) ∈ texts) ∧
      (key = none → NotBlank (Default.variants texts).primaryText)
  | .unsupported _ => False

/-- Such a default fails as its placeholders do. -/
theorem Default.ofArgument_of_presentable {values : OptionValues} {key : Option String}
    {options : Entries} {arg : Argument} (hpresentable : arg.Presentable values key) {e : CallError}
    (h : checkTexts line values.interpolationSyntax options arg.writtenTexts = .error e) :
    Default.ofArgument line values key options arg = .error e := by
  cases arg with
  | text s =>
    have hchecked : checkTexts line values.interpolationSyntax options [s] = .error e := h
    simp only [Default.ofArgument, hchecked]
  | map entries =>
    obtain ⟨texts, rfl, hdeclared, hessential, hprimary⟩ := hpresentable
    rw [writtenTexts_literalEntries] at h
    have hnotBlank := isNone_and_isBlankText_eq_false_iff.mpr fun hkey =>
      isBlankText_eq_false_iff.mpr (hprimary hkey)
    simp [Default.ofArgument, pluralVariants_eq_ok_iff.mpr ⟨rfl, hdeclared, hessential⟩,
      hnotBlank, h]
  | unsupported source => cases hpresentable

/-- A default fails with a documented error, or for a placeholder without a name. -/
theorem Default.documented_of_ofArgument {values : OptionValues} {key : Option String}
    {options : Entries} {arg : Argument} {e : CallError}
    (hnames : ∀ entries, arg = .map entries → ∀ entry ∈ entries, ∃ name, entry.1 = .text name)
    (h : Default.ofArgument line values key options arg = .error e) :
    e.Documented ∨
      e = .emptyCapture ∧ arg.Presentable values key ∧
        checkTexts line values.interpolationSyntax options arg.writtenTexts =
          .error .emptyCapture := by
  cases arg with
  | text s =>
    simp only [Default.ofArgument] at h
    split at h
    · cases h
    · rename_i hchecked
      cases h
      rcases documented_of_checkTexts hchecked with hdocumented | rfl
      · exact .inl hdocumented
      · exact .inr ⟨rfl, trivial, hchecked⟩
  -- The checks of a plural map come one after the other; only that of its placeholders may end
  -- without a documented error.
  | map entries =>
    simp only [Default.ofArgument] at h
    split at h
    · rename_i hvariants
      cases h
      exact .inl (documented_of_pluralVariants (hnames entries rfl) hvariants)
    · rename_i texts hvariants
      split at h
      · cases h
        exact .inl trivial
      · rename_i hprimary
        split at h
        · rename_i hchecked
          cases h
          rcases documented_of_checkTexts hchecked with hdocumented | rfl
          · exact .inl hdocumented
          · obtain ⟨rfl, hdeclared, hessential⟩ := pluralVariants_eq_ok_iff.mp hvariants
            rw [Bool.not_eq_true, isNone_and_isBlankText_eq_false_iff] at hprimary
            refine .inr ⟨rfl, ⟨texts, rfl, hdeclared, hessential, fun hkey => ?_⟩, ?_⟩
            · exact isBlankText_eq_false_iff.mp (hprimary hkey)
            · rw [writtenTexts_literalEntries]
              exact hchecked
        · split at h <;> cases h
          exact .inl trivial
  | unsupported source =>
    cases h
    exact .inl trivial

/-! ### Calls -/

/-- What a call fails with, its arguments having been read, is what its default fails with. -/
theorem Call.ofArguments_eq_error_iff {values : OptionValues} {args : List Argument}
    {sig : Signature} (hresolve : Signature.resolve values.pluralizationKeys line args = .ok sig)
    (method : String) (e : CallError) :
    Call.ofArguments values method line args = .error e ↔
      Default.ofArgument line values sig.key (Argument.toDict (sig.options.getD [])) sig.default =
        .error e := by
  rw [Call.ofArguments_of_resolve hresolve]
  cases Default.ofArgument line values sig.key (Argument.toDict (sig.options.getD []))
    sig.default <;> simp [Except.map]

/-- A call fails with a documented error, or for a placeholder without a name in a default that has
    passed all other checks. -/
theorem Call.documented_of_ofArguments {r : Resolver} {args : List Argument}
    (hnames : ∀ entries, .map entries ∈ args → ∀ e ∈ entries, ∃ name, e.1 = .text name)
    {method : String} {e : CallError}
    (h : Call.ofArguments r.values method line args = .error e) :
    e.Documented ∨
      e = .emptyCapture ∧ ∃ form sig, Signature.Fits r.values.pluralizationKeys form args sig ∧
        sig.default.Presentable r.values sig.key ∧
        checkTexts line r.values.interpolationSyntax (Argument.toDict (sig.options.getD []))
          sig.default.writtenTexts = .error .emptyCapture := by
  cases hresolve : Signature.resolve r.values.pluralizationKeys line args with
  | error cause =>
    rw [Call.ofArguments_of_resolve_error hresolve] at h
    cases h
    obtain ⟨cause, rfl⟩ := Signature.exists_cause_of_resolve hresolve
    exact .inl trivial
  | ok sig =>
    obtain ⟨form, hfits⟩ := Signature.fits_of_resolve hresolve
    have hdefault := (Call.ofArguments_eq_error_iff hresolve _ _).mp h
    have hmap : ∀ entries, sig.default = .map entries →
        ∀ entry ∈ entries, ∃ name, entry.1 = .text name :=
      fun entries hentries => hnames entries (hfits.mem_of_map hentries)
    rcases Default.documented_of_ofArgument hmap hdefault with
      hdocumented | ⟨rfl, hpresentable, hchecked⟩
    · exact .inl hdocumented
    · exact .inr ⟨rfl, form, sig, hfits, hpresentable, hchecked⟩

/-- **A call fails with a documented error, unless its placeholder pattern matches without its
    group.**  Under the option values of any reachable resolver, and with texts for the names in its
    object literals, a call that is not constructed fails with one of the six kinds of errors or for
    a placeholder without a name.  The latter happens exactly if the arguments have a shape, nothing
    but its placeholders is wrong with the default, and the pattern matches in its texts without its
    group, having captured names in the bag only before.  Under a pattern that secures its group it
    never happens. -/
theorem Call.error_taxonomy {r : Resolver} (hr : r.Reachable) {args : List Argument}
    (hnames : ∀ entries, .map entries ∈ args → ∀ e ∈ entries, ∃ name, e.1 = .text name)
    (method : String) (line : Option Int) :
    ∃ pattern, Pattern.read r.values.interpolationSyntax.toList = .ok pattern ∧
      (∀ e, Call.ofArguments r.values method line args = .error e →
        e.Documented ∨ e = .emptyCapture) ∧
      (Call.ofArguments r.values method line args = .error .emptyCapture ↔
        ∃ form sig, Signature.Fits r.values.pluralizationKeys form args sig ∧
          sig.default.Presentable r.values sig.key ∧
          ∃ before after, (sig.default.writtenTexts.flatMap fun text =>
              pattern.captures text.toList) = before ++ none :: after ∧
            ∀ capture ∈ before, ∃ name, capture = some name ∧
              ∃ v, (Value.ofChars (Text.trim name), v) ∈ Argument.toDict (sig.options.getD [])) ∧
      (pattern.root.secures 1 = true →
        ∀ e, Call.ofArguments r.values method line args = .error e → e.Documented) := by
  obtain ⟨pattern, hread, hgroups⟩ := hr.valid.values .interpolationSyntax
  refine ⟨pattern, hread, fun e he => ?_, ⟨?_, ?_⟩, ?_⟩
  · exact (Call.documented_of_ofArguments hnames he).imp_right And.left
  · intro h
    rcases Call.documented_of_ofArguments hnames h with
      hdocumented | ⟨_, form, sig, hfits, hpresentable, hchecked⟩
    · cases hdocumented
    · exact ⟨form, sig, hfits, hpresentable, (checkTexts_eq_emptyCapture_iff hread).mp hchecked⟩
  · rintro ⟨form, sig, hfits, hpresentable, hcaptures⟩
    have hchecked := (@checkTexts_eq_emptyCapture_iff line _ _ hread _ _).mpr hcaptures
    exact (Call.ofArguments_eq_error_iff (Signature.resolve_of_fits hfits) _ _).mpr
      (Default.ofArgument_of_presentable hpresentable hchecked)
  · intro hsecures e he
    rcases Call.documented_of_ofArguments hnames he with
      hdocumented | ⟨_, form, sig, _, _, hchecked⟩
    · exact hdocumented
    · -- Some match would have captured nothing.
      obtain ⟨before, after, hall, _⟩ := (checkTexts_eq_emptyCapture_iff hread).mp hchecked
      have hnone : none ∈ sig.default.writtenTexts.flatMap fun text =>
          pattern.captures text.toList := by
        rw [hall]
        simp
      obtain ⟨text, _, hcapture⟩ := List.mem_flatMap.mp hnone
      cases Pattern.isSome_of_mem_captures hgroups hsecures none hcapture

namespace Call

/-- Under the built-in pattern, whose group is secured, a placeholder without a value is a documented
    error. -/
theorem error_taxonomy_missingName :
    (Resolver.ofDefaults builtInValues).Reachable ∧
      ∃ e, Call.ofArguments (Resolver.ofDefaults builtInValues).values "t" none
        [.text "k", .text "%\x7bname\x7d"] = .error e ∧ e.Documented := by
  have hr : (Resolver.ofDefaults builtInValues).Reachable := .built Resolver.build_builtIn
  have hfits : Signature.Fits (Resolver.ofDefaults builtInValues).values.pluralizationKeys
      .keyDefault [.text "k", .text "%\x7bname\x7d"] ⟨some "k", .text "%\x7bname\x7d", none⟩ :=
    .keyDefault ⟨'k', by decide, by decide⟩
  have hpresentable : (Argument.text "%\x7bname\x7d").Presentable
      (Resolver.ofDefaults builtInValues).values (some "k") := trivial
  have hfound : ["%\x7bname\x7d"].flatMap (placeholders builtInValues.interpolationSyntax) =
      [some "name"] := by decide +kernel
  have hchecked : checkTexts none builtInValues.interpolationSyntax [] ["%\x7bname\x7d"] =
      .error (.missingValue "name" none) := by
    rw [checkTexts_eq_checkPlaceholders, hfound]
    rfl
  have herror := (ofArguments_eq_error_iff (Signature.resolve_of_fits hfits) "t" _).mpr
    (Default.ofArgument_of_presentable hpresentable hchecked)
  have hnames : ∀ entries, .map entries ∈ [Argument.text "k", .text "%\x7bname\x7d"] →
      ∀ e ∈ entries, ∃ name, e.1 = .text name := by simp
  obtain ⟨pattern, hread, _, _, hsecured⟩ := error_taxonomy hr hnames "t" none
  exact ⟨hr, _, herror, hsecured (Pattern.secures_of_read_builtIn hread) _ herror⟩

/-- Defaults with a pattern that also matches an `a`, without its group. -/
def skippingDefaults : Entries :=
  [(.text "inferred_key_format", .text "underscored_crc32"), (.text "max_key_length", .int 50),
    (.text "pluralization_keys", .list [.text "one", .text "other"]),
    (.text "interpolation_syntax", .text "a|(b)")]

/-- Their values. -/
def skippingValues : OptionValues := ⟨.hashed, 50, ["one", "other"], "a|(b)"⟩

/-- They make a resolver, and under it an `a` with a key fails for a placeholder without a name. -/
theorem emptyCapture_of_skippedGroup :
    (Resolver.ofDefaults skippingValues).Reachable ∧
      Call.ofArguments (Resolver.ofDefaults skippingValues).values "t" none
        [.text "k", .text "a"] = .error .emptyCapture ∧
      ¬ CallError.emptyCapture.Documented := by
  have hbuild : Resolver.build skippingDefaults = .ok (Resolver.ofDefaults skippingValues) :=
    eq_ok_of_toOption (by decide +kernel)
  have hfits : Signature.Fits (Resolver.ofDefaults skippingValues).values.pluralizationKeys
      .keyDefault [.text "k", .text "a"] ⟨some "k", .text "a", none⟩ :=
    .keyDefault ⟨'k', by decide, by decide⟩
  have hfound : ["a"].flatMap (placeholders "a|(b)") = [none] := by decide +kernel
  have hchecked : checkTexts none "a|(b)" [] ["a"] = .error .emptyCapture := by
    rw [checkTexts_eq_checkPlaceholders, hfound]
    rfl
  have hpresentable : (Argument.text "a").Presentable (Resolver.ofDefaults skippingValues).values
      (some "k") := trivial
  refine ⟨.built hbuild, ?_, fun h => h⟩
  exact (ofArguments_eq_error_iff (Signature.resolve_of_fits hfits) _ _).mpr
    (Default.ofArgument_of_presentable hpresentable hchecked)

end Call

end Phrasebook
