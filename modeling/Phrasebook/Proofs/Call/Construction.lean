import Phrasebook.Proofs.Call.Signature
import Phrasebook.Proofs.Value.Dictionary

namespace Phrasebook

/-!
# Constructed calls

What is known of a call once it has been constructed, whatever the option values were then:

* `pluralVariants_eq_ok_iff`, `checkTexts_eq_ok_iff`, `Default.ofArgument_eq_ok_iff`,
  `Call.ofArguments_eq_ok_iff` — what each step of a construction accepts, and what it makes of it;
* `Call.Sound` — a literal key is not blank; without one the text that a key is inferred from is
  not blank; a plural map has the essential variants;
* `Call.sound_of_ofArguments` — constructed calls are sound.
-/

variable {line : Option Int}

/-! ### Plural variants -/

/-- The entries of a plural map that gives its variants these texts. -/
def literalEntries (texts : List (String × String)) : Entries :=
  texts.map fun e => (.text e.1, .literal e.2)

/-- What such a map has under a text. -/
theorem mem_literalEntries {texts : List (String × String)} {name : String} {v : Value} :
    (Value.text name, v) ∈ literalEntries texts ↔ ∃ s, (name, s) ∈ texts ∧ v = .literal s := by
  constructor
  · intro h
    obtain ⟨⟨_, s⟩, hs, heq⟩ := List.mem_map.mp h
    cases heq
    exact ⟨s, hs, rfl⟩
  · rintro ⟨s, hs, rfl⟩
    exact List.mem_map.mpr ⟨(name, s), hs, rfl⟩

/-- The texts of a plural map are taken if every variant has a text for a name and a string literal
    for a value. -/
theorem variantTexts_eq_ok_iff {entries : Entries} {texts : List (String × String)} :
    variantTexts line entries = .ok texts ↔ entries = literalEntries texts := by
  constructor
  · intro h
    induction entries generalizing texts with
    | nil =>
      cases h
      rfl
    | cons e rest ih =>
      obtain ⟨k, v⟩ := e
      unfold variantTexts at h
      split at h
      · split at h
        · rename_i others hothers
          cases h
          rw [ih hothers]
          rfl
        · cases h
      · cases h
  · rintro rfl
    induction texts with
    | nil => rfl
    | cons e rest ih =>
      show variantTexts line ((.text e.1, .literal e.2) :: literalEntries rest) = _
      rw [variantTexts, ih]

/-- All names among the entries are declared if each is the text of a variant. -/
theorem foreignNames_eq_nil_iff {declared : List String} {entries : Entries} :
    foreignNames declared entries = [] ↔ ∀ e ∈ entries, ∃ name ∈ declared, e.1 = .text name := by
  simp [foreignNames, Entries.keys, List.filter_eq_nil_iff, Value.sameKey_text_iff]

/-- A plural map is accepted if it has declared variants only, the essential ones among them, each
    with a string literal. -/
theorem pluralVariants_eq_ok_iff {declared : List String} {entries : Entries}
    {texts : List (String × String)} :
    pluralVariants line declared entries = .ok texts ↔
      entries = literalEntries texts ∧ (∀ e ∈ texts, e.1 ∈ declared) ∧
        ∀ name ∈ essentialVariants, ∃ s, (name, s) ∈ texts := by
  have hdeclared : (∀ e ∈ literalEntries texts, ∃ name ∈ declared, e.1 = .text name) ↔
      ∀ e ∈ texts, e.1 ∈ declared := by
    simp only [literalEntries, List.forall_mem_map, Value.text.injEq, exists_eq_right']
  have hessential : (essentialVariants.filter fun name =>
      !(literalEntries texts).contains (.text name)) = [] ↔
        ∀ name ∈ essentialVariants, ∃ s, (name, s) ∈ texts := by
    simp only [List.filter_eq_nil_iff, Bool.not_eq_true', Bool.not_eq_false,
      Entries.contains_text_iff, mem_literalEntries, exists_comm (α := Value), exists_and_left,
      exists_eq, and_true]
  constructor
  · intro h
    unfold pluralVariants at h
    split at h
    · rename_i hforeign
      split at h
      · rename_i hmissing
        obtain rfl := variantTexts_eq_ok_iff.mp h
        exact ⟨rfl, hdeclared.mp (foreignNames_eq_nil_iff.mp hforeign), hessential.mp hmissing⟩
      · cases h
    · split at h <;> cases h
  · rintro ⟨rfl, hnames, hthere⟩
    unfold pluralVariants
    rw [foreignNames_eq_nil_iff.mpr (hdeclared.mpr hnames)]
    dsimp only
    rw [hessential.mpr hthere]
    exact variantTexts_eq_ok_iff.mpr rfl

/-! ### Placeholders -/

/-- Whether the bag has a value for every placeholder in some texts. -/
def Supplied (interpolation : String) (options : Entries) (texts : List String) : Prop :=
  ∀ text ∈ texts, ∀ p ∈ placeholders interpolation text,
    ∃ name, p = some name ∧ options.contains (.text name) = true

/-- Placeholders are accepted if each captures a name that the bag has a value for. -/
theorem checkPlaceholders_eq_ok_iff {options : Entries} {found : List (Option String)} :
    checkPlaceholders line options found = .ok () ↔
      ∀ p ∈ found, ∃ name, p = some name ∧ options.contains (.text name) = true := by
  induction found with
  | nil => simp [checkPlaceholders]
  | cons p rest ih =>
    rw [List.forall_mem_cons, ← ih]
    cases p with
    | none => simp [checkPlaceholders]
    | some name =>
      by_cases hname : options.contains (.text name) = true <;> simp [checkPlaceholders, hname]

/-- Texts are accepted if the bag has a value for every placeholder in them. -/
theorem checkTexts_eq_ok_iff {interpolation : String} {options : Entries} {texts : List String} :
    checkTexts line interpolation options texts = .ok () ↔ Supplied interpolation options texts := by
  unfold Supplied
  induction texts with
  | nil => simp [checkTexts]
  | cons text rest ih =>
    rw [List.forall_mem_cons, ← ih, ← checkPlaceholders_eq_ok_iff]
    rw [checkTexts]
    cases checkPlaceholders line options (placeholders interpolation text) <;> simp

/-! ### Defaults -/

/-- A blank text is refused only where a key is to be inferred from it. -/
theorem isNone_and_isBlankText_eq_false_iff {key : Option String} {text : String} :
    (key.isNone && isBlankText text) = false ↔ (key = none → isBlankText text = false) := by
  cases key <;> simp

/-- A text is a default if its placeholders have values.  A plural map is one if its variants are
    accepted, their placeholders have values, there is a count, and no key is to be inferred from
    a blank text. -/
theorem Default.ofArgument_eq_ok_iff {values : OptionValues} {key : Option String}
    {options : Entries} {arg : Argument} {default : Default} :
    Default.ofArgument line values key options arg = .ok default ↔
      (∃ s, arg = .text s ∧ default = .text s ∧
        Supplied values.interpolationSyntax options [s]) ∨
      ∃ texts, arg = .map (literalEntries texts) ∧ default = .variants texts ∧
        ((∀ e ∈ texts, e.1 ∈ values.pluralizationKeys) ∧
          ∀ name ∈ essentialVariants, ∃ s, (name, s) ∈ texts) ∧
        (key = none → isBlankText (Default.variants texts).primaryText = false) ∧
        Supplied values.interpolationSyntax options (texts.map (·.2)) ∧
        options.contains (.text countOption) = true := by
  constructor
  · intro h
    cases arg with
    | text s =>
      simp only [Default.ofArgument] at h
      split at h
      · rename_i hchecked
        cases h
        exact .inl ⟨s, rfl, rfl, checkTexts_eq_ok_iff.mp hchecked⟩
      · cases h
    | map entries =>
      simp only [Default.ofArgument] at h
      repeat' split at h
      all_goals cases h
      rename_i texts hvariants hprimary _ hchecked hcount
      obtain ⟨rfl, hnames⟩ := pluralVariants_eq_ok_iff.mp hvariants
      rw [Bool.not_eq_true, isNone_and_isBlankText_eq_false_iff] at hprimary
      exact .inr ⟨texts, rfl, rfl, hnames, hprimary, checkTexts_eq_ok_iff.mp hchecked, hcount⟩
    | unsupported source => cases h
  · rintro (⟨s, rfl, rfl, hsupplied⟩ | ⟨texts, rfl, rfl, hnames, hprimary, hsupplied, hcount⟩)
    · simp only [Default.ofArgument, checkTexts_eq_ok_iff.mpr hsupplied]
    · have hnotBlank := isNone_and_isBlankText_eq_false_iff.mpr hprimary
      simp [Default.ofArgument, pluralVariants_eq_ok_iff.mpr ⟨rfl, hnames⟩, hnotBlank,
        checkTexts_eq_ok_iff.mpr hsupplied, hcount]

/-- A default is plural if it is written so, or if it is a single word and there is a count. -/
theorem Default.expand_eq_variants_iff {options : Entries} {default : Default}
    {entries : List (String × String)} :
    default.expand options = .variants entries ↔
      default = .variants entries ∨
        ∃ s, default = .text s ∧ options.contains (.text countOption) = true ∧
          isSingleWord s.toList = true ∧ entries = wordVariants s := by
  cases default with
  | variants written => simp [expand]
  | text s =>
    unfold expand
    constructor
    · intro h
      dsimp only at h
      split at h
      · rename_i hexpands
        obtain ⟨hcount, hword⟩ := Bool.and_eq_true_iff.mp hexpands
        cases h
        exact .inr ⟨s, rfl, hcount, hword, rfl⟩
      · cases h
    · rintro (h | ⟨_, ⟨⟩, hcount, hword, rfl⟩)
      · cases h
      · simp [hcount, hword]

/-- A default without blank primary text, and with the essential variants. -/
structure Default.Sound (key : Option String) (default : Default) : Prop where
  primary : key = none → isBlankText default.primaryText = false
  essential : ∀ entries, default = .variants entries →
    ∀ name ∈ essentialVariants, (entries.lookup name).isSome = true

/-- A default that is accepted is sound, if a text that a key is inferred from is not blank. -/
theorem Default.sound_of_ofArgument {values : OptionValues} {key : Option String}
    {options : Entries} {arg : Argument} {default : Default}
    (hblank : ∀ s, arg = .text s → key = none → isBlankText s = false)
    (h : Default.ofArgument line values key options arg = .ok default) : default.Sound key := by
  rcases Default.ofArgument_eq_ok_iff.mp h with
    ⟨s, rfl, rfl, _⟩ | ⟨texts, rfl, rfl, ⟨_, hessential⟩, hprimary, _⟩
  · exact ⟨hblank s rfl, fun entries hentries => by cases hentries⟩
  · refine ⟨hprimary, fun entries hentries name hname => ?_⟩
    cases hentries
    obtain ⟨s, hs⟩ := hessential name hname
    exact List.lookup_isSome_iff.mpr ⟨_, hs, by simp⟩

/-- The variants of a single word are never blank. -/
theorem isBlankText_primaryText_wordVariants (word : String) :
    isBlankText (Default.variants (wordVariants word)).primaryText = false := by
  have hprimary : (Default.variants (wordVariants word)).primaryText =
      "%\x7bcount\x7d " ++ String.ofList (Inflection.pluralize word.toList) := rfl
  rw [hprimary, isBlankText_eq_false_iff]
  exact ⟨'%', by simp, by decide⟩

/-- Expanding keeps a default sound. -/
theorem Default.Sound.expand {key : Option String} {default : Default} (h : default.Sound key)
    (options : Entries) : (default.expand options).Sound key := by
  cases default with
  | variants entries => exact h
  | text s =>
    unfold Default.expand
    dsimp only
    split
    · refine ⟨fun _ => isBlankText_primaryText_wordVariants s, fun entries hentries => ?_⟩
      cases hentries
      simp [wordVariants, essentialVariants]
    · exact h

/-! ### Calls -/

/-- A call whose literal key is not blank and whose default is sound. -/
structure Call.Sound (c : Call) : Prop where
  key : ∀ k, c.key = some k → isBlankText k = false
  default : c.default.Sound c.key

/-- A call is constructed from the parts that its arguments are read as. -/
theorem Call.ofArguments_of_resolve {values : OptionValues} {args : List Argument}
    {sig : Signature} (hresolve : Signature.resolve values.pluralizationKeys line args = .ok sig)
    (method : String) :
    Call.ofArguments values method line args =
      (Default.ofArgument line values sig.key (Argument.toDict (sig.options.getD []))
        sig.default).map fun default => ⟨method, line, sig.key,
          default.expand (Argument.toDict (sig.options.getD [])),
          Argument.toDict (sig.options.getD [])⟩ := by
  unfold Call.ofArguments
  rw [hresolve]
  dsimp only
  cases Default.ofArgument line values sig.key (Argument.toDict (sig.options.getD []))
    sig.default <;> rfl

/-- A call whose arguments cannot be read fails for that. -/
theorem Call.ofArguments_of_resolve_error {values : OptionValues} {method : String}
    {args : List Argument} {e : CallError}
    (h : Signature.resolve values.pluralizationKeys line args = .error e) :
    Call.ofArguments values method line args = .error e := by
  unfold Call.ofArguments
  rw [h]

/-- A call is constructed if its arguments can be read and its default is accepted. -/
theorem Call.ofArguments_eq_ok_iff {values : OptionValues} {method : String}
    {args : List Argument} {c : Call} :
    Call.ofArguments values method line args = .ok c ↔
      ∃ sig default, Signature.resolve values.pluralizationKeys line args = .ok sig ∧
        Default.ofArgument line values sig.key (Argument.toDict (sig.options.getD [])) sig.default =
          .ok default ∧
        c = ⟨method, line, sig.key, default.expand (Argument.toDict (sig.options.getD [])),
          Argument.toDict (sig.options.getD [])⟩ := by
  constructor
  · intro h
    cases hresolve : Signature.resolve values.pluralizationKeys line args with
    | error cause =>
      rw [Call.ofArguments_of_resolve_error hresolve] at h
      cases h
    | ok sig =>
      rw [Call.ofArguments_of_resolve hresolve] at h
      cases hdefault : Default.ofArgument line values sig.key
          (Argument.toDict (sig.options.getD [])) sig.default with
      | error e => simp [hdefault, Except.map] at h
      | ok default =>
        simp only [hdefault, Except.map, Except.ok.injEq] at h
        exact ⟨sig, default, rfl, hdefault, h.symm⟩
  · rintro ⟨sig, default, hresolve, hdefault, rfl⟩
    rw [Call.ofArguments_of_resolve hresolve, hdefault]
    rfl

/-- Constructed calls are sound, and have the line that was given. -/
theorem Call.sound_of_ofArguments {values : OptionValues} {method : String}
    {args : List Argument} {c : Call}
    (constructed : Call.ofArguments values method line args = .ok c) :
    c.Sound ∧ c.line = line := by
  obtain ⟨sig, default, hresolve, hdefault, rfl⟩ := Call.ofArguments_eq_ok_iff.mp constructed
  obtain ⟨hkey, hchecked⟩ := Signature.check_eq_ok_iff.mp (Signature.check_of_resolve hresolve)
  refine ⟨⟨fun k hk => isBlankText_eq_false_iff.mpr (hkey k hk), ?_⟩, rfl⟩
  -- A text has been checked with the signature, a plural map only now.
  refine (Default.sound_of_ofArgument (fun s hs hnone => ?_) hdefault).expand _
  rcases hchecked with ⟨d, hd, hnotBlank⟩ | ⟨p, hp, _⟩
  · cases hd.symm.trans hs
    exact isBlankText_eq_false_iff.mpr (hnotBlank hnone)
  · cases hp.symm.trans hs

end Phrasebook
