import Phrasebook.Proofs.Call.Construction
import Phrasebook.Proofs.Options.Reachable

namespace Phrasebook

/-!
# What a valid call satisfies

The checks of a call are spread over its signature, its default and the expansion of single words.
Together they make sure of the following, on every way from the arguments to a call:

* `Argument.writtenTexts` — the texts of a default as it is written, before any expansion;
* `supplied_capture_iff`, `supplied_iff` — what it means that every placeholder in them has a value;
* `Default.plural_of_ofArgument` — a plural default is complete, written or expanded;
* `Call.invariant_of_ofArguments` — keys and primary texts are not blank, plurals are complete and
  have a count, and every placeholder is supplied.
-/

/-- The texts of a default as it is written: a string literal, or all string literals among the
    entries of an object literal. -/
def Argument.writtenTexts : Argument → List String
  | .text s => [s]
  | .map entries => entries.filterMap fun e => match e.2 with
    | .literal s => some s
    | _ => none
  | .unsupported _ => []

/-- The texts of a plural map are those of its variants. -/
theorem writtenTexts_literalEntries (texts : List (String × String)) :
    (Argument.map (literalEntries texts)).writtenTexts = texts.map (·.2) := by
  simp [Argument.writtenTexts, literalEntries, List.filterMap_map]

/-- A capture is a placeholder with a value if it is, without blanks around it, a name in the bag. -/
theorem supplied_capture_iff {options : Entries} {capture : Option (List Char)} :
    (∃ name, (capture.map fun s => String.ofList (Text.trim s)) = some name ∧
      options.contains (.text name) = true) ↔
      ∃ name, capture = some name ∧ ∃ v, (Value.ofChars (Text.trim name), v) ∈ options := by
  cases capture <;> simp [Entries.contains_text_iff, Value.ofChars]

/-- Texts are supplied when every match of the pattern in them captures something that is, without
    blanks around it, a name in the bag. -/
theorem supplied_iff {interpolation : String} {pattern : Pattern}
    (hread : Pattern.read interpolation.toList = .ok pattern) {options : Entries}
    {texts : List String} :
    Supplied interpolation options texts ↔
      ∀ text ∈ texts, ∀ capture ∈ pattern.captures text.toList, ∃ name, capture = some name ∧
        ∃ v, (Value.ofChars (Text.trim name), v) ∈ options := by
  unfold Supplied placeholders
  rw [hread]
  simp only [List.forall_mem_map, supplied_capture_iff]

/-- The variants in force in a reachable resolver include the essential ones. -/
theorem essential_declared {r : Resolver} (hr : r.Reachable) :
    ∀ name ∈ essentialVariants, name ∈ r.values.pluralizationKeys := by
  obtain ⟨_, _, hone, hother⟩ := hr.valid.values .pluralizationKeys
  simp only [essentialVariants, List.forall_mem_cons]
  exact ⟨hone, hother, fun name hname => by cases hname⟩

/-- A plural default has the essential variants, declared ones only, and a count, whether it is
    written or expanded. -/
theorem Default.plural_of_ofArgument {r : Resolver} (hr : r.Reachable) {line : Option Int}
    {key : Option String} {options : Entries} {arg : Argument} {default : Default}
    (haccepted : Default.ofArgument line r.values key options arg = .ok default)
    {entries : List (String × String)} (hplural : default.expand options = .variants entries) :
    (∀ name ∈ essentialVariants, ∃ s, (name, s) ∈ entries) ∧
      (∀ e ∈ entries, e.1 ∈ r.values.pluralizationKeys) ∧
      ∃ v, (Value.text countOption, v) ∈ options := by
  rcases Default.expand_eq_variants_iff.mp hplural with rfl | ⟨s, rfl, hcount, _, rfl⟩
  · rcases Default.ofArgument_eq_ok_iff.mp haccepted with
      ⟨s, _, htext, _⟩ | ⟨texts, _, hvariants, ⟨hdeclared, hessential⟩, _, _, hcount⟩
    · cases htext
    · cases hvariants
      exact ⟨hessential, hdeclared, Entries.contains_text_iff.mp hcount⟩
  · -- The expansion passes none of the checks of a plural map, and needs none.
    have hdeclared := essential_declared hr
    refine ⟨?_, ?_, Entries.contains_text_iff.mp hcount⟩
    · simp [essentialVariants, wordVariants]
    · simpa [essentialVariants, wordVariants] using hdeclared

/-- **What holds of every constructed call.**  Under the option values of any reachable resolver, a
    call that has been constructed has no blank key, and without a key no blank primary text.  If its
    default is plural, it has the essential variants and no variant that is not declared, and the bag
    has a count.  Its default is the one that is written, a plural map with string literals for all
    its variants among the possible ones, or the expansion of a single word; and whatever the
    interpolation pattern finds in the texts as they are written captures, without the blanks around
    it, a name in the bag. -/
theorem Call.invariant_of_ofArguments {r : Resolver} (hr : r.Reachable) {method : String}
    {line : Option Int} {args : List Argument} {c : Call}
    (constructed : Call.ofArguments r.values method line args = .ok c) :
    (∀ k, c.key = some k → NotBlank k) ∧
    (c.key = none → NotBlank c.default.primaryText) ∧
    (∀ entries, c.default = .variants entries →
      (∀ name ∈ ["one", "other"], ∃ s, (name, s) ∈ entries) ∧
      (∀ e ∈ entries, e.1 ∈ r.values.pluralizationKeys) ∧
      ∃ v, (Value.text "count", v) ∈ c.options) ∧
    ∃ form sig, Signature.Fits r.values.pluralizationKeys form args sig ∧ c.key = sig.key ∧
      ((∃ texts, sig.default = .map (literalEntries texts) ∧ c.default = .variants texts) ∨
        ∃ s, sig.default = .text s ∧
          (c.default = .text s ∨ c.default = .variants (wordVariants s))) ∧
      ∃ pattern, Pattern.read r.values.interpolationSyntax.toList = .ok pattern ∧
        ∀ text ∈ sig.default.writtenTexts, ∀ capture ∈ pattern.captures text.toList,
          ∃ name, capture = some name ∧
            ∃ v, (Value.ofChars (Text.trim name), v) ∈ c.options := by
  obtain ⟨hsound, _⟩ := Call.sound_of_ofArguments constructed
  obtain ⟨sig, default, hresolve, hdefault, rfl⟩ := Call.ofArguments_eq_ok_iff.mp constructed
  obtain ⟨form, hfits⟩ := Signature.fits_of_resolve hresolve
  obtain ⟨pattern, hread, _⟩ := hr.valid.values .interpolationSyntax
  refine ⟨fun k hk => isBlankText_eq_false_iff.mp (hsound.key k hk),
    fun hkey => isBlankText_eq_false_iff.mp (hsound.default.primary hkey),
    fun entries hentries => Default.plural_of_ofArgument hr hdefault hentries,
    form, sig, hfits, rfl, ?_, pattern, hread, ?_⟩
  · rcases Default.ofArgument_eq_ok_iff.mp hdefault with ⟨s, hs, rfl, _⟩ | ⟨texts, htexts, rfl, _⟩
    · refine .inr ⟨s, hs, ?_⟩
      unfold Default.expand
      dsimp only
      split
      · exact .inr rfl
      · exact .inl rfl
    · exact .inl ⟨texts, htexts, rfl⟩
  · rw [← supplied_iff hread]
    rcases Default.ofArgument_eq_ok_iff.mp hdefault with
      ⟨s, hs, _, hsupplied⟩ | ⟨texts, htexts, _, _, _, hsupplied, _⟩
    · rw [hs]
      exact hsupplied
    · rw [htexts, writtenTexts_literalEntries]
      exact hsupplied

namespace Call

/-- The variants of a plural map with a placeholder between blanks. -/
def cartTexts : List (String × String) :=
  [("few", "some %\x7bname\x7d"), ("other", "%\x7b count \x7d items of %\x7bname\x7d"),
    ("one", "one of %\x7bname\x7d")]

/-- A bag with a count and an empty name. -/
def cartBag : Entries := [(.text "name", .literal ""), (.text "count", .int 1)]

/-- The call with that plural map and that bag. -/
def cart : Call :=
  ⟨"t", some 7, none, .variants cartTexts, [(.text "name", .text ""), (.text "count", .int 1)]⟩

/-- It is valid under the built-in defaults. -/
theorem constructed_cart :
    Call.ofArguments builtInValues "t" (some 7) [.map (literalEntries cartTexts), .map cartBag] =
      .ok cart := by
  have hfits : Signature.Fits builtInValues.pluralizationKeys .pluralOptions
      [.map (literalEntries cartTexts), .map cartBag]
      ⟨none, .map (literalEntries cartTexts), some cartBag⟩ := by
    refine .pluralOptions (Signature.isPluralMap_iff.mp (by decide +kernel)) ?_
    rw [← Signature.isPluralMap_iff]
    decide +kernel
  have hsupplied : Supplied builtInValues.interpolationSyntax (Argument.toDict cartBag)
      (cartTexts.map (·.2)) :=
    (@checkTexts_eq_ok_iff (some 7) _ _ _).mp (eq_ok_of_toOption (by decide +kernel))
  have hdefault : Default.ofArgument (some 7) builtInValues none (Argument.toDict cartBag)
      (.map (literalEntries cartTexts)) = .ok (.variants cartTexts) := by
    refine Default.ofArgument_eq_ok_iff.mpr
      (.inr ⟨cartTexts, rfl, rfl, ⟨by decide +kernel, ?_⟩, fun _ => by decide +kernel, hsupplied,
        by decide +kernel⟩)
    simp [essentialVariants, cartTexts]
  exact ofArguments_eq_ok_iff.mpr ⟨_, _, Signature.resolve_of_fits hfits, hdefault, rfl⟩

/-- So it has a primary text, declared variants and a count. -/
theorem invariant_of_ofArguments_cart :
    (Resolver.ofDefaults builtInValues).Reachable ∧
      Call.ofArguments (Resolver.ofDefaults builtInValues).values "t" (some 7)
        [.map (literalEntries cartTexts), .map cartBag] = .ok cart ∧
      NotBlank "%\x7b count \x7d items of %\x7bname\x7d" ∧
      (∀ e ∈ cartTexts, e.1 ∈ (Resolver.ofDefaults builtInValues).values.pluralizationKeys) ∧
      ∃ v, (Value.text "count", v) ∈ cart.options :=
  have hr : (Resolver.ofDefaults builtInValues).Reachable := .built Resolver.build_builtIn
  have hinvariant := invariant_of_ofArguments hr constructed_cart
  have hplural := hinvariant.2.2.1 cartTexts rfl
  ⟨hr, constructed_cart, hinvariant.2.1 rfl, hplural.2.1, hplural.2.2⟩

end Call

end Phrasebook
