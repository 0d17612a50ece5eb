import Phrasebook.Proofs.Call.Expansion
import Phrasebook.Proofs.Call.Placeholders
import Phrasebook.Proofs.Inflection
import Phrasebook.Proofs.Options.Reachable

namespace Phrasebook

/-!
# The count in an expanded default

A single word becomes `%{count}` and its plural, in this notation, whatever the interpolation syntax
is.

* `closingBrace_not_mem` — a word and its plural have no closing brace;
* `Call.expanded_in_percent_braces` — so under each pattern of the notation, as the built-in one is,
  the count of an expanded default is found, and nothing else.  Under a pattern of another notation
  it need not be.
-/

/-- What is expanded has no closing brace, and its plural neither. -/
theorem closingBrace_not_mem {word : List Char} (h : isSingleWord word = true) :
    '\x7d' ∉ Inflection.pluralize word := by
  have hword : ∀ w, SingleWord w → '\x7d' ∉ w.toList := by
    intro w hw hmem
    rcases hw.chars _ hmem with hchar | hchar
    · exact absurd hchar (by decide)
    · exact absurd hchar (by decide)
  intro hmem
  have hthere : '\x7d' ∈ (String.ofList word).toList := by
    rw [String.toList_ofList]
    exact Inflection.mem_of_mem_pluralize (Text.isSteady_of_mem _ (by simp)) rfl hmem
  rw [← String.toList_ofList (l := word)] at h
  rcases isSingleWord_iff.mp h with hw | ⟨w, hw, heq⟩
  · exact hword _ hw hthere
  · rw [heq, String.toList_append, List.mem_append] at hthere
    exact hthere.elim (hword w hw) (by decide)

namespace Call

/-- **The count of an expanded default.**  In a call that is constructed under the option values of
    a reachable resolver, with a text that is expanded, the `other` text is `%{count}` and the
    plural of the word, whatever the interpolation syntax is.  The pattern that this is read as, if
    it is of the notation `%{name}` and lets `count` stand in it, as the built-in one does, finds
    one placeholder in that text, and its trimmed name is `count`. -/
theorem expanded_in_percent_braces {r : Resolver} (hr : r.Reachable) {method : String}
    {line : Option Int} {args : List Argument} {key : Option String} {d : String}
    {bag : Option Entries} {c : Call}
    (hresolve : Signature.resolve r.values.pluralizationKeys line args = .ok ⟨key, .text d, bag⟩)
    (constructed : Call.ofArguments r.values method line args = .ok c)
    (expanded : c.default.isPluralized = true) :
    ∃ p other, Pattern.read r.values.interpolationSyntax.toList = .ok p ∧
      other = "%\x7bcount\x7d " ++ String.ofList (Inflection.pluralize d.toList) ∧
      c.default = .variants [("one", "1 " ++ d), ("other", other)] ∧
      (p.admits "count".toList = true →
        placeholders r.values.interpolationSyntax other = [some "count"]) ∧
      (r.values.interpolationSyntax = builtInValues.interpolationSyntax →
        p.admits "count".toList = true) := by
  obtain ⟨p, hread, _⟩ := hr.valid.values .interpolationSyntax
  have hdefault := default_of_text hresolve constructed
  have hvariants : c.default = .variants (wordVariants d) := by
    rcases expand_text_eq c.options d with h | h
    · exact hdefault.trans h
    · rw [hdefault, h] at expanded
      cases expanded
  have hword : isSingleWord d.toList = true := by
    rcases Default.expand_eq_variants_iff.mp (hdefault.symm.trans hvariants) with
      h | ⟨_, ⟨⟩, _, hword, _⟩
    · cases h
    · exact hword
  refine ⟨p, _, hread, rfl, hvariants, fun hadmits => ?_, fun hsame => ?_⟩
  · -- No closing brace is left after that of the count, so there is no other placeholder.
    have hrest : '\x7d' ∉ (" " ++ String.ofList (Inflection.pluralize d.toList)).toList := by
      simpa using closingBrace_not_mem hword
    have htext : "%\x7bcount\x7d " ++ String.ofList (Inflection.pluralize d.toList) =
        "%\x7b" ++ "count" ++ "\x7d" ++ (" " ++ String.ofList (Inflection.pluralize d.toList)) := by
      rw [← String.append_assoc]
      rfl
    have htrimmed : String.ofList (Text.trim "count".toList) = "count" := by decide
    rw [htext, placeholders_of_admits hread hadmits (by decide) hrest, htrimmed]
  · rw [hsame] at hread
    exact Pattern.admits_count_of_read_builtIn hread

/-- Under the built-in defaults the count of some people is found. -/
theorem expanded_in_percent_braces_people :
    (Resolver.ofDefaults builtInValues).Reachable ∧
      ∃ c, Call.ofArguments (Resolver.ofDefaults builtInValues).values "t" none
          [.text "k", .text "person", .map countBag] = .ok c ∧
        c.default = .variants [("one", "1 person"), ("other", "%\x7bcount\x7d people")] ∧
        placeholders builtInValues.interpolationSyntax "%\x7bcount\x7d people" = [some "count"] := by
  obtain ⟨hplaceholders, hplural, _⟩ := person_inflected
  have hr : (Resolver.ofDefaults builtInValues).Reachable := .built Resolver.build_builtIn
  have hcount : "count" ∉ (Resolver.ofDefaults builtInValues).values.pluralizationKeys := by decide
  have hconstructed := constructed_counted_of hcount (hplaceholders "person" (by simp))
  have hexpanded : ((Default.text "person").expand countBag).isPluralized = true := by decide
  obtain ⟨p, other, hread, rfl, hdefault, hfound, hbuiltIn⟩ :=
    expanded_in_percent_braces hr (resolve_counted_of hcount "person") hconstructed hexpanded
  rw [hplural] at hdefault hfound
  exact ⟨hr, _, hconstructed, hdefault, hfound (hbuiltIn rfl)⟩

/-- Under two pairs of braces a person becomes people all the same, and their count is not found. -/
theorem count_not_found_in_doubleBraces :
    ∃ (r : Resolver) (c : Call), r.Reachable ∧
      r.values.interpolationSyntax = Pattern.doubleBraces ∧
      Call.ofArguments r.values "t" none [.text "k", .text "person", .map countBag] = .ok c ∧
      c.default = .variants [("one", "1 person"), ("other", "%\x7bcount\x7d people")] ∧
      some "count" ∉ placeholders r.values.interpolationSyntax "%\x7bcount\x7d people" := by
  obtain ⟨p, hp, hfacts⟩ := (Option.any_eq_true _ _).mp Pattern.captures_doubleBraces
  simp only [Bool.and_eq_true, beq_iff_eq] at hfacts
  obtain ⟨⟨hgroups, hperson⟩, hpeople⟩ := hfacts
  have hread : Pattern.read Pattern.doubleBraces.toList = .ok p := eq_ok_of_toOption hp
  have hnone : ∀ text, p.captures text.toList = [] → placeholders Pattern.doubleBraces text = [] := by
    intro text hcaptures
    simp [placeholders, hread, hcaptures]
  let r := (Resolver.ofDefaults builtInValues).write (.interpolationSyntax Pattern.doubleBraces)
  have hbuilt : (Resolver.ofDefaults builtInValues).Reachable := .built Resolver.build_builtIn
  have hset : (Resolver.ofDefaults builtInValues).set (.text "interpolation_syntax")
      (.text Pattern.doubleBraces) = .ok r :=
    hbuilt.valid.set_toValue (s := .interpolationSyntax _) rfl ⟨p, hread, hgroups⟩
  have hr : r.Reachable := hbuilt.set hset
  have hcount : "count" ∉ r.values.pluralizationKeys := by decide
  have hconstructed := constructed_counted_of hcount (hnone "person" hperson)
  obtain ⟨_, hplural, _⟩ := person_inflected
  have hexpanded : (Default.text "person").expand countBag = .variants (wordVariants "person") :=
    Default.expand_eq_variants_iff.mpr (.inr ⟨_, rfl, by decide, by decide, rfl⟩)
  rw [wordVariants, hplural] at hexpanded
  have hlost : some "count" ∉ placeholders r.values.interpolationSyntax "%\x7bcount\x7d people" := by
    rw [show placeholders r.values.interpolationSyntax _ = [] from hnone _ hpeople]
    exact List.not_mem_nil
  exact ⟨r, _, hr, rfl, hconstructed, hexpanded, hlost⟩

end Call

end Phrasebook
