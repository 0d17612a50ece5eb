import Phrasebook.Proofs.Call.Validity

namespace Phrasebook

/-!
# The translations of a call

Between its construction and its projection the options of a call may change in any way: variants may
be dropped, added, or put in another order.  Its texts come through all the same:

* `Signature.Fits.mem_of_map`, `nodup_of_ofArguments` — object literals are dictionaries, so no
  variant of a constructed call is there twice;
* `Call.orderedVariants_perm` — putting variants in order loses none and adds none;
* `Call.names_known_sublist` — those that are declared come in declared order;
* `Call.translations_project` — so a call has one pair for each of its texts, each with a key of its
  own.
-/

/-! ### Variants without repetitions -/

/-- In a list of pairs without repetitions of the first, what is found is what is there. -/
theorem lookup_eq_some_iff_mem {entries : List (String × String)}
    (hnodup : (entries.map (·.1)).Nodup) {name s : String} :
    entries.lookup name = some s ↔ (name, s) ∈ entries := by
  induction entries with
  | nil => simp
  | cons e rest ih =>
    obtain ⟨n, t⟩ := e
    obtain ⟨hnew, hrest⟩ := List.nodup_cons.mp hnodup
    by_cases hn : name = n
    · subst hn
      have habsent : (name, s) ∉ rest := fun h => hnew (List.mem_map.mpr ⟨_, h, rfl⟩)
      simp [habsent, eq_comm]
    · simp [List.lookup_cons, beq_false_of_ne hn, hn, ih hrest]

/-- The variants of a plural map are distinct where its keys are. -/
theorem nodup_of_distinct {texts : List (String × String)}
    (h : (literalEntries texts).Distinct) : (texts.map (·.1)).Nodup := by
  unfold Entries.Distinct literalEntries Entries.keys at h
  rw [List.map_map, List.pairwise_map] at h
  rw [List.Nodup, List.pairwise_map]
  exact h.imp fun hkey => by simpa [Value.sameKey] using hkey

/-- An object literal that is a default is among the arguments. -/
theorem Signature.Fits.mem_of_map {variants : List String} {form : Form} {args : List Argument}
    {sig : Signature} (h : Fits variants form args sig) {p : Entries}
    (hp : sig.default = .map p) : .map p ∈ args := by
  cases h <;> cases hp <;> simp

/-- No variant of a constructed call is there twice. -/
theorem nodup_of_ofArguments {values : OptionValues} {method : String} {line : Option Int}
    {args : List Argument} {c : Call}
    (constructed : Call.ofArguments values method line args = .ok c)
    (hargs : ∀ entries, .map entries ∈ args → entries.Distinct)
    {entries : List (String × String)} (hentries : c.default = .variants entries) :
    (entries.map (·.1)).Nodup := by
  obtain ⟨sig, default, hresolve, hdefault, rfl⟩ := Call.ofArguments_eq_ok_iff.mp constructed
  obtain ⟨form, hfits⟩ := Signature.fits_of_resolve hresolve
  rcases Default.expand_eq_variants_iff.mp hentries with rfl | ⟨s, _, _, _, rfl⟩
  · rcases Default.ofArgument_eq_ok_iff.mp hdefault with ⟨s, _, htext, _⟩ | ⟨texts, hmap, htexts, _⟩
    · cases htext
    · cases htexts
      exact nodup_of_distinct (hargs _ (hfits.mem_of_map hmap))
  · simp [wordVariants]

namespace Call

/-! ### Variants in order -/

variable {declared : List String} {entries : List (String × String)}

/-- The declared variants of some entries, in declared order. -/
def known (declared : List String) (entries : List (String × String)) : List (String × String) :=
  declared.filterMap fun name => (entries.lookup name).map fun s => (name, s)

/-- The names of declared variants come as they are declared. -/
theorem names_known_sublist : ((known declared entries).map (·.1)).Sublist declared := by
  have hnames : (known declared entries).map (·.1) =
      declared.filter fun name => (entries.lookup name).isSome := by
    unfold known
    rw [List.map_filterMap, ← List.filterMap_eq_filter]
    congr 1
    funext name
    cases hname : entries.lookup name <;> simp [Option.guard, hname]
  rw [hnames]
  exact List.filter_sublist

/-- The declared variants are the entries with declared names. -/
theorem known_perm (hdeclared : declared.Nodup) (hentries : (entries.map (·.1)).Nodup) :
    (known declared entries).Perm (entries.filter fun e => declared.contains e.1) := by
  have hknown : (known declared entries).Nodup :=
    List.Nodup.of_map _ (hdeclared.sublist names_known_sublist)
  refine (List.perm_ext_iff_of_nodup hknown (hentries.of_map.filter _)).mpr fun e => ?_
  obtain ⟨name, s⟩ := e
  simp only [known, List.mem_filterMap, Option.map_eq_some_iff, lookup_eq_some_iff_mem hentries,
    List.mem_filter, List.contains_iff_mem]
  constructor
  · rintro ⟨n, hn, t, ht, ⟨⟩⟩
    exact ⟨ht, hn⟩
  · rintro ⟨hs, hname⟩
    exact ⟨name, hname, s, hs, rfl⟩

/-- Putting variants in order loses none, adds none and changes none. -/
theorem orderedVariants_perm (hdeclared : declared.Nodup)
    (hentries : (entries.map (·.1)).Nodup) :
    (orderedVariants declared entries).Perm entries := by
  show (known declared entries ++ entries.filter fun e => !declared.contains e.1).Perm entries
  refine ((known_perm hdeclared hentries).append_right _).trans ?_
  exact List.filter_append_perm (fun e => declared.contains e.1) entries

/-- A literal key is the base of all keys, and without one it is the key inferred from the text. -/
theorem baseKey_eq_ok_iff {values : OptionValues} {c : Call} {base : String} :
    c.baseKey values = .ok base ↔
      c.key = some base ∨ c.key = none ∧
        Key.infer c.default.primaryText.toList values.keyFormat values.maxKeyLength =
          .ok base.toList := by
  unfold baseKey
  cases hkey : c.key with
  | some key => simp
  | none =>
    cases Key.infer c.default.primaryText.toList values.keyFormat values.maxKeyLength with
    | error halves => simp
    | ok key => simp [← String.toList_inj]

/-- A call that has translations has the pairs of its ordered texts under its key. -/
theorem translations_eq_ok_iff {values : OptionValues} {c : Call}
    {pairs : List (String × String)} :
    c.translations values = .ok pairs ↔
      ∃ base, c.baseKey values = .ok base ∧ base.isEmpty = false ∧
        ((∃ s, c.default = .text s ∧ pairs = [(base, s)]) ∨
          ∃ entries, c.default = .variants entries ∧
            pairs = (orderedVariants values.pluralizationKeys entries).map fun e =>
              (base ++ "." ++ e.1, e.2)) := by
  unfold translations
  cases c.baseKey values with
  | error e => simp
  | ok base =>
    simp only [Except.ok.injEq, exists_eq_left']
    cases hempty : base.isEmpty with
    | true => simp
    | false => cases hdefault : c.default <;> simp [eq_comm]

/-- Variants with different names have different keys. -/
theorem nodup_keys {base : String} {ordered : List (String × String)}
    (h : (ordered.map (·.1)).Nodup) :
    ((ordered.map fun e => (base ++ "." ++ e.1, e.2)).map (·.1)).Nodup := by
  have hkeys : (ordered.map fun e => (base ++ "." ++ e.1, e.2)).map (·.1) =
      (ordered.map (·.1)).map fun name => base ++ "." ++ name := by
    simp [List.map_map, Function.comp_def]
  rw [hkeys]
  exact h.map fun a b hab => (String.append_right_inj _).mp hab

/-- **Projecting a call keeps every text as it is.**  Take a call that has been constructed from
    arguments whose object literals are dictionaries, and any reachable resolver in which it has
    translations.  A text gives one pair.  A plural gives one pair for each of its variants, with the
    text of the variant and a key of its own, the base with the name of the variant: first the
    variants that are declared now, as they are declared, then the others, as they are in the call.
    The base is the literal key, and only without one does it depend on the options, and on none but
    the key format and the key length. -/
theorem translations_project {values : OptionValues} {method : String} {line : Option Int}
    {args : List Argument} {c : Call} {r : Resolver} {pairs : List (String × String)}
    (constructed : Call.ofArguments values method line args = .ok c)
    (hargs : ∀ entries, .map entries ∈ args → entries.Distinct) (hr : r.Reachable)
    (success : c.translations r.values = .ok pairs) :
    ∃ base : String,
      (∀ key, c.key = some key → base = key) ∧
      (c.key = none →
        Key.infer c.default.primaryText.toList r.values.keyFormat r.values.maxKeyLength =
          .ok base.toList) ∧
      (∀ s, c.default = .text s → pairs = [(base, s)]) ∧
      ∀ entries, c.default = .variants entries → ∃ declared others : List (String × String),
        (declared.map (·.1)).Sublist r.values.pluralizationKeys ∧
        others = entries.filter (fun e => !r.values.pluralizationKeys.contains e.1) ∧
        (declared ++ others).Perm entries ∧
        pairs = (declared ++ others).map (fun e => (base ++ "." ++ e.1, e.2)) ∧
        (pairs.map (·.1)).Nodup := by
  have hdeclared : r.values.pluralizationKeys.Nodup := (hr.valid.values .pluralizationKeys).1
  obtain ⟨base, hbase, _, hpairs⟩ := translations_eq_ok_iff.mp success
  rw [baseKey_eq_ok_iff] at hbase
  refine ⟨base, fun key hkey => ?_, fun hkey => ?_, fun s hs => ?_, fun entries hentries => ?_⟩
  · simpa [hkey, eq_comm] using hbase
  · simpa [hkey] using hbase
  · rcases hpairs with ⟨t, ht, rfl⟩ | ⟨entries, hentries, _⟩
    · cases ht.symm.trans hs
      rfl
    · cases hentries.symm.trans hs
  · rcases hpairs with ⟨t, ht, _⟩ | ⟨entries', hentries', rfl⟩
    · cases ht.symm.trans hentries
    · cases hentries'.symm.trans hentries
      have hnames := nodup_of_ofArguments constructed hargs hentries
      have hperm := orderedVariants_perm hdeclared hnames
      exact ⟨known r.values.pluralizationKeys entries, _, names_known_sublist, rfl, hperm, rfl,
        nodup_keys ((hperm.map (·.1)).nodup_iff.mpr hnames)⟩

/-- After a variant has been dropped and the others have been put in another order, a plural call
    still has all its texts. -/
theorem translations_project_cart :
    ∃ r : Resolver, r.Reachable ∧ r.values.pluralizationKeys = ["other", "one"] ∧
      Call.ofArguments builtInValues "t" (some 7)
        [.map (literalEntries cartTexts), .map cartBag] = .ok cart ∧
      (∀ entries, .map entries ∈ [Argument.map (literalEntries cartTexts), .map cartBag] →
        entries.Distinct) ∧
      cart.translations r.values = .ok
        [("count_items_of_name_5ad2c21e.other", "%\x7b count \x7d items of %\x7bname\x7d"),
          ("count_items_of_name_5ad2c21e.one", "one of %\x7bname\x7d"),
          ("count_items_of_name_5ad2c21e.few", "some %\x7bname\x7d")] ∧
      ∃ declared others : List (String × String),
        (declared.map (·.1)).Sublist ["other", "one"] ∧ (declared ++ others).Perm cartTexts := by
  have hbuilt : (Resolver.ofDefaults builtInValues).Reachable := .built Resolver.build_builtIn
  have henter : (Resolver.ofDefaults builtInValues).enter (.text "pluralizationKeys")
      (.list [.text "other", .text "one"]) =
        .ok ((Resolver.ofDefaults builtInValues).push (.pluralizationKeys ["other", "one"])) := by
    rw [hbuilt.valid.enter_eq]
    exact eq_ok_of_toOption (by decide +kernel)
  have hr := hbuilt.enter henter
  have hargs : ∀ entries, .map entries ∈ [Argument.map (literalEntries cartTexts), .map cartBag] →
      entries.Distinct := by
    intro entries h
    simp only [List.mem_cons, Argument.map.injEq, List.not_mem_nil, or_false] at h
    rcases h with rfl | rfl <;> decide +kernel
  have hpairs : cart.translations ((Resolver.ofDefaults builtInValues).push
      (.pluralizationKeys ["other", "one"])).values = .ok
        [("count_items_of_name_5ad2c21e.other", "%\x7b count \x7d items of %\x7bname\x7d"),
          ("count_items_of_name_5ad2c21e.one", "one of %\x7bname\x7d"),
          ("count_items_of_name_5ad2c21e.few", "some %\x7bname\x7d")] :=
    eq_ok_of_toOption (by decide +kernel)
  obtain ⟨_, _, _, _, hplural⟩ := translations_project constructed_cart hargs hr hpairs
  obtain ⟨declared, others, hsublist, _, hperm, _⟩ := hplural cartTexts rfl
  exact ⟨_, hr, rfl, constructed_cart, hargs, hpairs, declared, others, hsublist, hperm⟩

end Call

end Phrasebook
