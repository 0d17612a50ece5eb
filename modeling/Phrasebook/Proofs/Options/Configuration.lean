import Phrasebook.Proofs.Options.Batch

namespace Phrasebook

/-!
# What counts in a configuration

A configuration that has one spelling of each option is no more than what it gives to which option:

* `Entries.Gives` — an entry gives an option a value;
* `gives_iff_of_recognised_perm` — neither the order of the entries nor those that name no option
  matter to it;
* `Valid.error_eq` — an error in updates is laid to the first option, in declaration order, that has
  a reason against it, in whichever order they are put together;
* `Valid.update_error_congr` — so entries that give the same fail with the same error;
* `Resolver.Reordered` — resolvers that can differ in the order of their writes only;
* `Resolver.Reachable.apply_unordered` — so configurations that give the same end in the same way.
-/

namespace Entries

/-- An entry gives an option a value. -/
def Gives (entries : Entries) (o : OptionName) (v : Value) : Prop :=
  ∃ e ∈ entries, OptionName.ofValue? e.1 = some o ∧ e.2 = v

/-- Entries that name no option give none anything. -/
theorem gives_recognised_iff (config : Entries) (o : OptionName) (v : Value) :
    (Resolver.recognised config).Gives o v ↔ config.Gives o v := by
  unfold Gives Resolver.recognised
  constructor
  · rintro ⟨e, he, ho, hv⟩
    exact ⟨e, (List.mem_filter.mp he).1, ho, hv⟩
  · rintro ⟨e, he, ho, hv⟩
    exact ⟨e, List.mem_filter.mpr ⟨he, by simp [ho]⟩, ho, hv⟩

/-- Configurations whose entries that name options are the same, in whichever order and among
    whatever others, give the same. -/
theorem gives_iff_of_recognised_perm {config config' : Entries}
    (hperm : (Resolver.recognised config).Perm (Resolver.recognised config')) (o : OptionName)
    (v : Value) : config.Gives o v ↔ config'.Gives o v := by
  rw [← gives_recognised_iff config, ← gives_recognised_iff config']
  unfold Gives
  simp only [hperm.mem_iff]

/-- With one spelling of each option, what is given decides what is given last. -/
theorem OneSpelling.winner?_congr {config config' : Entries} (h : config.OneSpelling)
    (h' : config'.OneSpelling) (hsame : ∀ o v, config.Gives o v ↔ config'.Gives o v)
    (o : OptionName) : config.winner? o = config'.winner? o := by
  apply Option.ext
  intro v
  rw [h.winner?_eq_some_iff, h'.winner?_eq_some_iff]
  exact hsame o v

end Entries

namespace Resolver

/-! ### Failure -/

/-- The option that the first of some reasons stands against. -/
def firstBlame : List (OptionName × Reason) → Blame
  | [] => .options []
  | (o, _) :: _ => .option o

/-- What is wrong with updates is laid to the first option that has a reason against it. -/
theorem Valid.error_eq {r : Resolver} (hr : r.Valid) {updates : Updates} {rejection : Rejection}
    (h : OptionValues.ofRaw (fun o => some (r.offered updates o)) = .error rejection) :
    rejection.error updates.blame = rejection.error firstBlame := by
  rcases ofRaw_eq_error_iff.mp h with hfatal | ⟨_, failures, hne, rfl, hfailures⟩
  · -- An objection that is no mere reason is laid to no option.
    obtain ⟨o, _, ho⟩ := List.exists_of_findSome?_eq_some hfatal
    unfold fatal? at ho
    split at ho <;> cases ho <;> rfl
  · obtain ⟨o, reason, rest, _, _, rfl, _, _, hfirst⟩ := exists_first_reason hne hfailures
    obtain ⟨v, hv⟩ := hr.lookup_of_reasons hfirst
    exact congrArg (OptionError.invalid · _) (blame_of_lookup hv reason rest)

/-- So updates of the same options to the same values are turned down with the same error, in
    whichever order they are. -/
theorem Valid.check_error_congr {r : Resolver} (hr : r.Valid) {updates updates' : Updates}
    (hsame : ∀ o, updates.lookup o = updates'.lookup o) {error : OptionError}
    (h : r.check updates = .error error) : r.check updates' = .error error := by
  -- The check offers each option one value, so it does not see the order of the updates; the blame
  -- does, but is the first reason's in both.
  have hoffered : r.offered updates = r.offered updates' := by
    funext o
    unfold offered
    rw [hsame]
  cases hraw : OptionValues.ofRaw fun o => some (r.offered updates o) with
  | ok values =>
    unfold offered at hraw
    simp [check, hraw] at h
  | error rejection =>
    have hblame := hr.error_eq hraw
    have hraw' := hraw
    rw [hoffered] at hraw'
    have hblame' := hr.error_eq hraw'
    unfold offered at hraw hraw'
    unfold check at h ⊢
    rw [hraw] at h
    rw [hraw']
    exact (congrArg Except.error (hblame'.trans hblame.symm)).trans h

/-- Entries with known names are written as the updates that they are put together to. -/
theorem update_of_known (r : Resolver) {entries : Entries}
    (hknown : ∀ e ∈ entries, (OptionName.ofValue? e.1).isSome = true) :
    ∃ updates : Updates, (∀ o, updates.lookup o = entries.winner? o) ∧
      r.update entries = r.updateWith updates := by
  obtain ⟨updates, hupdates, hlookup⟩ := Updates.ofEntries_of_known hknown []
  simp only [List.lookup_nil, Option.or_none] at hlookup
  refine ⟨updates, hlookup, ?_⟩
  unfold update
  rw [hupdates]

/-- A write of updates fails with the error in them. -/
theorem updateWith_eq_error_iff {r : Resolver} {updates : Updates} {error : OptionError} :
    r.updateWith updates = .error error ↔ r.check updates = .error error := by
  unfold updateWith
  cases r.check updates <;> simp

/-- Entries with known names that give each option the same last fail with the same error. -/
theorem Valid.update_error_congr {r : Resolver} (hr : r.Valid) {entries entries' : Entries}
    (hknown : ∀ e ∈ entries, (OptionName.ofValue? e.1).isSome = true)
    (hknown' : ∀ e ∈ entries', (OptionName.ofValue? e.1).isSome = true)
    (hsame : ∀ o, entries.winner? o = entries'.winner? o) {error : OptionError}
    (h : r.update entries = .error error) : r.update entries' = .error error := by
  obtain ⟨updates, hlookup, hupdate⟩ := r.update_of_known hknown
  obtain ⟨updates', hlookup', hupdate'⟩ := r.update_of_known hknown'
  rw [hupdate, updateWith_eq_error_iff] at h
  rw [hupdate', updateWith_eq_error_iff]
  exact hr.check_error_congr (fun o => by rw [hlookup, hlookup', hsame]) h

/-- The error in updates is one of values, never of names. -/
theorem check_error_ne {r : Resolver} {updates : Updates} {error : OptionError}
    (h : r.check updates = .error error) : (∀ name, error ≠ .unknown name) ∧ error ≠ .notKey := by
  unfold check at h
  split at h
  · cases h
  · rename_i rejection _
    cases h
    cases rejection <;> simp [Rejection.error]

/-- Every entry that is recognised has a known name. -/
theorem known_of_recognised (config : Entries) :
    ∀ e ∈ recognised config, (OptionName.ofValue? e.1).isSome = true := by
  intro e he
  exact (List.mem_filter.mp he).2

/-- A configuration is never at fault for a name, whatever its keys are. -/
theorem apply_error_ne {r : Resolver} {config : Entries} {error : OptionError}
    (h : r.apply config = .error error) : (∀ name, error ≠ .unknown name) ∧ error ≠ .notKey := by
  obtain ⟨updates, _, hupdate⟩ := r.update_of_known (known_of_recognised config)
  unfold apply at h
  rw [hupdate, updateWith_eq_error_iff] at h
  exact check_error_ne h

/-! ### Success -/

/-- Resolvers that can differ in the order of their writes only. -/
structure Reordered (r r' : Resolver) : Prop where
  defaults : r'.defaults = r.defaults
  overrides : r'.overrides = r.overrides
  written : ∀ o, r'.written.find? (·.option == o) = r.written.find? (·.option == o)

/-- They have the same effective settings. -/
theorem Reordered.setting {r r' : Resolver} (h : r.Reordered r') (o : OptionName) :
    r'.setting o = r.setting o := by
  rw [setting_eq, setting_eq, h.defaults, h.overrides, h.written]

/-- So reading all options gives the same. -/
theorem Reordered.values {r r' : Resolver} (h : r.Reordered r') : r'.values = r.values := by
  unfold Resolver.values
  rw [h.defaults, List.map_congr_left fun o _ => h.setting o]

/-- Configurations that give each option the same last, and can be applied, come to the same up to
    the order of the writes. -/
theorem Valid.apply_reordered {r applied applied' : Resolver} (hr : r.Valid)
    {config config' : Entries} (hsame : ∀ o, config.winner? o = config'.winner? o)
    (success : r.apply config = .ok applied) (success' : r.apply config' = .ok applied') :
    applied.Reordered applied' := by
  obtain ⟨hdefaults, hoverrides, hwritten⟩ := hr.of_apply success
  obtain ⟨hdefaults', hoverrides', hwritten'⟩ := hr.of_apply success'
  refine ⟨hdefaults'.trans hdefaults.symm, hoverrides'.trans hoverrides.symm, fun o => ?_⟩
  rw [hwritten, hwritten', hsame]

end Resolver

/-! ### In a session -/

namespace Session

/-- A configuration that can be applied gives the session its resolver, and is answered with the
    effective values. -/
theorem step_apply_of_ok {s : Session} {config : Entries} {r : Resolver}
    (h : s.resolver.apply config = .ok r) :
    (s.step (.apply config)).1 = .applied r.values ∧
      (s.step (.apply config)).2.resolver = r := by
  have hlogged := (applyReported_fst s.resolver config s.journal).trans h
  rw [step]
  split
  · rename_i r' s' hstep
    cases (congrArg Prod.fst hstep).symm.trans hlogged
    exact ⟨rfl, rfl⟩
  · rename_i e s' hstep
    cases (congrArg Prod.fst hstep).symm.trans hlogged

/-- One that cannot is answered with the error, and the session keeps its resolver. -/
theorem step_apply_of_error {s : Session} {config : Entries} {error : OptionError}
    (h : s.resolver.apply config = .error error) :
    (s.step (.apply config)).1 = .failed (.option error) ∧
      (s.step (.apply config)).2.resolver = s.resolver := by
  have hlogged := (applyReported_fst s.resolver config s.journal).trans h
  have hanswer : (s.step (.apply config)).1 = .failed (.option error) := by
    rw [step]
    split
    · rename_i r' s' hstep
      cases (congrArg Prod.fst hstep).symm.trans hlogged
    · rename_i e s' hstep
      cases (congrArg Prod.fst hstep).symm.trans hlogged
      rfl
  have hfailed : (s.step (.apply config)).1.Failed := by
    rw [hanswer]
    trivial
  exact ⟨hanswer, s.resolver_of_failed _ hfailed⟩

end Session

/-! ### Configurations that give the same -/

namespace Resolver

/-- **Only what a configuration gives to its options counts.**  Let two configurations, with one
    spelling of each option, give the same values to the same options, in any order and among any
    other entries.  Then both can be applied, and come to the same defaults, overrides, writes and
    effective settings; or both fail with the same error, which is none of names, and change nothing.
    A session answers both in the same way. -/
theorem Reachable.apply_unordered {r : Resolver} (hr : r.Reachable) {config config' : Entries}
    (h : config.OneSpelling) (h' : config'.OneSpelling)
    (hsame : ∀ o v, config.Gives o v ↔ config'.Gives o v) :
    ((∃ applied applied', r.apply config = .ok applied ∧ r.apply config' = .ok applied' ∧
        applied.Reordered applied' ∧ (∀ o, applied'.setting o = applied.setting o) ∧
        ∀ s : Session, s.resolver = r →
          (s.step (.apply config)).2.resolver = applied ∧
          (s.step (.apply config')).2.resolver = applied') ∨
      ∃ error, r.apply config = .error error ∧ r.apply config' = .error error ∧
        (∀ name, error ≠ .unknown name) ∧ error ≠ .notKey ∧
        ∀ s : Session, s.resolver = r →
          (s.step (.apply config)).2.resolver = r ∧ (s.step (.apply config')).2.resolver = r) ∧
    ∀ s : Session, s.resolver = r → (s.step (.apply config)).1 = (s.step (.apply config')).1 := by
  have hvalid := hr.valid
  have hwinner := h.winner?_congr h' hsame
  -- Success and failure alike depend on what each option is given last.
  cases hfirst : r.apply config with
  | ok applied =>
    have hsecond : ∃ applied', r.apply config' = .ok applied' := by
      rw [hvalid.apply_isOk_iff]
      simp only [← hwinner]
      exact hvalid.apply_isOk_iff.mp ⟨applied, hfirst⟩
    obtain ⟨applied', hsecond⟩ := hsecond
    have hreordered := hvalid.apply_reordered hwinner hfirst hsecond
    refine ⟨.inl ⟨applied, applied', rfl, hsecond, hreordered, hreordered.setting, ?_⟩, ?_⟩
    · rintro s rfl
      exact ⟨(Session.step_apply_of_ok hfirst).2, (Session.step_apply_of_ok hsecond).2⟩
    · rintro s rfl
      rw [(Session.step_apply_of_ok hfirst).1, (Session.step_apply_of_ok hsecond).1,
        hreordered.values]
  | error error =>
    have hsecond : r.apply config' = .error error :=
      hvalid.update_error_congr (known_of_recognised config) (known_of_recognised config')
        (fun o => by rw [winner?_recognised, winner?_recognised, hwinner]) hfirst
    obtain ⟨hunknown, hkey⟩ := apply_error_ne hfirst
    refine ⟨.inr ⟨error, rfl, hsecond, hunknown, hkey, ?_⟩, ?_⟩
    · rintro s rfl
      exact ⟨(Session.step_apply_of_error hfirst).2, (Session.step_apply_of_error hsecond).2⟩
    · rintro s rfl
      rw [(Session.step_apply_of_error hfirst).1, (Session.step_apply_of_error hsecond).1]

/-- A short limit and a pattern without a group, between a path and a number. -/
def pathThenLimit : Entries :=
  [(.text "basePath", .text "src"), (.text "maxKeyLength", .int 5), (.int 3, .null),
    (.text "interpolation_syntax", .text "%")]

/-- The same the other way round, beside a flag. -/
def patternThenLimit : Entries :=
  [(.text "interpolation_syntax", .text "%"), (.bool true, .text "yes"),
    (.text "maxKeyLength", .int 5)]

/-- Both fail for the limit. -/
theorem apply_unordered_limits :
    (ofDefaults builtInValues).Reachable ∧ pathThenLimit.OneSpelling ∧
      patternThenLimit.OneSpelling ∧
      ∃ error, (ofDefaults builtInValues).apply pathThenLimit = .error error ∧
        (ofDefaults builtInValues).apply patternThenLimit = .error error ∧
        ∀ name, error ≠ .unknown name := by
  have hbuilt : (ofDefaults builtInValues).Reachable := .built build_builtIn
  have hperm : (recognised pathThenLimit).Perm (recognised patternThenLimit) :=
    List.Perm.swap (Value.text "interpolation_syntax", Value.text "%")
      (Value.text "maxKeyLength", Value.int 5) []
  obtain ⟨⟨applied, _, success, _⟩ | ⟨error, hfirst, hsecond, hunknown, _⟩, _⟩ :=
    hbuilt.apply_unordered (by decide) (by decide) (Entries.gives_iff_of_recognised_perm hperm)
  · -- The limit is too short.
    obtain ⟨s, hs⟩ := hbuilt.valid.apply_isOk_iff.mp ⟨applied, success⟩ .maxKeyLength (.int 5) rfl
    cases hs
  · exact ⟨hbuilt, by decide, by decide, error, hfirst, hsecond, hunknown⟩

end Resolver

end Phrasebook
