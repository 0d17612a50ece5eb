import Phrasebook.Proofs.Options.Reachable

namespace Phrasebook

/-!
# Updates option by option

A dictionary is stored as a whole or not at all, and what it stores can be said for each option by
itself, without the order in which entries are put together:

* `Entries.winner?` — the value that a dictionary gives an option last, in either spelling;
* `Entries.accepted` — whether every entry names an option and every winning value is valid;
* `Entries.stored?` — the setting that a dictionary stores for an option;
* `verdict_eq_ok_iff`, `Valid.set_isOk_iff` — a single write succeeds exactly for a known name and a
  value that is valid for its option;
* `Valid.check_eq_check` — what updates are checked to does not depend on the resolver;
* `Valid.update_of_accepted`, `update_of_not_accepted` — an update succeeds exactly for accepted
  entries, and writes what they store;
* `set_eq_update` — a single write is the update of one entry;
* `Valid.apply_isOk_iff`, `Valid.of_apply` — the same of a configuration, whose other entries do not
  matter.
-/

namespace Entries

/-- The value that entries give an option last, in whichever spelling. -/
def winner? (o : OptionName) (entries : Entries) : Option Value :=
  (entries.reverse.find? fun e => OptionName.ofValue? e.1 == some o).map (·.2)

/-- Whether all entries can be stored: each names an option, and what an option is given last is
    valid. -/
def accepted (entries : Entries) : Bool :=
  (entries.all fun e => (OptionName.ofValue? e.1).isSome) &&
    OptionName.all.all fun o => (winner? o entries).all fun v => (o.check v).isOk

/-- The setting that entries store for an option, if all of them can be stored. -/
def stored? (o : OptionName) (entries : Entries) : Option Setting :=
  if accepted entries then (winner? o entries).bind fun v => (o.check v).toOption else none

/-- A later entry wins over an earlier one. -/
theorem winner?_cons (o : OptionName) (name v : Value) (rest : Entries) :
    winner? o ((name, v) :: rest) =
      (winner? o rest).or (if OptionName.ofValue? name = some o then some v else none) := by
  unfold winner?
  rw [List.reverse_cons, List.find?_append, Option.map_or]
  congr 1
  by_cases h : OptionName.ofValue? name = some o <;> simp [h]

/-- Entries are accepted when their names are known and each winning value is valid. -/
theorem accepted_iff {entries : Entries} :
    accepted entries = true ↔
      (∀ e ∈ entries, (OptionName.ofValue? e.1).isSome = true) ∧
        ∀ o v, winner? o entries = some v → ∃ s, o.check v = .ok s := by
  have hall : ∀ o, o ∈ OptionName.all := by
    intro o
    cases o <;> simp [OptionName.all]
  have hok : ∀ x : Except Objection Setting, x.isOk = true ↔ ∃ s, x = .ok s := by
    intro x
    cases x <;> simp [Except.isOk, Except.toBool]
  simp only [accepted, Bool.and_eq_true, List.all_eq_true, Option.all_eq_true, hok]
  exact and_congr_right fun _ => ⟨fun h o => h o (hall o), fun h o _ => h o⟩

end Entries

/-! ### Names and values -/

/-- A name is resolved to the option that it names. -/
theorem resolveName_eq_ok_iff {name : Value} {o : OptionName} :
    resolveName name = .ok o ↔ OptionName.ofValue? name = some o := by
  unfold resolveName
  cases name with
  | text s =>
    simp only [Value.canBeKey, if_true]
    split <;> simp_all
  | _ =>
    simp only [OptionName.ofValue?]
    split <;> simp

/-- What a known name and a value come to is the verdict on the value for the option. -/
theorem verdict_of_named {name : Value} {o : OptionName} (hname : OptionName.ofValue? name = some o)
    (v : Value) : verdict name v = o.verdict v := by
  unfold verdict
  rw [resolveName_eq_ok_iff.mpr hname]

/-- A name and a value come to a setting if the value is valid for the option that is named. -/
theorem verdict_eq_ok_iff {name v : Value} {s : Setting} :
    verdict name v = .ok s ↔ ∃ o, OptionName.ofValue? name = some o ∧ o.check v = .ok s := by
  simp only [← resolveName_eq_ok_iff]
  unfold verdict
  cases resolveName name with
  | error e => simp
  | ok o =>
    simp only [Except.ok.injEq, exists_eq_left']
    unfold OptionName.verdict
    cases o.check v with
    | ok t => simp
    | error objection => cases objection <;> simp

/-! ### Putting entries together -/

namespace Updates

/-- A value is put under its option and hides no other. -/
theorem lookup_put (o p : OptionName) (v : Value) (updates : Updates) :
    (put o v updates).lookup p = if p = o then some v else updates.lookup p := by
  induction updates with
  | nil =>
    by_cases hp : p = o
    · simp [put, hp]
    · simp [put, hp, List.lookup_cons, beq_false_of_ne hp]
  | cons u rest ih =>
    obtain ⟨q, w⟩ := u
    unfold put
    by_cases hq : q = o
    · subst hq
      by_cases hp : p = q
      · simp [hp]
      · simp [hp, List.lookup_cons, beq_false_of_ne hp]
    · rw [if_neg hq]
      by_cases hpq : p = q
      · subst hpq
        simp [hq]
      · simp [List.lookup_cons, beq_false_of_ne hpq, ih]

/-- Entries with known names can be put together, and each option gets the value that wins. -/
theorem ofEntries_of_known {entries : Entries}
    (hknown : ∀ e ∈ entries, (OptionName.ofValue? e.1).isSome = true) (start : Updates) :
    ∃ updates, ofEntries entries start = .ok updates ∧
      ∀ o, updates.lookup o = (entries.winner? o).or (start.lookup o) := by
  -- The induction is on the entries still to come, over whatever has been put already.
  induction entries generalizing start with
  | nil => exact ⟨start, rfl, fun o => rfl⟩
  | cons e rest ih =>
    obtain ⟨name, v⟩ := e
    obtain ⟨p, hp⟩ := Option.isSome_iff_exists.mp (hknown (name, v) List.mem_cons_self)
    obtain ⟨updates, hupdates, hlookup⟩ :=
      ih (fun e he => hknown e (List.mem_cons_of_mem _ he)) (put p v start)
    refine ⟨updates, ?_, fun o => ?_⟩
    · rw [ofEntries, resolveName_eq_ok_iff.mpr hp]
      exact hupdates
    · rw [hlookup, lookup_put, Entries.winner?_cons, hp, Option.or_assoc]
      by_cases ho : o = p
      · simp [ho]
      · simp [ho, Ne.symm ho]

/-- Entries with an unknown name cannot. -/
theorem ofEntries_of_unknown {entries : Entries}
    (hunknown : ∃ e ∈ entries, OptionName.ofValue? e.1 = none) (start : Updates) :
    ∃ error, ofEntries entries start = .error error := by
  induction entries generalizing start with
  | nil => simp at hunknown
  | cons e rest ih =>
    obtain ⟨name, v⟩ := e
    rw [ofEntries]
    cases hname : resolveName name with
    | error error => exact ⟨error, rfl⟩
    | ok p =>
      obtain ⟨e, he, hnone⟩ := hunknown
      rcases List.mem_cons.mp he with rfl | he
      · rw [resolveName_eq_ok_iff.mp hname] at hnone
        cases hnone
      · exact ih ⟨e, he, hnone⟩ _

end Updates

namespace Resolver

/-! ### Single writes -/

/-- A write stores the setting that its value is for the option that it names. -/
theorem Valid.set_eq_ok_iff {r r' : Resolver} (hr : r.Valid) {name v : Value} :
    r.set name v = .ok r' ↔
      ∃ o s, OptionName.ofValue? name = some o ∧ o.check v = .ok s ∧ r' = r.write s := by
  rw [hr.set_eq]
  constructor
  · intro h
    cases hs : verdict name v with
    | error e => simp [hs, Except.map] at h
    | ok s =>
      obtain ⟨o, ho, hcheck⟩ := verdict_eq_ok_iff.mp hs
      refine ⟨o, s, ho, hcheck, ?_⟩
      rw [hs] at h
      exact (Except.ok.inj h).symm
  · rintro ⟨o, s, ho, hcheck, rfl⟩
    rw [verdict_eq_ok_iff.mpr ⟨o, ho, hcheck⟩]
    rfl

/-- So whether it can be made does not depend on the resolver. -/
theorem Valid.set_isOk_iff {r : Resolver} (hr : r.Valid) {name v : Value} :
    (∃ r', r.set name v = .ok r') ↔
      ∃ o s, OptionName.ofValue? name = some o ∧ o.check v = .ok s := by
  simp only [hr.set_eq_ok_iff]
  constructor
  · rintro ⟨_, o, s, ho, hs, _⟩
    exact ⟨o, s, ho, hs⟩
  · rintro ⟨o, s, ho, hs⟩
    exact ⟨_, o, s, ho, hs, rfl⟩

/-! ### Storing what was put together -/

/-- Writing settings in turn leaves defaults and overrides alone, and the last setting of an option
    hides those before it. -/
theorem written_foldl_write (settings : List Setting) (r : Resolver) :
    (settings.foldl write r).defaults = r.defaults ∧
      (settings.foldl write r).overrides = r.overrides ∧
      ∀ o, (settings.foldl write r).written.find? (·.option == o) =
        (settings.reverse.find? (·.option == o)).or (r.written.find? (·.option == o)) := by
  induction settings generalizing r with
  | nil => exact ⟨rfl, rfl, fun o => rfl⟩
  | cons s rest ih =>
    obtain ⟨hdefaults, hoverrides, hwritten⟩ := ih (r.write s)
    refine ⟨hdefaults, hoverrides, fun o => ?_⟩
    rw [List.foldl_cons, hwritten, find?_written_write, List.reverse_cons, List.find?_append,
      Option.or_assoc]
    congr 1
    by_cases ho : s.option = o <;> simp [ho]

/-- Updates are checked to the settings of their options. -/
theorem Valid.check_of_accepted {r : Resolver} (hr : r.Valid) {updates : Updates}
    (hvalid : ∀ (o : OptionName) v, updates.lookup o = some v → ∃ s, o.check v = .ok s) :
    ∃ values : OptionValues,
      r.check updates = .ok (updates.map fun u => values.setting u.1) ∧
        ∀ (o : OptionName) v, updates.lookup o = some v → o.check v = .ok (values.setting o) := by
  -- An option that is not updated passes with its effective value.
  obtain ⟨values, hall⟩ : ∃ values, OptionValues.ofRaw
      (fun o => some ((updates.lookup o).getD (r.setting o).toValue)) = .ok values := by
    refine ofRaw_isOk_iff.mpr fun o => ?_
    cases hlookup : updates.lookup o with
    | none => exact ⟨_, r.setting o, rfl, hr.check_current o⟩
    | some v =>
      obtain ⟨s, hs⟩ := hvalid o v hlookup
      exact ⟨_, s, rfl, hs⟩
  refine ⟨values, ?_, fun o v hlookup => ?_⟩
  · unfold check
    rw [hall]
  · obtain ⟨w, hw, hcheck⟩ := ofRaw_eq_ok_iff.mp hall o
    rw [hlookup, Option.getD_some] at hw
    cases hw
    exact hcheck

/-- The value that a check of updates looks at for an option: the one it is updated to, else the one
    in force. -/
def offered (r : Resolver) (updates : Updates) (o : OptionName) : Value :=
  (updates.lookup o).getD (r.setting o).toValue

/-- Two resolvers offer the same value for an option that is updated; for any other both offer one
    that passes. -/
theorem Valid.check_offered {r r' : Resolver} (hr : r.Valid) (hr' : r'.Valid) (updates : Updates)
    (o : OptionName) :
    o.check (r.offered updates o) = o.check (r'.offered updates o) ∨
      updates.lookup o = none ∧ ∃ s s', o.check (r.offered updates o) = .ok s ∧
        o.check (r'.offered updates o) = .ok s' := by
  unfold offered
  cases updates.lookup o with
  | some v => exact .inl rfl
  | none => exact .inr ⟨rfl, _, _, hr.check_current o, hr'.check_current o⟩

/-- What updates are checked to, or the error in them, does not depend on the resolver. -/
theorem Valid.check_eq_check {r r' : Resolver} (hr : r.Valid) (hr' : r'.Valid)
    (updates : Updates) : r.check updates = r'.check updates := by
  -- Objections count only where the two offer the same value.
  have hobjection : ∀ {β : Type} (f : Except Objection Setting → β),
      (∀ s s', f (.ok s) = f (.ok s')) → ∀ o : OptionName,
        f (o.check (r.offered updates o)) = f (o.check (r'.offered updates o)) := by
    intro β f hf o
    rcases hr.check_offered hr' updates o with h | ⟨_, s, s', h, h'⟩
    · rw [h]
    · rw [h, h', hf s s']
  have herror : ∀ rejection,
      OptionValues.ofRaw (fun o => some (r.offered updates o)) = .error rejection ↔
        OptionValues.ofRaw (fun o => some (r'.offered updates o)) = .error rejection := by
    intro rejection
    simp only [ofRaw_eq_error_iff, hobjection fatal? fun _ _ => rfl,
      hobjection reasonsOf fun _ _ => rfl]
  unfold check
  cases hraw : OptionValues.ofRaw fun o => some (r.offered updates o) with
  | error rejection =>
    have hraw' := (herror rejection).mp hraw
    unfold offered at hraw hraw'
    rw [hraw, hraw']
  | ok values =>
    cases hraw' : OptionValues.ofRaw fun o => some (r'.offered updates o) with
    | error rejection =>
      rw [(herror rejection).mpr hraw'] at hraw
      cases hraw
    | ok values' =>
      have hvalues : ∀ u ∈ updates, values.setting u.1 = values'.setting u.1 := by
        intro u hu
        obtain ⟨_, ⟨⟩, hcheck⟩ := ofRaw_eq_ok_iff.mp hraw u.1
        obtain ⟨_, ⟨⟩, hcheck'⟩ := ofRaw_eq_ok_iff.mp hraw' u.1
        rcases hr.check_offered hr' updates u.1 with h | ⟨hnone, _⟩
        · rw [hcheck, hcheck'] at h
          exact Except.ok.inj h
        · have hne := List.lookup_eq_none_iff.mp hnone u hu
          simp at hne
      unfold offered at hraw hraw'
      rw [hraw, hraw']
      exact congrArg Except.ok (List.map_congr_left hvalues)

/-- An update of valid values succeeds, and writes what they are checked to. -/
theorem Valid.updateWith_of_accepted {r : Resolver} (hr : r.Valid) {updates : Updates}
    (hvalid : ∀ (o : OptionName) v, updates.lookup o = some v → ∃ s, o.check v = .ok s) :
    ∃ r', r.updateWith updates = .ok r' ∧ r'.defaults = r.defaults ∧
      r'.overrides = r.overrides ∧
      ∀ o, r'.written.find? (·.option == o) =
        ((updates.lookup o).bind fun v => (o.check v).toOption).or
          (r.written.find? (·.option == o)) := by
  obtain ⟨values, hcheck, hvalues⟩ := hr.check_of_accepted hvalid
  obtain ⟨hdefaults, hoverrides, hwritten⟩ :=
    written_foldl_write (updates.map fun u => values.setting u.1) r
  refine ⟨_, by rw [Resolver.updateWith, hcheck], hdefaults, hoverrides, fun o => ?_⟩
  rw [hwritten]
  congr 1
  have hoption : ∀ p, (values.setting p).option = p := fun p => by cases p <;> rfl
  -- Every setting of `o` in the list is the same one, so it does not matter which is found.
  cases hlookup : updates.lookup o with
  | none =>
    have hnot : ∀ u ∈ updates, u.1 ≠ o := by
      intro u hu ho
      have h := List.lookup_eq_none_iff.mp hlookup u hu
      simp [ho] at h
    rw [Option.bind_none, List.find?_eq_none]
    intro s hs
    obtain ⟨u, hu, rfl⟩ := List.mem_map.mp (List.mem_reverse.mp hs)
    simpa [hoption] using hnot u hu
  | some v =>
    rw [Option.bind_some, hvalues o v hlookup]
    show _ = some (values.setting o)
    obtain ⟨before, after, rfl, _⟩ := List.lookup_eq_some_iff.mp hlookup
    cases hfind : ((before ++ (o, v) :: after).map fun u => values.setting u.1).reverse.find?
        (·.option == o) with
    | none => simp [hoption] at hfind
    | some s =>
      have ho : s.option = o := by simpa using List.find?_some hfind
      obtain ⟨u, _, rfl⟩ := List.mem_map.mp (List.mem_reverse.mp (List.mem_of_find?_eq_some hfind))
      rw [hoption] at ho
      rw [ho]

/-- Updates that succeed have been valid. -/
theorem accepted_of_updateWith {r r' : Resolver} {updates : Updates}
    (h : r.updateWith updates = .ok r') (o : OptionName) (v : Value)
    (hlookup : updates.lookup o = some v) : ∃ s, o.check v = .ok s := by
  unfold updateWith check at h
  cases hall : OptionValues.ofRaw
      (fun o => some ((updates.lookup o).getD (r.setting o).toValue)) with
  | error e => simp [hall] at h
  | ok values =>
    obtain ⟨w, hw, hcheck⟩ := ofRaw_eq_ok_iff.mp hall o
    simp only [hlookup, Option.getD_some, Option.some.injEq] at hw
    exact ⟨_, hw ▸ hcheck⟩

/-! ### Updates -/

/-- An update of accepted entries succeeds and writes what they store. -/
theorem Valid.update_of_accepted {r : Resolver} (hr : r.Valid) {entries : Entries}
    (haccepted : entries.accepted = true) :
    ∃ r', r.update entries = .ok r' ∧ r'.defaults = r.defaults ∧ r'.overrides = r.overrides ∧
      ∀ o, r'.written.find? (·.option == o) =
        (entries.stored? o).or (r.written.find? (·.option == o)) := by
  obtain ⟨hknown, hvalid⟩ := Entries.accepted_iff.mp haccepted
  obtain ⟨updates, hupdates, hlookup⟩ := Updates.ofEntries_of_known hknown []
  simp only [List.lookup_nil, Option.or_none] at hlookup
  obtain ⟨r', hr', hdefaults, hoverrides, hwritten⟩ :=
    hr.updateWith_of_accepted fun o v h => hvalid o v (hlookup o ▸ h)
  refine ⟨r', ?_, hdefaults, hoverrides, fun o => ?_⟩
  · unfold Resolver.update
    rw [hupdates]
    exact hr'
  · rw [hwritten, hlookup, Entries.stored?, if_pos haccepted]

/-- An update of entries that are not accepted fails. -/
theorem update_of_not_accepted (r : Resolver) {entries : Entries}
    (hrejected : entries.accepted = false) : ∃ e, r.update entries = .error e := by
  unfold update
  by_cases hknown : ∀ e ∈ entries, (OptionName.ofValue? e.1).isSome = true
  · obtain ⟨updates, hupdates, hlookup⟩ := Updates.ofEntries_of_known hknown []
    rw [hupdates]
    cases hr' : r.updateWith updates with
    | error e => exact ⟨e, hr'⟩
    | ok r' =>
      -- An update that succeeds has checked what every option was given last.
      have hvalid : ∀ o v, entries.winner? o = some v → ∃ s, o.check v = .ok s := by
        intro o v hv
        exact accepted_of_updateWith hr' o v (by rw [hlookup, hv]; rfl)
      rw [Entries.accepted_iff.mpr ⟨hknown, hvalid⟩] at hrejected
      cases hrejected
  · obtain ⟨e, he, hnone⟩ : ∃ e ∈ entries, OptionName.ofValue? e.1 = none := by
      simpa using hknown
    obtain ⟨error, herror⟩ := Updates.ofEntries_of_unknown ⟨e, he, hnone⟩ []
    exact ⟨error, by rw [herror]⟩

/-- An update succeeds exactly when its entries are accepted. -/
theorem Valid.update_isOk_iff {r : Resolver} (hr : r.Valid) {entries : Entries} :
    (∃ r', r.update entries = .ok r') ↔ entries.accepted = true := by
  constructor
  · rintro ⟨r', hr'⟩
    by_contra hrejected
    obtain ⟨e, he⟩ := r.update_of_not_accepted (Bool.eq_false_iff.mpr hrejected)
    rw [he] at hr'
    cases hr'
  · intro haccepted
    obtain ⟨r', hr', _⟩ := hr.update_of_accepted haccepted
    exact ⟨r', hr'⟩

/-- A single write is the update of one entry. -/
theorem set_eq_update (r : Resolver) (name v : Value) :
    r.set name v = r.update [(name, v)] := by
  unfold set update updateWith
  rw [Updates.ofEntries]
  cases resolveName name <;> rfl

/-! ### Configurations -/

/-- Entries that name no option give none anything. -/
theorem winner?_recognised (o : OptionName) (config : Entries) :
    (recognised config).winner? o = config.winner? o := by
  unfold Entries.winner? recognised
  rw [← List.filter_reverse, List.find?_filter]
  congr 2
  funext e
  cases OptionName.ofValue? e.1 with
  | none => rfl
  | some p => by_cases hp : p = o <;> simp [hp]

/-- The entries that name options are accepted if each winning value is valid. -/
theorem accepted_recognised_iff {config : Entries} :
    (recognised config).accepted = true ↔
      ∀ o v, config.winner? o = some v → ∃ s, o.check v = .ok s := by
  have hknown : ∀ e ∈ recognised config, (OptionName.ofValue? e.1).isSome = true := by
    intro e he
    exact (List.mem_filter.mp he).2
  simp only [Entries.accepted_iff, winner?_recognised]
  exact and_iff_right hknown

/-- A configuration can be applied exactly if each winning value is valid. -/
theorem Valid.apply_isOk_iff {r : Resolver} (hr : r.Valid) {config : Entries} :
    (∃ r', r.apply config = .ok r') ↔
      ∀ o v, config.winner? o = some v → ∃ s, o.check v = .ok s := by
  rw [← accepted_recognised_iff]
  exact hr.update_isOk_iff

/-- A configuration that has been applied has written the winning values. -/
theorem Valid.of_apply {r r' : Resolver} (hr : r.Valid) {config : Entries}
    (success : r.apply config = .ok r') :
    r'.defaults = r.defaults ∧ r'.overrides = r.overrides ∧
      ∀ o, r'.written.find? (·.option == o) =
        ((config.winner? o).bind fun v => (o.check v).toOption).or
          (r.written.find? (·.option == o)) := by
  have haccepted := accepted_recognised_iff.mpr (hr.apply_isOk_iff.mp ⟨r', success⟩)
  obtain ⟨r'', hr'', hdefaults, hoverrides, hwritten⟩ := hr.update_of_accepted haccepted
  cases success.symm.trans hr''
  refine ⟨hdefaults, hoverrides, fun o => ?_⟩
  rw [hwritten, Entries.stored?, if_pos haccepted, winner?_recognised]

/-- A single write is the configuration of one entry, if the entry names an option. -/
theorem set_eq_apply (r : Resolver) {name : Value} {o : OptionName}
    (hname : OptionName.ofValue? name = some o) (v : Value) :
    r.set name v = r.apply [(name, v)] := by
  rw [set_eq_update, apply, recognised, List.filter_cons_of_pos (by simp [hname])]
  rfl

end Resolver

end Phrasebook
