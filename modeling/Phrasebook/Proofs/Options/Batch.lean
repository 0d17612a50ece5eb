import Phrasebook.Proofs.Options.Update

namespace Phrasebook

/-!
# Updates as single writes

A dictionary that gives each option one value at most is written as its entries would be one by one,
or not at all:

* `Entries.OneSpelling` — no two entries name the same option;
* `Resolver.setEach` — the entries written one after the other;
* `Valid.update_isOk_iff_forall_set` — an update succeeds exactly if each entry alone can be set;
* `Valid.setEach_of_forall` — what the single writes come to, in whichever order;
* `Valid.blame_of_update` — an update that fails is laid to the first option, in declaration order,
  whose own value is not valid;
* `Session.resolver_of_failed` — a step that fails leaves the resolver as it was;
* `Resolver.Reachable.update_batch` — all of it together.
-/

namespace Entries

/-- No two entries name the same option. -/
def OneSpelling (entries : Entries) : Prop :=
  entries.Pairwise fun e f =>
    OptionName.ofValue? e.1 = OptionName.ofValue? f.1 → OptionName.ofValue? e.1 = none

instance (entries : Entries) : Decidable entries.OneSpelling :=
  inferInstanceAs (Decidable (entries.Pairwise fun e f =>
    OptionName.ofValue? e.1 = OptionName.ofValue? f.1 → OptionName.ofValue? e.1 = none))

/-- What an option is given last is the value of an entry that names it. -/
theorem exists_mem_of_winner? {entries : Entries} {o : OptionName} {v : Value}
    (h : entries.winner? o = some v) :
    ∃ e ∈ entries, OptionName.ofValue? e.1 = some o ∧ e.2 = v := by
  obtain ⟨e, he, rfl⟩ := Option.map_eq_some_iff.mp h
  have hname := List.find?_some he
  exact ⟨e, List.mem_reverse.mp (List.mem_of_find?_eq_some he), by simpa using hname, rfl⟩

/-- Where each option has one spelling, the value that it is given last is the only one. -/
theorem OneSpelling.winner?_eq_some_iff {entries : Entries} (h : entries.OneSpelling)
    {o : OptionName} {v : Value} :
    entries.winner? o = some v ↔ ∃ e ∈ entries, OptionName.ofValue? e.1 = some o ∧ e.2 = v := by
  refine ⟨exists_mem_of_winner?, ?_⟩
  rintro ⟨e, he, ho, rfl⟩
  induction entries with
  | nil => cases he
  | cons f rest ih =>
    obtain ⟨hnew, hrest⟩ := List.pairwise_cons.mp h
    rw [winner?_cons]
    rcases List.mem_cons.mp he with rfl | he
    · -- No later entry names the option again.
      have hnone : winner? o rest = none := by
        rw [Option.eq_none_iff_forall_ne_some]
        intro w hw
        obtain ⟨f, hf, hfo, _⟩ := exists_mem_of_winner? hw
        rw [hnew f hf (ho.trans hfo.symm)] at ho
        cases ho
      rw [hnone, if_pos ho, Option.none_or]
    · rw [ih hrest he, Option.some_or]

/-- The order of the entries does not matter to their having one spelling each. -/
theorem OneSpelling.perm {entries order : Entries} (h : entries.OneSpelling)
    (hperm : order.Perm entries) : order.OneSpelling :=
  List.Pairwise.perm h hperm.symm fun hef hfe => hfe ▸ hef hfe.symm

/-- Nor to what an option is given. -/
theorem OneSpelling.winner?_perm {entries order : Entries} (h : entries.OneSpelling)
    (hperm : order.Perm entries) (o : OptionName) : order.winner? o = entries.winner? o := by
  apply Option.ext
  intro v
  simp only [h.winner?_eq_some_iff, (h.perm hperm).winner?_eq_some_iff, hperm.mem_iff]

end Entries

namespace Resolver

/-- Writes the entries one after the other, up to the first that fails. -/
def setEach (r : Resolver) : Entries → Except OptionError Resolver
  | [] => .ok r
  | e :: rest =>
    match r.set e.1 e.2 with
    | .ok r' => setEach r' rest
    | .error error => .error error

/-! ### Success -/

/-- An update succeeds exactly if each entry alone can be set. -/
theorem Valid.update_isOk_iff_forall_set {r : Resolver} (hr : r.Valid) {entries : Entries}
    (h : entries.OneSpelling) :
    (∃ r', r.update entries = .ok r') ↔ ∀ e ∈ entries, ∃ r', r.set e.1 e.2 = .ok r' := by
  rw [hr.update_isOk_iff, Entries.accepted_iff]
  simp only [hr.set_isOk_iff, h.winner?_eq_some_iff]
  constructor
  · rintro ⟨hknown, hvalid⟩ e he
    obtain ⟨o, ho⟩ := Option.isSome_iff_exists.mp (hknown e he)
    obtain ⟨s, hs⟩ := hvalid o e.2 ⟨e, he, ho, rfl⟩
    exact ⟨o, s, ho, hs⟩
  · intro hset
    refine ⟨fun e he => ?_, ?_⟩
    · obtain ⟨o, _, ho, _⟩ := hset e he
      exact Option.isSome_iff_exists.mpr ⟨o, ho⟩
    · rintro o v ⟨e, he, ho, rfl⟩
      obtain ⟨p, s, hp, hs⟩ := hset e he
      cases ho.symm.trans hp
      exact ⟨s, hs⟩

/-- Single writes that can each be made can be made one after the other, and store for an option what
    it is given last. -/
theorem Valid.setEach_of_forall {r : Resolver} (hr : r.Valid) {entries : Entries}
    (hset : ∀ e ∈ entries, ∃ r', r.set e.1 e.2 = .ok r') :
    ∃ r', r.setEach entries = .ok r' ∧ r'.defaults = r.defaults ∧ r'.overrides = r.overrides ∧
      ∀ o, r'.written.find? (·.option == o) =
        ((entries.winner? o).bind fun v => (o.check v).toOption).or
          (r.written.find? (·.option == o)) := by
  induction entries generalizing r with
  | nil => exact ⟨r, rfl, rfl, rfl, fun o => rfl⟩
  | cons e rest ih =>
    obtain ⟨hfirst, hothers⟩ := List.forall_mem_cons.mp hset
    obtain ⟨p, s, hp, hs⟩ := hr.set_isOk_iff.mp hfirst
    have hwrite : r.set e.1 e.2 = .ok (r.write s) := hr.set_eq_ok_iff.mpr ⟨p, s, hp, hs, rfl⟩
    have hvalid : (r.write s).Valid := hr.set hwrite
    obtain ⟨r', hr', hdefaults, hoverrides, hwritten⟩ := ih hvalid fun f hf =>
      hvalid.set_isOk_iff.mpr (hr.set_isOk_iff.mp (hothers f hf))
    refine ⟨r', ?_, hdefaults, hoverrides, fun o => ?_⟩
    · rw [setEach, hwrite]
      exact hr'
    · rw [hwritten, find?_written_write, Entries.winner?_cons, hp, (valid_of_check hs).1]
      cases hlater : Entries.winner? o rest with
      | none =>
        by_cases ho : p = o
        · subst ho
          simp [hs, Except.toOption]
        · simp [ho]
      | some w =>
        -- A later value is valid too, so it hides this one.
        obtain ⟨f, hf, hfo, rfl⟩ := Entries.exists_mem_of_winner? hlater
        obtain ⟨q, t, hq, ht⟩ := hr.set_isOk_iff.mp (hothers f hf)
        cases hfo.symm.trans hq
        simp [ht, Except.toOption]

/-- The single writes of a dictionary that can be updated come to the update, in any order. -/
theorem Valid.setEach_eq_update {r r' : Resolver} (hr : r.Valid) {entries order : Entries}
    (h : entries.OneSpelling) (hperm : order.Perm entries) (success : r.update entries = .ok r') :
    ∃ r'', r.setEach order = .ok r'' ∧ r''.defaults = r'.defaults ∧
      r''.overrides = r'.overrides ∧
      (∀ o, r''.written.find? (·.option == o) = r'.written.find? (·.option == o)) ∧
      ∀ o, r''.setting o = r'.setting o := by
  have haccepted := hr.update_isOk_iff.mp ⟨r', success⟩
  obtain ⟨updated, hupdated, hdefaults, hoverrides, hwritten⟩ := hr.update_of_accepted haccepted
  cases success.symm.trans hupdated
  have hset := (hr.update_isOk_iff_forall_set h).mp ⟨r', success⟩
  obtain ⟨r'', hr'', hdefaults', hoverrides', hwritten'⟩ :=
    hr.setEach_of_forall fun e he => hset e (hperm.mem_iff.mp he)
  have hsame : ∀ o, r''.written.find? (·.option == o) = r'.written.find? (·.option == o) := by
    intro o
    rw [hwritten, hwritten', h.winner?_perm hperm, Entries.stored?, if_pos haccepted]
  refine ⟨r'', hr'', hdefaults'.trans hdefaults.symm, hoverrides'.trans hoverrides.symm, hsame,
    fun o => ?_⟩
  rw [setting_eq, setting_eq, hsame, hdefaults', hdefaults, hoverrides', hoverrides]

/-! ### Failure -/

/-- A write that succeeds, or fails with reasons against the value, meets no other objection. -/
theorem Valid.fatal?_eq_none_of_set {r : Resolver} (hr : r.Valid) {name v : Value} {o : OptionName}
    (hname : OptionName.ofValue? name = some o)
    (hset : (∃ r', r.set name v = .ok r') ∨
      ∃ blame failures, r.set name v = .error (.invalid blame failures)) :
    fatal? (o.check v) = none := by
  rw [hr.set_eq, verdict_of_named hname] at hset
  unfold OptionName.verdict at hset
  cases hcheck : o.check v with
  | ok s => rfl
  | error objection =>
    rw [hcheck] at hset
    cases objection with
    | reasons reasons => rfl
    | unorderedMembers => simp [Except.map] at hset
    | repetitionTooLarge => simp [Except.map] at hset

/-- A value with reasons against it cannot be set, and the error is laid to its option. -/
theorem Valid.set_of_reasons {r : Resolver} (hr : r.Valid) {name v : Value} {o : OptionName}
    (hname : OptionName.ofValue? name = some o) {reasons : List Reason}
    (hreasons : o.check v = .error (.reasons reasons)) :
    r.set name v = .error (.invalid (.option o) (reasons.map (o, ·))) := by
  rw [hr.set_eq, verdict_of_named hname]
  unfold OptionName.verdict
  rw [hreasons]
  rfl

/-- A value that meets no objection is valid. -/
theorem exists_check_eq_ok {o : OptionName} {v : Value} (hfatal : fatal? (o.check v) = none)
    (hreasons : reasonsOf (o.check v) = []) : ∃ s, o.check v = .ok s := by
  cases hcheck : o.check v with
  | ok s => exact ⟨s, rfl⟩
  | error objection =>
    rw [hcheck] at hfatal hreasons
    cases objection with
    | reasons reasons => exact absurd (hreasons ▸ hcheck) (check_ne_no_reasons o v)
    | unorderedMembers => cases hfatal
    | repetitionTooLarge => cases hfatal

/-- A rejection is laid to the option of its first reason, if that option is updated. -/
theorem blame_of_lookup {updates : Updates} {o : OptionName} {v : Value}
    (hv : updates.lookup o = some v) (reason : Reason) (rest : List (OptionName × Reason)) :
    updates.blame ((o, reason) :: rest) = .option o := by
  have ho : (o, v) ∈ updates := by
    obtain ⟨l, l', rfl, _⟩ := List.lookup_eq_some_iff.mp hv
    simp
  unfold Updates.blame
  split
  · cases List.mem_singleton.mp ho
    rfl
  · have hfound : updates.any (·.1 == o) = true :=
      List.any_eq_true.mpr ⟨(o, v), ho, beq_self_eq_true o⟩
    simp only [List.find?_cons, hfound]

/-- Reasons stand against updated values only: any other option is offered its effective value, which
    passes. -/
theorem Valid.lookup_of_reasons {r : Resolver} (hr : r.Valid) {updates : Updates} {o : OptionName}
    (h : reasonsOf (o.check (r.offered updates o)) ≠ []) : ∃ v, updates.lookup o = some v := by
  cases hlookup : updates.lookup o with
  | none => simp [offered, hlookup, hr.check_current, reasonsOf] at h
  | some v => exact ⟨v, rfl⟩

/-- Of all reasons, the first one stands against the first option, in declaration order, that has
    any. -/
theorem exists_first_reason {raw : OptionName → Value} {failures : List (OptionName × Reason)}
    (hne : failures ≠ [])
    (h : failures = OptionName.all.flatMap fun o => (reasonsOf (o.check (raw o))).map (o, ·)) :
    ∃ (o : OptionName) (reason : Reason) (rest : List (OptionName × Reason))
        (before after : List OptionName),
      failures = (o, reason) :: rest ∧ OptionName.all = before ++ o :: after ∧
      (∀ p ∈ before, reasonsOf (p.check (raw p)) = []) ∧ reasonsOf (o.check (raw o)) ≠ [] := by
  obtain ⟨⟨o, reason⟩, rest, rfl⟩ := List.exists_cons_of_ne_nil hne
  have hhead := congrArg List.head? h
  rw [List.head?_cons, List.head?_flatMap, eq_comm, List.findSome?_eq_some_iff] at hhead
  obtain ⟨before, p, after, hall, hp, hbefore⟩ := hhead
  simp only [List.head?_map, Option.map_eq_some_iff, Prod.mk.injEq] at hp
  obtain ⟨_, hfirst, rfl, rfl⟩ := hp
  refine ⟨p, _, rest, before, after, rfl, hall, fun q hq => ?_, fun hnil => ?_⟩
  · simpa using hbefore q hq
  · simp [hnil] at hfirst

/-- Updates that meet nothing but reasons against single values fail for the first option, in
    declaration order, that has a reason against its value. -/
theorem Valid.check_eq_error {r : Resolver} (hr : r.Valid) {updates : Updates}
    (hplain : ∀ (o : OptionName) v, updates.lookup o = some v → fatal? (o.check v) = none)
    {error : OptionError} (h : r.check updates = .error error) :
    ∃ (o : OptionName) (failures : List (OptionName × Reason)) (before after : List OptionName),
      error = .invalid (.option o) failures ∧ OptionName.all = before ++ o :: after ∧
      (∀ p ∈ before, ∀ v, updates.lookup p = some v → ∃ s, p.check v = .ok s) ∧
      ∃ v reasons, updates.lookup o = some v ∧ o.check v = .error (.reasons reasons) := by
  -- An option that is not updated is offered its effective value, which passes.
  have hupdated : ∀ (o : OptionName) v, updates.lookup o = some v → r.offered updates o = v := by
    intro o v hv
    simp [offered, hv]
  have hfatal : ∀ o : OptionName, fatal? (o.check (r.offered updates o)) = none := by
    intro o
    cases hlookup : updates.lookup o with
    | none => simp [offered, hlookup, hr.check_current, fatal?]
    | some v => exact hupdated o v hlookup ▸ hplain o v hlookup
  unfold check at h
  cases hraw : OptionValues.ofRaw fun o => some (r.offered updates o) with
  | ok values =>
    unfold offered at hraw
    simp [hraw] at h
  | error rejection =>
    rcases ofRaw_eq_error_iff.mp hraw with hsome | ⟨_, failures, hne, rfl, hfailures⟩
    · rw [List.findSome?_eq_none_iff.mpr fun o _ => hfatal o] at hsome
      cases hsome
    · obtain ⟨o, reason, rest, before, after, rfl, hall, hbefore, hfirst⟩ :=
        exists_first_reason hne hfailures
      obtain ⟨v, hv⟩ := hr.lookup_of_reasons hfirst
      unfold offered at hraw
      simp only [hraw, Rejection.error, blame_of_lookup hv, Except.error.injEq] at h
      refine ⟨o, (o, reason) :: rest, before, after, h.symm, hall, ?_, v, ?_⟩
      · intro p hp w hw
        exact exists_check_eq_ok (hplain p w hw) (hupdated p w hw ▸ hbefore p hp)
      · rw [hupdated o v hv] at hfirst
        cases hcheck : o.check v with
        | ok s => simp [hcheck, reasonsOf] at hfirst
        | error objection =>
          cases objection with
          | reasons reasons => exact ⟨reasons, hv, rfl⟩
          | unorderedMembers => simp [hcheck, reasonsOf] at hfirst
          | repetitionTooLarge => simp [hcheck, reasonsOf] at hfirst

/-- An update that fails, none of its values meeting more than reasons when it is set alone, fails
    for the first option, in declaration order, whose own value cannot be set. -/
theorem Valid.blame_of_update {r : Resolver} (hr : r.Valid) {entries : Entries}
    (h : entries.OneSpelling)
    (hknown : ∀ e ∈ entries, (OptionName.ofValue? e.1).isSome = true)
    (hvalues : ∀ e ∈ entries, (∃ r', r.set e.1 e.2 = .ok r') ∨
      ∃ blame failures, r.set e.1 e.2 = .error (.invalid blame failures))
    {error : OptionError} (hfailed : r.update entries = .error error) :
    ∃ (o : OptionName) (failures : List (OptionName × Reason)) (before after : List OptionName),
      error = .invalid (.option o) failures ∧ OptionName.all = before ++ o :: after ∧
      (∀ p ∈ before, ∀ e ∈ entries, OptionName.ofValue? e.1 = some p →
        ∃ r', r.set e.1 e.2 = .ok r') ∧
      ∃ e ∈ entries, OptionName.ofValue? e.1 = some o ∧
        ∃ own, r.set e.1 e.2 = .error (.invalid (.option o) own) := by
  obtain ⟨updates, hupdates, hlookup⟩ := Updates.ofEntries_of_known hknown []
  simp only [List.lookup_nil, Option.or_none] at hlookup
  unfold Resolver.update Resolver.updateWith at hfailed
  rw [hupdates] at hfailed
  cases hcheck : r.check updates with
  | ok settings => simp [hcheck] at hfailed
  | error e =>
    simp only [hcheck, Except.error.injEq] at hfailed
    subst hfailed
    have hplain : ∀ (o : OptionName) v, updates.lookup o = some v → fatal? (o.check v) = none := by
      intro o v hv
      obtain ⟨e, he, ho, rfl⟩ := Entries.exists_mem_of_winner? (hlookup o ▸ hv)
      exact hr.fatal?_eq_none_of_set ho (hvalues e he)
    obtain ⟨o, failures, before, after, herror, hall, hbefore, v, reasons, hv, hreasons⟩ :=
      hr.check_eq_error hplain hcheck
    refine ⟨o, failures, before, after, herror, hall, ?_, ?_⟩
    · intro p hp e he hname
      obtain ⟨s, hs⟩ := hbefore p hp e.2
        ((hlookup p).trans (h.winner?_eq_some_iff.mpr ⟨e, he, hname, rfl⟩))
      exact hr.set_isOk_iff.mpr ⟨p, s, hname, hs⟩
    · obtain ⟨e, he, ho, rfl⟩ := Entries.exists_mem_of_winner? (hlookup o ▸ hv)
      exact ⟨e, he, ho, _, hr.set_of_reasons ho hreasons⟩

/-- An update with an unknown name fails for the first one. -/
theorem update_of_first_unknown (r : Resolver) {before rest : Entries} {name v : Value}
    (hbefore : ∀ e ∈ before, (OptionName.ofValue? e.1).isSome = true)
    (hkey : name.canBeKey = true) (hname : OptionName.ofValue? name = none) :
    r.update (before ++ (name, v) :: rest) = .error (.unknown name) := by
  have hunknown : ∀ start, Updates.ofEntries (before ++ (name, v) :: rest) start =
      .error (.unknown name) := by
    induction before with
    | nil =>
      intro start
      simp [Updates.ofEntries, resolveName, hkey, hname]
    | cons e before ih =>
      intro start
      obtain ⟨o, ho⟩ := Option.isSome_iff_exists.mp (hbefore e List.mem_cons_self)
      rw [List.cons_append, Updates.ofEntries, resolveName_eq_ok_iff.mpr ho]
      exact ih (fun f hf => hbefore f (List.mem_cons_of_mem e hf)) _
  unfold update
  rw [hunknown]

end Resolver

/-! ### Steps that fail -/

namespace Session

/-- The answer tells of an operation that failed: of a step's own, or of an override that a block
    should have run under. -/
def Answer.Failed : Answer → Prop
  | .failed _ => True
  | .block _ (.error (.option _)) _ => True
  | _ => False

/-- An operation that fails is settled without a new resolver. -/
theorem settle_of_failed {s : Session} {result : Except OptionError Resolver}
    (h : (s.settle result).1.Failed) : (s.settle result).2.resolver = s.resolver := by
  cases result with
  | ok r => cases h
  | error e => rfl

/-- Reading a call leaves the resolver alone. -/
theorem newCall_resolver (s : Session) (id : String) (q : Request) (shared : Bool) :
    (s.newCall id q shared).2.resolver = s.resolver := by
  unfold newCall
  split
  · rfl
  · split
    all_goals
      rename_i h
      exact (congrArg (·.2.resolver) h).symm

/-- A step that fails leaves the resolver as it was. -/
theorem resolver_of_failed (s : Session) (t : Step) (h : (s.step t).1.Failed) :
    (s.step t).2.resolver = s.resolver := by
  -- Most steps leave the resolver alone, whatever they answer; those that may put another in its
  -- place do so only when they succeed.
  cases t with
  | get name =>
    rw [step]
    split <;> rfl
  | isOption name =>
    rw [step]
    split <;> rfl
  | resolveName name =>
    rw [step]
    split <;> rfl
  | set name v =>
    rw [step] at h ⊢
    have hsettled := settle_of_failed h
    exact hsettled
  | update entries =>
    rw [step] at h ⊢
    have hsettled := settle_of_failed h
    exact hsettled
  | reset =>
    rw [step] at h ⊢
    have hsettled := settle_of_failed h
    exact hsettled
  | snapshot =>
    rw [step]
  | defaults =>
    rw [step]
  | apply config =>
    rw [step] at h ⊢
    split at h
    · cases h
    · rename_i e s' hlogged
      exact (congrArg (·.2.resolver) hlogged).symm
  | enter id name v =>
    rw [step] at h ⊢
    split at h
    · cases h
    · rfl
  | exit id =>
    rw [step] at h ⊢
    split at h
    · rfl
    · cases h
  | withOverride name v steps raises =>
    rw [step] at h ⊢
    split at h
    · rfl
    · -- The block has run, so what it ends with is no failure of its override.
      cases raises <;> cases h
  | newCall id q shared =>
    rw [step]
    exact s.newCall_resolver id q shared
  | translations id =>
    rw [step]

end Session

/-! ### Batches -/

namespace Resolver

/-- **A batch is its single writes, or nothing.**  Let a dictionary give each option in one spelling
    at most a value that, set alone, is accepted or fails with reasons against it.  If every name is
    known, the update succeeds exactly if each entry alone can be set, and then comes to the single
    writes in any order; else it fails for the first option, in declaration order, whose own value
    cannot be set.  If a name is unknown, the update fails for the first such name.  And whatever
    the operation, one that fails leaves the resolver as it was. -/
theorem Reachable.update_batch {r : Resolver} (hr : r.Reachable) :
    (∀ entries : Entries, (∀ e ∈ entries, e.1.canBeKey = true) → entries.OneSpelling →
      (∀ e ∈ entries, (OptionName.ofValue? e.1).isSome = true →
        (∃ r', r.set e.1 e.2 = .ok r') ∨
          ∃ blame failures, r.set e.1 e.2 = .error (.invalid blame failures)) →
      ((∀ e ∈ entries, (OptionName.ofValue? e.1).isSome = true) →
        ((∃ r', r.update entries = .ok r') ↔ ∀ e ∈ entries, ∃ r', r.set e.1 e.2 = .ok r') ∧
        (∀ r' order, r.update entries = .ok r' → order.Perm entries →
          ∃ r'', r.setEach order = .ok r'' ∧ r''.defaults = r'.defaults ∧
            r''.overrides = r'.overrides ∧
            (∀ o, r''.written.find? (·.option == o) = r'.written.find? (·.option == o)) ∧
            ∀ o, r''.setting o = r'.setting o) ∧
        ∀ error, r.update entries = .error error →
          ∃ (o : OptionName) (failures : List (OptionName × Reason))
              (before after : List OptionName),
            error = .invalid (.option o) failures ∧ OptionName.all = before ++ o :: after ∧
            (∀ p ∈ before, ∀ e ∈ entries, OptionName.ofValue? e.1 = some p →
              ∃ r', r.set e.1 e.2 = .ok r') ∧
            ∃ e ∈ entries, OptionName.ofValue? e.1 = some o ∧
              ∃ own, r.set e.1 e.2 = .error (.invalid (.option o) own)) ∧
      ∀ before name v rest, entries = before ++ (name, v) :: rest →
        (∀ e ∈ before, (OptionName.ofValue? e.1).isSome = true) →
        OptionName.ofValue? name = none → r.update entries = .error (.unknown name)) ∧
    ∀ (s : Session) (t : Session.Step), s.resolver = r → (s.step t).1.Failed →
      (s.step t).2.resolver = r := by
  have hvalid := hr.valid
  refine ⟨fun entries hkeys hspelling hvalues => ⟨fun hknown => ⟨?_, ?_, ?_⟩, ?_⟩, ?_⟩
  · exact hvalid.update_isOk_iff_forall_set hspelling
  · intro r' order success hperm
    exact hvalid.setEach_eq_update hspelling hperm success
  · intro error hfailed
    exact hvalid.blame_of_update hspelling hknown (fun e he => hvalues e he (hknown e he)) hfailed
  · rintro before name v rest rfl hbefore hname
    exact r.update_of_first_unknown hbefore (hkeys (name, v) (by simp)) hname
  · rintro s t rfl hfailed
    exact s.resolver_of_failed t hfailed

/-- A short limit and a pattern without a group, given in the other order than they are declared. -/
def shortAndGroupless : Entries :=
  [(.text "interpolation_syntax", .text "%"), (.text "maxKeyLength", .int 5)]

/-- New variants and a longer limit. -/
def fewerAndLonger : Entries :=
  [(.text "pluralizationKeys", .set [.text "other", .text "few", .text "one"]),
    (.text "max_key_length", .text " 80.0 ")]

/-- The short limit is to blame, and variants and limit can be written in either order. -/
theorem update_batch_limits :
    (ofDefaults builtInValues).Reachable ∧
      (∃ failures, (ofDefaults builtInValues).update shortAndGroupless =
        .error (.invalid (.option .maxKeyLength) failures)) ∧
      ∃ r' r'', (ofDefaults builtInValues).update fewerAndLonger = .ok r' ∧
        (ofDefaults builtInValues).setEach fewerAndLonger.reverse = .ok r'' ∧
        ∀ o, r''.setting o = r'.setting o := by
  have hbuilt : (ofDefaults builtInValues).Reachable := .built build_builtIn
  refine ⟨hbuilt, ?_, ?_⟩
  · have hvalues : ∀ e ∈ shortAndGroupless, ∃ (o : OptionName) (reasons : List Reason),
        OptionName.ofValue? e.1 = some o ∧ o.check e.2 = .error (.reasons reasons) := by
      simp only [shortAndGroupless, List.forall_mem_cons, List.not_mem_nil, false_implies,
        implies_true, and_true]
      exact ⟨⟨.interpolationSyntax, [.notOneGroup], by decide, by decide +kernel⟩,
        ⟨.maxKeyLength, [.tooSmall], by decide, by decide +kernel⟩⟩
    have hset : ∀ e ∈ shortAndGroupless, ∃ blame failures,
        (ofDefaults builtInValues).set e.1 e.2 = .error (.invalid blame failures) := by
      intro e he
      obtain ⟨o, reasons, hname, hreasons⟩ := hvalues e he
      exact ⟨_, _, hbuilt.valid.set_of_reasons hname hreasons⟩
    obtain ⟨hsucceeds, _, hblame⟩ := (hbuilt.update_batch.1 shortAndGroupless (by decide)
      (by decide) fun e he _ => .inr (hset e he)).1 (by decide)
    cases hupdate : (ofDefaults builtInValues).update shortAndGroupless with
    | ok r' =>
      obtain ⟨r'', hr''⟩ := hsucceeds.mp ⟨r', hupdate⟩ _ List.mem_cons_self
      obtain ⟨_, _, herror⟩ := hset _ List.mem_cons_self
      cases herror.symm.trans hr''
    | error error =>
      obtain ⟨o, failures, before, after, rfl, hall, hbefore, e, he, ho, _⟩ := hblame error hupdate
      match before with
      | [] =>
        -- The first option of all is not in the dictionary.
        cases hall
        simp only [shortAndGroupless, List.mem_cons, List.not_mem_nil, or_false] at he
        obtain rfl | rfl := he
        · exact absurd ho (by decide)
        · exact absurd ho (by decide)
      | [_] =>
        cases hall
        exact ⟨failures, rfl⟩
      | _ :: second :: _ =>
        obtain rfl : .maxKeyLength = second := (List.cons.inj (List.cons.inj hall).2).1
        have hlimit : (Value.text "maxKeyLength", Value.int 5) ∈ shortAndGroupless := by
          simp [shortAndGroupless]
        obtain ⟨r'', hr''⟩ := hbefore .maxKeyLength (by simp) _ hlimit (by decide)
        obtain ⟨_, _, herror⟩ := hset _ hlimit
        cases herror.symm.trans hr''
  · have hset : ∀ e ∈ fewerAndLonger, ∃ r', (ofDefaults builtInValues).set e.1 e.2 = .ok r' := by
      intro e he
      rw [hbuilt.valid.set_isOk_iff]
      simp only [fewerAndLonger, List.mem_cons, List.not_mem_nil, or_false] at he
      obtain rfl | rfl := he
      · exact ⟨.pluralizationKeys, .pluralizationKeys ["one", "few", "other"], by decide,
          by decide +kernel⟩
      · exact ⟨.maxKeyLength, .maxKeyLength 80, by decide, by decide +kernel⟩
    obtain ⟨hsucceeds, heach, _⟩ := (hbuilt.update_batch.1 fewerAndLonger (by decide)
      (by decide) fun e he _ => .inl (hset e he)).1 (by decide)
    obtain ⟨r', hr'⟩ := hsucceeds.mpr hset
    obtain ⟨r'', hr'', _, _, _, hsetting⟩ := heach r' _ hr' (List.reverse_perm _)
    exact ⟨r', r'', hr', hr'', hsetting⟩

end Resolver

end Phrasebook
