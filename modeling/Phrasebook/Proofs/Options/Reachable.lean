import Phrasebook.Proofs.Options.Admission
import Phrasebook.Session.Run

namespace Phrasebook

/-!
# Reachable resolvers

What holds of every resolver that operations lead to, in whatever order they come:

* `Resolver.Reachable` — the resolvers that are built, and those that a write, an override put in
  force, an override left or a reset makes of one of them;
* `Reachable.valid` — all their settings are valid;
* `Reachable.valid_and_stateless` — so each effective value can be set again and changes nothing, and
  what an operation makes of a value does not depend on the resolver;
* `Session.run_reachable` — the resolver of a session is one of them after any steps.

An operation that fails leaves the resolver as it was, so only those that succeed make a step.
-/

/-- An outcome that holds a value is that value. -/
theorem eq_ok_of_toOption {ε α : Type} {x : Except ε α} {a : α} (h : x.toOption = some a) :
    x = .ok a := by
  cases x with
  | ok b => exact congrArg Except.ok (Option.some.inj h)
  | error e => cases h

/-- The values of the built-in defaults. -/
def builtInValues : OptionValues := ⟨.hashed, 50, standardVariants, "%\\\x7b([^\x7d]+)\\\x7d"⟩

namespace Resolver

/-! ### Operations that succeed -/

/-- The resolvers that operations lead to.  An override may be left at any time, so the depth that
    is cut back to is any depth. -/
inductive Reachable : Resolver → Prop where
  | built {entries : Entries} {r : Resolver} (success : build entries = .ok r) : Reachable r
  | set {r r' : Resolver} {name v : Value} (hr : Reachable r) (success : r.set name v = .ok r') :
      Reachable r'
  | update {r r' : Resolver} {entries : Entries} (hr : Reachable r)
      (success : r.update entries = .ok r') : Reachable r'
  | apply {r r' : Resolver} {config : Entries} (hr : Reachable r)
      (success : r.apply config = .ok r') : Reachable r'
  | enter {r r' : Resolver} {name v : Value} (hr : Reachable r)
      (success : r.enter name v = .ok r') : Reachable r'
  | leave {r : Resolver} (hr : Reachable r) (depth : Nat) : Reachable (r.leave depth)
  | reset {r : Resolver} (hr : Reachable r) : Reachable r.reset

/-- The settings of checked updates are valid. -/
theorem valid_of_mem_check {r : Resolver} {updates : Updates} {settings : List Setting}
    (h : r.check updates = .ok settings) : ∀ s ∈ settings, s.Valid := by
  unfold check at h
  split at h
  · rename_i values hvalues
    cases h
    intro s hs
    obtain ⟨u, _, rfl⟩ := List.mem_map.mp hs
    obtain ⟨v, _, hv⟩ := ofRaw_eq_ok_iff.mp hvalues u.1
    exact (valid_of_check hv).2
  · cases h

/-- Defaults that have been built are valid. -/
theorem valid_of_build {entries : Entries} {r : Resolver} (h : build entries = .ok r) :
    r.Valid := by
  unfold build at h
  repeat' split at h
  all_goals cases h
  rename_i values hvalues
  refine ⟨fun o => ?_, by simp [ofDefaults], by simp [ofDefaults]⟩
  obtain ⟨v, _, hv⟩ := ofRaw_eq_ok_iff.mp hvalues o
  exact (valid_of_check hv).2

/-- Writing a valid setting keeps all settings valid. -/
theorem Valid.write {r : Resolver} (hr : r.Valid) {s : Setting} (hs : s.Valid) :
    (r.write s).Valid := by
  refine ⟨hr.defaults, ?_, hr.overrides⟩
  intro t ht
  rcases List.mem_cons.mp ht with rfl | ht
  · exact hs
  · exact hr.written t (List.mem_filter.mp ht).1

/-- So does writing several. -/
theorem Valid.foldl_write {r : Resolver} (hr : r.Valid) {settings : List Setting}
    (hs : ∀ s ∈ settings, s.Valid) : (settings.foldl Resolver.write r).Valid := by
  induction settings generalizing r with
  | nil => exact hr
  | cons s rest ih =>
    exact ih (hr.write (hs s List.mem_cons_self)) fun t ht => hs t (List.mem_cons_of_mem s ht)

/-- Writes of a dictionary keep all settings valid. -/
theorem Valid.updateWith {r r' : Resolver} (hr : r.Valid) {updates : Updates}
    (h : r.updateWith updates = .ok r') : r'.Valid := by
  unfold Resolver.updateWith at h
  split at h
  · rename_i settings hsettings
    cases h
    exact hr.foldl_write (valid_of_mem_check hsettings)
  · cases h

/-- A write keeps all settings valid. -/
theorem Valid.set {r r' : Resolver} (hr : r.Valid) {name v : Value}
    (h : r.set name v = .ok r') : r'.Valid := by
  unfold Resolver.set at h
  split at h
  · cases h
  · exact hr.updateWith h

/-- An update keeps all settings valid. -/
theorem Valid.update {r r' : Resolver} (hr : r.Valid) {entries : Entries}
    (h : r.update entries = .ok r') : r'.Valid := by
  unfold Resolver.update at h
  split at h
  · exact hr.updateWith h
  · cases h

/-- An override put in force keeps all settings valid. -/
theorem Valid.enter {r r' : Resolver} (hr : r.Valid) {name v : Value}
    (h : r.enter name v = .ok r') : r'.Valid := by
  unfold Resolver.enter at h
  repeat' split at h
  all_goals cases h
  rename_i settings hsettings
  refine ⟨hr.defaults, hr.written, ?_⟩
  intro s hs
  rcases List.mem_append.mp hs with hs | hs
  · exact valid_of_mem_check hsettings s hs
  · exact hr.overrides s hs

/-- An override left keeps all settings valid. -/
theorem Valid.leave {r : Resolver} (hr : r.Valid) (depth : Nat) : (r.leave depth).Valid :=
  ⟨hr.defaults, hr.written, fun s hs => hr.overrides s (List.mem_of_mem_drop hs)⟩

/-- A reset leaves the defaults. -/
theorem Valid.reset {r : Resolver} (hr : r.Valid) : r.reset.Valid :=
  ⟨hr.defaults, by simp [Resolver.reset, ofDefaults], by simp [Resolver.reset, ofDefaults]⟩

/-- All settings of a reachable resolver are valid. -/
theorem Reachable.valid {r : Resolver} (hr : r.Reachable) : r.Valid := by
  induction hr with
  | built success => exact valid_of_build success
  | set _ success ih => exact ih.set success
  | update _ success ih => exact ih.update success
  | apply _ success ih => exact ih.update success
  | enter _ success ih => exact ih.enter success
  | leave _ depth ih => exact ih.leave depth
  | reset _ ih => exact ih.reset

/-! ### Effective values -/

/-- The effective setting is the innermost override, else the last write, else the default. -/
theorem setting_eq (r : Resolver) (o : OptionName) :
    r.setting o = ((r.overrides.find? (·.option == o)).or
      (r.written.find? (·.option == o))).getD (r.defaults.setting o) := by
  unfold setting
  rw [List.find?_append]
  cases (r.overrides.find? (·.option == o)).or (r.written.find? (·.option == o)) <;> rfl

/-- A write is found under its option and hides no other. -/
theorem find?_written_write (r : Resolver) (s : Setting) (o : OptionName) :
    (r.write s).written.find? (·.option == o) =
      if s.option = o then some s else r.written.find? (·.option == o) := by
  unfold write
  rw [List.find?_cons]
  by_cases ho : s.option = o
  · simp [ho]
  · rw [if_neg ho, beq_false_of_ne ho, List.find?_filter]
    show List.find? _ r.written = _
    congr 1
    funext t
    by_cases ht : t.option = o
    · simp [ht, Ne.symm ho]
    · simp [ht]

/-- Writing what is in force anyway changes no effective value. -/
theorem setting_write_setting (r : Resolver) (o p : OptionName) :
    (r.write (r.setting o)).setting p = r.setting p := by
  rw [setting_eq, setting_eq r p, find?_written_write, option_setting]
  by_cases hp : o = p
  · -- The write stores what is in force; an override of the option goes on hiding it.
    subst hp
    rw [if_pos rfl, setting_eq r o]
    show ((r.overrides.find? _).or _).getD _ = _
    cases r.overrides.find? (·.option == o) <;> rfl
  · rw [if_neg hp]
    rfl

/-- **Every value in force is valid, and a verdict on a value depends on that value alone.**  In
    every reachable resolver the defaults, the writes and the overrides are valid; an effective
    value passes again as it is, so setting an option to what reading it gives succeeds and changes
    no effective value; and a write or an override stores the setting, or fails with the error, that
    `verdict` gives for the name and the value. -/
theorem Reachable.valid_and_stateless {r : Resolver} (hr : r.Reachable) :
    ((∀ o, (r.defaults.setting o).Valid) ∧ (∀ s ∈ r.written, s.Valid) ∧
      ∀ s ∈ r.overrides, s.Valid) ∧
    (∀ o : OptionName, o.check (r.setting o).toValue = .ok (r.setting o)) ∧
    (∀ name s, r.get name = .ok s →
      ∃ r', r.set name s.toValue = .ok r' ∧ ∀ p, r'.setting p = r.setting p) ∧
    ∀ name v, r.set name v = (verdict name v).map r.write ∧
      r.enter name v = (verdict name v).map r.push := by
  have hvalid := hr.valid
  refine ⟨⟨hvalid.defaults, hvalid.written, hvalid.overrides⟩, hvalid.check_current, ?_, ?_⟩
  · intro name s hget
    unfold get at hget
    split at hget
    · rename_i o ho
      cases hget
      refine ⟨r.write (r.setting o), ?_, r.setting_write_setting o⟩
      rw [hvalid.set_eq]
      simp [verdict, ho, OptionName.verdict, hvalid.check_current o, Except.map]
    · cases hget
  · intro name v
    exact ⟨hvalid.set_eq name v, hvalid.enter_eq name v⟩

/-! ### The built-in defaults -/

/-- The built-in defaults make a resolver. -/
theorem build_builtIn : build Section.builtIn.toEntries = .ok (ofDefaults builtInValues) :=
  eq_ok_of_toOption (by decide +kernel)

/-- The built-in defaults with a longer limit written and fewer variants in force. -/
def overridden : Resolver :=
  ((ofDefaults builtInValues).write (.maxKeyLength 80)).push
    (.pluralizationKeys ["one", "few", "other"])

theorem reachable_overridden : overridden.Reachable := by
  have hbuilt : (ofDefaults builtInValues).Reachable := .built build_builtIn
  have hset : (ofDefaults builtInValues).set (.text "maxKeyLength") (.text " 80.0 ") =
      .ok ((ofDefaults builtInValues).write (.maxKeyLength 80)) := by
    rw [hbuilt.valid.set_eq]
    exact eq_ok_of_toOption (by decide +kernel)
  have hwritten := hbuilt.set hset
  have henter : ((ofDefaults builtInValues).write (.maxKeyLength 80)).enter
      (.text "pluralization_keys") (.set [.text "other", .text "few", .text "one"]) =
        .ok overridden := by
    rw [hwritten.valid.enter_eq]
    exact eq_ok_of_toOption (by decide +kernel)
  exact hwritten.enter henter

/-- Variants read under an override can be set as they are. -/
theorem valid_and_stateless_overridden :
    overridden.Reachable ∧
      overridden.get (.text "pluralizationKeys") =
        .ok (.pluralizationKeys ["one", "few", "other"]) ∧
      ∃ r', overridden.set (.text "pluralizationKeys")
          (Setting.pluralizationKeys ["one", "few", "other"]).toValue = .ok r' ∧
        ∀ p, r'.setting p = overridden.setting p :=
  have hget : overridden.get (.text "pluralizationKeys") =
      .ok (.pluralizationKeys ["one", "few", "other"]) := eq_ok_of_toOption (by decide +kernel)
  ⟨reachable_overridden, hget, reachable_overridden.valid_and_stateless.2.2.1 _ _ hget⟩

end Resolver

/-! ### Sessions -/

/-- An activity goes on with the journal that the one before it leaves. -/
theorem Log.bind_apply {α β : Type} (x : Logged α) (f : α → Logged β) (j : Journal) :
    (x >>= f) j = f (x j).1 (x j).2 := rfl

namespace Session

open Resolver

/-- A reported write is a write. -/
theorem setReported_fst (r : Resolver) (name v : Value) (journal : Log.Journal) :
    (r.setReported name v journal).1 = r.set name v := by
  unfold setReported
  cases r.set name v with
  | error e => rfl
  | ok r' => cases OptionName.ofValue? name <;> rfl

/-- A reported update is an update. -/
theorem updateReported_fst (r : Resolver) (entries : Entries) (journal : Log.Journal) :
    (r.updateReported entries journal).1 = r.update entries := by
  unfold updateReported update
  cases Updates.ofEntries entries [] with
  | error e => rfl
  | ok updates =>
    dsimp only
    cases r.updateWith updates <;> rfl

/-- Applying a configuration with reports is applying it. -/
theorem applyReported_fst (r : Resolver) (config : Entries) (journal : Log.Journal) :
    (r.applyReported config journal).1 = r.apply config := by
  have hupdate := updateReported_fst r (recognised config)
  unfold applyReported apply
  dsimp only
  split
  all_goals
    simp only [Log.bind_apply]
    rw [hupdate]
    cases r.update (recognised config) <;> rfl

/-- A block that keeps to reachable resolvers does so under an override. -/
theorem withOverride_reachable {α : Type} {r r' : Resolver} (hr : r.Reachable) {name v : Value}
    {block : Resolver → α × Resolver} {a : α}
    (hblock : ∀ inside : Resolver, inside.Reachable → (block inside).2.Reachable)
    (success : r.withOverride name v block = .ok (a, r')) : r'.Reachable := by
  unfold withOverride at success
  split at success
  · cases success
  · rename_i inside henter
    cases success
    exact (hblock inside (hr.enter henter)).leave r.depth

/-- A session takes over the resolver that an operation makes. -/
theorem settle_reachable {s : Session} (hs : s.resolver.Reachable)
    {result : Except OptionError Resolver} (hresult : ∀ r, result = .ok r → r.Reachable) :
    (s.settle result).2.resolver.Reachable := by
  cases result with
  | ok r => exact hresult r rfl
  | error e => exact hs

mutual

/-- A step keeps the resolver of a session reachable. -/
theorem step_reachable (s : Session) (hs : s.resolver.Reachable) :
    (t : Step) → (s.step t).2.resolver.Reachable
  | .get name => by
    rw [step]
    split <;> exact hs
  | .isOption name => by
    rw [step]
    split <;> exact hs
  | .resolveName name => by
    rw [step]
    split <;> exact hs
  | .set name v => by
    rw [step]
    -- A report changes the journal alone, so the resolver is that of the write itself.
    have hlogged : (s.logged (s.resolver.setReported name v)).2.resolver.Reachable := hs
    have hset := setReported_fst s.resolver name v s.journal
    exact settle_reachable hlogged fun r hr => hs.set (hset.symm.trans hr)
  | .update entries => by
    rw [step]
    have hlogged : (s.logged (s.resolver.updateReported entries)).2.resolver.Reachable := hs
    have hupdate := updateReported_fst s.resolver entries s.journal
    exact settle_reachable hlogged fun r hr => hs.update (hupdate.symm.trans hr)
  | .reset => by
    rw [step]
    exact hs.reset
  | .snapshot => by
    rw [step]
    exact hs
  | .defaults => by
    rw [step]
    exact hs
  | .apply config => by
    rw [step]
    have happly := applyReported_fst s.resolver config s.journal
    split
    · rename_i r s' h
      have hr : (s.resolver.applyReported config s.journal).1 = .ok r := congrArg Prod.fst h
      exact hs.apply (happly.symm.trans hr)
    · rename_i e s' h
      have hs' : s'.resolver = s.resolver := (congrArg (·.2.resolver) h).symm
      exact hs' ▸ hs
  | .enter id name v => by
    rw [step]
    split
    · rename_i r h
      exact hs.enter h
    · exact hs
  | .exit id => by
    rw [step]
    split
    · exact hs
    · exact hs.leave _
  | .withOverride name v steps raises => by
    rw [step]
    split
    · exact hs
    · rename_i answers s' r h
      refine withOverride_reachable hs (fun inside hinside => ?_) h
      exact run_reachable { s with resolver := inside } hinside steps
  | .newCall id q shared => by
    rw [step]
    unfold newCall
    split
    · exact hs
    · split
      all_goals
        rename_i h
        have hs' := (congrArg (·.2.resolver) h).symm
        exact hs' ▸ hs
  | .translations id => by
    rw [step]
    exact hs
termination_by structural t => t

/-- So do several steps: whatever a session does, its resolver is reachable. -/
theorem run_reachable (s : Session) (hs : s.resolver.Reachable) :
    (steps : List Step) → (s.run steps).2.resolver.Reachable
  | [] => by
    rw [run]
    exact hs
  | t :: rest => by
    rw [run]
    exact run_reachable (s.step t).2 (step_reachable s hs t) rest
termination_by structural steps => steps

end

end Session

end Phrasebook
