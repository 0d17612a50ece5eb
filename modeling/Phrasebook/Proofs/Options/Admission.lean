import Mathlib.Tactic.Choose
import Phrasebook.Options.Resolver
import Phrasebook.Proofs.Options.Setting

namespace Phrasebook

/-!
# Admission of values

A resolver checks a value together with the effective values of all options, but in a resolver whose
settings are valid the others always pass, so only the value itself counts:

* `Resolver.Valid` — every setting among the defaults, the writes and the overrides is valid;
* `ofRaw_eq_ok_iff`, `ofRaw_eq_error_iff` — values are validated together exactly when each is
  validated alone, and turned down for what there is against single ones;
* `verdict` — what a name and a value come to, whatever the resolver: a setting or an error;
* `Resolver.set_eq`, `Resolver.enter_eq` — setting and overriding store what `verdict` gives.
-/

/-! ### Validation of all options -/

/-- What is refused as members is refused for a reason. -/
theorem asMembers_ne_no_reasons (v : Value) : v.asMembers ≠ .error (.reasons []) := by
  intro h
  cases v <;> simp only [Value.asMembers] at h
  all_goals first
    | (split at h <;> simp at h)
    | simp at h

/-- Names that are not taken have reasons against them. -/
theorem variantNames_ne_no_reasons (items : List Value) : variantNames items ≠ .error [] := by
  intro h
  unfold variantNames at h
  split at h
  · cases h
  · rename_i hsome
    exact hsome (Except.error.inj h)

/-- A pattern that is refused for reasons is refused for one. -/
theorem checkSyntax_ne_no_reasons (source : String) :
    checkSyntax source ≠ .error (.reasons []) := by
  intro h
  unfold checkSyntax at h
  repeat' split at h
  all_goals simp at h

/-- There is no objection without a reason. -/
theorem check_ne_no_reasons (o : OptionName) (v : Value) : o.check v ≠ .error (.reasons []) := by
  intro h
  cases o with
  | keyFormat =>
    simp only [OptionName.check] at h
    repeat' split at h
    all_goals simp at h
  | maxKeyLength =>
    simp only [OptionName.check] at h
    split at h <;> simp at h
  | pluralizationKeys =>
    simp only [OptionName.check] at h
    split at h
    · rename_i objection hmembers
      cases h
      exact asMembers_ne_no_reasons v hmembers
    · split at h
      · rename_i reasons hnames
        cases h
        exact variantNames_ne_no_reasons _ hnames
      · split at h <;> simp at h
  | interpolationSyntax =>
    simp only [OptionName.check] at h
    split at h
    · simp at h
    · split at h
      · simp at h
      · rename_i objection hsource
        cases h
        exact checkSyntax_ne_no_reasons _ hsource

/-- The rejection that an objection is when it is no mere reason. -/
def fatal? : Except Objection Setting → Option Rejection
  | .error .unorderedMembers => some .unorderedMembers
  | .error .repetitionTooLarge => some .repetitionTooLarge
  | _ => none

/-- The reasons in an objection. -/
def reasonsOf : Except Objection Setting → List Reason
  | .error (.reasons reasons) => reasons
  | _ => []

/-- Where every option has a value, the first objection that is no mere reason counts, else all
    the reasons in order. -/
theorem checkOptions_of_total (raw : OptionName → Value) (os : List OptionName) :
    checkOptions (fun o => some (raw o)) os =
      match os.findSome? fun o => fatal? (o.check (raw o)) with
      | some rejection => .error rejection
      | none => .ok (os.filterMap fun o => (o.check (raw o)).toOption,
          os.flatMap fun o => (reasonsOf (o.check (raw o))).map (o, ·)) := by
  induction os with
  | nil => rfl
  | cons o rest ih =>
    rw [List.findSome?_cons, List.filterMap_cons, List.flatMap_cons]
    cases hrest : rest.findSome? fun o => fatal? (o.check (raw o)) with
    | some rejection =>
      rw [hrest] at ih
      simp only [checkOptions, ih]
      cases o.check (raw o) with
      | ok s => rfl
      | error objection => cases objection <;> rfl
    | none =>
      rw [hrest] at ih
      simp only [checkOptions, ih]
      cases o.check (raw o) with
      | ok s => rfl
      | error objection => cases objection <;> rfl

/-- Options pass together exactly when each has a value that passes alone. -/
theorem checkOptions_eq_ok_iff {raw : RawOptions} {os : List OptionName}
    {settings : List Setting} :
    checkOptions raw os = .ok (settings, []) ↔
      List.Forall₂ (fun o s => ∃ v, raw o = some v ∧ o.check v = .ok s) os settings := by
  induction os generalizing settings with
  | nil => simp [checkOptions, eq_comm]
  | cons o rest ih =>
    cases settings with
    | nil =>
      simp only [checkOptions, List.forall₂_nil_right_iff, reduceCtorEq, iff_false]
      intro h
      repeat' split at h
      all_goals simp at h
      rename_i hv _ _ _ _
      exact check_ne_no_reasons o _ (h.2.1 ▸ hv)
    | cons s settings =>
      rw [List.forall₂_cons, ← ih]
      -- An option that has no value, or one with reasons against it, adds to the failures.
      cases hraw : raw o with
      | none =>
        simp only [checkOptions, hraw]
        split <;> simp
      | some v =>
        simp only [checkOptions, hraw]
        cases hv : o.check v with
        | ok s' =>
          cases hrest : checkOptions raw rest with
          | error e => simp
          | ok p => simp [Prod.ext_iff, and_assoc, hv]
        | error objection =>
          cases objection with
          | reasons reasons =>
            have hne : reasons ≠ [] := fun h => check_ne_no_reasons o v (h ▸ hv)
            cases hrest : checkOptions raw rest with
            | error e => simp
            | ok p => simp [hne, hv]
          | unorderedMembers => simp [hv]
          | repetitionTooLarge => simp [hv]

/-- Putting a setting replaces that of its option alone. -/
theorem setting_put (values : OptionValues) (s : Setting) (o : OptionName) :
    (values.put s).setting o = if s.option = o then s else values.setting o := by
  cases s <;> cases o <;> rfl

/-- Settings put in declaration order are read back. -/
theorem setting_foldl_put {settings : OptionName → Setting}
    (hoption : ∀ o, (settings o).option = o) (values : OptionValues) (o : OptionName) :
    ((OptionName.all.map settings).foldl OptionValues.put values).setting o = settings o := by
  cases o <;> simp [OptionName.all, setting_put, hoption]

/-- Settings that go with the options one by one are the settings of a function of the option. -/
theorem exists_map_all {P : OptionName → Setting → Prop} {settings : List Setting}
    (h : List.Forall₂ P OptionName.all settings) :
    ∃ f : OptionName → Setting, settings = OptionName.all.map f ∧ ∀ o, P o (f o) := by
  simp only [OptionName.all, List.forall₂_cons_left_iff, List.forall₂_nil_left_iff] at h
  obtain ⟨s₁, _, h₁, ⟨s₂, _, h₂, ⟨s₃, _, h₃, ⟨s₄, _, h₄, rfl, rfl⟩, rfl⟩, rfl⟩, rfl⟩ := h
  refine ⟨fun o => o.casesOn s₁ s₂ s₃ s₄, rfl, fun o => ?_⟩
  cases o <;> assumption

/-- Values are validated together exactly when each is validated alone. -/
theorem ofRaw_eq_ok_iff {raw : RawOptions} {values : OptionValues} :
    OptionValues.ofRaw raw = .ok values ↔
      ∀ o, ∃ v, raw o = some v ∧ o.check v = .ok (values.setting o) := by
  constructor
  · intro h
    unfold OptionValues.ofRaw at h
    split at h
    · rename_i settings hsettings
      cases h
      obtain ⟨f, rfl, hf⟩ := exists_map_all (checkOptions_eq_ok_iff.mp hsettings)
      have hoption : ∀ o, (f o).option = o := by
        intro o
        obtain ⟨v, _, hv⟩ := hf o
        exact (valid_of_check hv).1
      intro o
      rw [setting_foldl_put hoption]
      exact hf o
    all_goals cases h
  · intro h
    have hall : checkOptions raw OptionName.all =
        .ok (OptionName.all.map values.setting, []) := by
      rw [checkOptions_eq_ok_iff, List.forall₂_map_right_iff]
      exact List.forall₂_same.mpr fun o _ => h o
    unfold OptionValues.ofRaw
    rw [hall]
    rfl

/-- Values can be validated together exactly when each can be alone. -/
theorem ofRaw_isOk_iff {raw : RawOptions} :
    (∃ values, OptionValues.ofRaw raw = .ok values) ↔
      ∀ o, ∃ v s, raw o = some v ∧ o.check v = .ok s := by
  constructor
  · rintro ⟨values, h⟩ o
    obtain ⟨v, hv, hcheck⟩ := ofRaw_eq_ok_iff.mp h o
    exact ⟨v, _, hv, hcheck⟩
  · intro h
    choose v settings hv hcheck using h
    have hoption : ∀ o, (settings o).option = o := fun o => (valid_of_check (hcheck o)).1
    refine ⟨(OptionName.all.map settings).foldl OptionValues.put .blank,
      ofRaw_eq_ok_iff.mpr fun o => ⟨v o, hv o, ?_⟩⟩
    rw [setting_foldl_put hoption]
    exact hcheck o

/-- Values are turned down together for the first objection that is no mere reason, else for all the
    reasons against single values. -/
theorem ofRaw_eq_error_iff {raw : OptionName → Value} {rejection : Rejection} :
    OptionValues.ofRaw (fun o => some (raw o)) = .error rejection ↔
      (OptionName.all.findSome? fun o => fatal? (o.check (raw o))) = some rejection ∨
      (OptionName.all.findSome? fun o => fatal? (o.check (raw o))) = none ∧
        ∃ failures, failures ≠ [] ∧ rejection = .failures failures ∧
          failures = OptionName.all.flatMap fun o => (reasonsOf (o.check (raw o))).map (o, ·) := by
  unfold OptionValues.ofRaw
  rw [checkOptions_of_total]
  cases OptionName.all.findSome? fun o => fatal? (o.check (raw o)) with
  | some fatal => simp
  | none =>
    cases OptionName.all.flatMap fun o => (reasonsOf (o.check (raw o))).map (o, ·) with
    | nil => simp
    | cons failure failures => simp [eq_comm]

/-! ### Resolvers with valid settings -/

namespace Resolver

/-- Every setting that a resolver holds is valid. -/
structure Valid (r : Resolver) : Prop where
  defaults : ∀ o, (r.defaults.setting o).Valid
  written : ∀ s ∈ r.written, s.Valid
  overrides : ∀ s ∈ r.overrides, s.Valid

/-- The effective setting of an option is a setting of that option. -/
@[simp] theorem option_setting (r : Resolver) (o : OptionName) : (r.setting o).option = o := by
  unfold setting
  split
  · rename_i s hs
    simpa using List.find?_some hs
  · cases o <;> rfl

/-- The effective values, option by option. -/
@[simp] theorem setting_values (r : Resolver) (o : OptionName) :
    r.values.setting o = r.setting o :=
  setting_foldl_put r.option_setting r.defaults o

/-- Effective settings are valid. -/
theorem Valid.setting {r : Resolver} (hr : r.Valid) (o : OptionName) : (r.setting o).Valid := by
  unfold Resolver.setting
  split
  · rename_i s hs
    rcases List.mem_append.mp (List.mem_of_find?_eq_some hs) with h | h
    · exact hr.overrides s h
    · exact hr.written s h
  · exact hr.defaults o

/-- So are the effective values of all options together. -/
theorem Valid.values {r : Resolver} (hr : r.Valid) (o : OptionName) :
    (r.values.setting o).Valid := by
  rw [setting_values]
  exact hr.setting o

/-- An effective value passes again as it is. -/
theorem Valid.check_current {r : Resolver} (hr : r.Valid) (o : OptionName) :
    o.check (r.setting o).toValue = .ok (r.setting o) := by
  have h := check_toValue (hr.setting o)
  rwa [option_setting] at h

end Resolver

/-! ### Single values -/

/-- The setting that a value is for an option, or the error laid to that option. -/
def OptionName.verdict (o : OptionName) (v : Value) : Except OptionError Setting :=
  match o.check v with
  | .ok s => .ok s
  | .error (.reasons reasons) => .error (.invalid (.option o) (reasons.map (o, ·)))
  | .error .unorderedMembers => .error .unorderedMembers
  | .error .repetitionTooLarge => .error .repetitionTooLarge

/-- What a name and a value come to, whatever the resolver. -/
def verdict (name v : Value) : Except OptionError Setting :=
  match resolveName name with
  | .ok o => o.verdict v
  | .error e => .error e

/-- A valid setting, offered under its name, comes to itself. -/
theorem verdict_toValue {name : Value} {s : Setting} (hname : resolveName name = .ok s.option)
    (hs : s.Valid) : verdict name s.toValue = .ok s := by
  rw [verdict, hname]
  dsimp only
  rw [OptionName.verdict, check_toValue hs]

namespace Resolver

/-- Puts a setting in force as the innermost override. -/
def push (r : Resolver) (s : Setting) : Resolver := { r with overrides := s :: r.overrides }

/-- Checking one value with the effective values of the others checks that value alone. -/
theorem Valid.check_single {r : Resolver} (hr : r.Valid) (o : OptionName) (v : Value) :
    r.check [(o, v)] = (o.verdict v).map fun s => [s] := by
  have hraw : ∀ p, (List.lookup p [(o, v)]).getD (r.setting p).toValue =
      if p = o then v else (r.setting p).toValue := by
    intro p
    by_cases hp : p = o
    · simp [hp]
    · simp [List.lookup_cons, hp, beq_false_of_ne hp]
  -- The other options are offered their own settings, which pass as they are.
  have hcheck : ∀ p, p.check (if p = o then v else (r.setting p).toValue) =
      if p = o then o.check v else .ok (r.setting p) := by
    intro p
    by_cases hp : p = o
    · simp [hp]
    · simp [hp, hr.check_current p]
  unfold check OptionValues.ofRaw OptionName.verdict
  simp only [hraw, checkOptions_of_total, hcheck]
  cases hv : o.check v with
  | ok s =>
    have hs := (valid_of_check hv).1
    cases o <;> simp [OptionName.all, fatal?, reasonsOf, Except.toOption, Except.map, setting_put,
      hs]
  | error objection =>
    cases objection with
    | reasons reasons =>
      have hne : reasons ≠ [] := fun h => check_ne_no_reasons o v (h ▸ hv)
      cases o <;> simp [OptionName.all, fatal?, reasonsOf, Except.map, Rejection.error,
        Updates.blame, hne]
    | unorderedMembers =>
      cases o <;> rfl
    | repetitionTooLarge =>
      cases o <;> rfl

/-- A write stores the setting that its name and value come to. -/
theorem Valid.set_eq {r : Resolver} (hr : r.Valid) (name v : Value) :
    r.set name v = (verdict name v).map r.write := by
  unfold set verdict
  cases resolveName name with
  | error e => rfl
  | ok o =>
    simp only [hr.check_single o v]
    cases o.verdict v <;> rfl

/-- So a valid setting can be written, offered under its name. -/
theorem Valid.set_toValue {r : Resolver} (hr : r.Valid) {name : Value} {s : Setting}
    (hname : resolveName name = .ok s.option) (hs : s.Valid) :
    r.set name s.toValue = .ok (r.write s) := by
  rw [hr.set_eq, verdict_toValue hname hs]
  rfl

/-- An override puts in force the setting that its name and value come to. -/
theorem Valid.enter_eq {r : Resolver} (hr : r.Valid) (name v : Value) :
    r.enter name v = (verdict name v).map r.push := by
  unfold enter verdict
  cases resolveName name with
  | error e => rfl
  | ok o =>
    simp only [hr.check_single o v]
    cases o.verdict v <;> rfl

end Resolver

end Phrasebook
