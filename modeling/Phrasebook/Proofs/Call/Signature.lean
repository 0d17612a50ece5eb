import Phrasebook.Proofs.Call.Lines
import Phrasebook.Proofs.Value.Dictionary

namespace Phrasebook

/-!
# The grammar of calls

Which arguments make a call is a matter of nine shapes, said here without the steps in which they
are looked for:

* `Signature.Form`, `Signature.Fits` — the shapes, and the parts that arguments of a shape have;
* `splitOptions_bag`, `splitOptions_noBag`, `positional_of_splitKey`, `check_eq_ok_iff` — what each
  step of `Signature.resolve` makes of the arguments;
* `exists_cause_of_resolve` — where one of them fails, it is for an error in the signature;
* `Fits.unique` — arguments have one shape at most, and with it one reading;
* `Signature.resolve_grammar` — `Signature.resolve` finds the reading of exactly the arguments that
  have a shape.
-/

/-- Whether a text has a character that is not blank. -/
def NotBlank (s : String) : Prop := ∃ c ∈ s.toList, Text.isBlank c = false

/-- A text that is not blank has a character that is not. -/
theorem isBlankText_eq_false_iff {s : String} : isBlankText s = false ↔ NotBlank s := by
  simp [isBlankText, Text.isBlankText, NotBlank]

namespace Signature

variable {variants : List String} {line : Option Int}

/-! ### Shapes of arguments -/

/-- Whether an object literal has an entry with the name of a variant. -/
def NamesVariant (variants : List String) (entries : Entries) : Prop :=
  ∃ name ∈ variants, ∃ v, (Value.text name, v) ∈ entries

/-- Whether a bag gives a string literal as the default. -/
def GivesDefault (options : Entries) (s : String) : Prop :=
  options.get? (.text "defaultValue") = some (.literal s)

/-- The shapes that the arguments of a call have. -/
inductive Form where
  | default
  | defaultOptions
  | keyOptions
  | keyDefault
  | keyDefaultOptions
  | plural
  | pluralOptions
  | keyPlural
  | keyPluralOptions
  deriving DecidableEq

/-- Arguments of a shape, and the parts that they stand for.  A bag gives the default only where no
    other argument does. -/
inductive Fits (variants : List String) : Form → List Argument → Signature → Prop where
  | default {d : String} (hd : NotBlank d) :
      Fits variants .default [.text d] ⟨none, .text d, none⟩
  | defaultOptions {d : String} {o : Entries} (hd : NotBlank d) (ho : ¬ NamesVariant variants o)
      (hgives : ∀ s, ¬ GivesDefault o s) :
      Fits variants .defaultOptions [.text d, .map o] ⟨none, .text d, some o⟩
  | keyOptions {k d : String} {o : Entries} (hk : NotBlank k) (ho : ¬ NamesVariant variants o)
      (hgives : GivesDefault o d) :
      Fits variants .keyOptions [.text k, .map o] ⟨some k, .text d, some o⟩
  | keyDefault {k d : String} (hk : NotBlank k) :
      Fits variants .keyDefault [.text k, .text d] ⟨some k, .text d, none⟩
  | keyDefaultOptions {k d : String} {o : Entries} (hk : NotBlank k)
      (ho : ¬ NamesVariant variants o) :
      Fits variants .keyDefaultOptions [.text k, .text d, .map o] ⟨some k, .text d, some o⟩
  | plural {p : Entries} (hp : NamesVariant variants p) :
      Fits variants .plural [.map p] ⟨none, .map p, none⟩
  | pluralOptions {p o : Entries} (hp : NamesVariant variants p) (ho : ¬ NamesVariant variants o) :
      Fits variants .pluralOptions [.map p, .map o] ⟨none, .map p, some o⟩
  | keyPlural {k : String} {p : Entries} (hk : NotBlank k) (hp : NamesVariant variants p) :
      Fits variants .keyPlural [.text k, .map p] ⟨some k, .map p, none⟩
  | keyPluralOptions {k : String} {p o : Entries} (hk : NotBlank k)
      (hp : NamesVariant variants p) (ho : ¬ NamesVariant variants o) :
      Fits variants .keyPluralOptions [.text k, .map p, .map o] ⟨some k, .map p, some o⟩

/-- Arguments have one shape at most, and one reading. -/
theorem Fits.unique {form form' : Form} {args : List Argument} {sig sig' : Signature}
    (h : Fits variants form args sig) (h' : Fits variants form' args sig') :
    form = form' ∧ sig = sig' := by
  cases h with
  | defaultOptions hd ho hgives =>
    cases h' with
    | defaultOptions => exact ⟨rfl, rfl⟩
    | keyOptions _ _ hgives' => exact absurd hgives' (hgives _)
    | keyPlural _ ho' => exact absurd ho' ho
  | keyOptions hk ho hgives =>
    cases h' with
    | defaultOptions _ _ hgives' => exact absurd hgives (hgives' _)
    | keyOptions _ _ hgives' =>
      cases hgives.symm.trans hgives'
      exact ⟨rfl, rfl⟩
    | keyPlural _ ho' => exact absurd ho' ho
  | keyPlural hk hp =>
    cases h' with
    | defaultOptions _ ho' => exact absurd hp ho'
    | keyOptions _ ho' => exact absurd hp ho'
    | keyPlural => exact ⟨rfl, rfl⟩
  -- No other two shapes have arguments of the same kinds.
  | _ =>
    cases h'
    exact ⟨rfl, rfl⟩

/-! ### The steps of a resolution -/

/-- A plural map is an object literal that names a variant. -/
theorem isPluralMap_iff {entries : Entries} :
    isPluralMap variants entries = true ↔ NamesVariant variants entries := by
  simp only [isPluralMap, List.any_eq_true, Value.sameKey_text_iff]
  constructor
  · rintro ⟨⟨k, v⟩, he, name, hname, rfl⟩
    exact ⟨name, hname, v, he⟩
  · rintro ⟨name, hname, v, he⟩
    exact ⟨_, he, name, hname, rfl⟩

/-- A last argument that is an object literal without variants is the bag. -/
theorem splitOptions_bag {o : Entries} (ho : ¬ NamesVariant variants o)
    (before : List Argument) :
    splitOptions variants line (before ++ [.map o]) = .ok (before, some o) := by
  have hplain : ¬ isPluralMap variants o = true := fun h => ho (isPluralMap_iff.mp h)
  simp [splitOptions, hplain]

/-- Any other last argument is none, and then there are no three arguments. -/
theorem splitOptions_noBag {last : Argument}
    (hlast : ∀ o, last = .map o → NamesVariant variants o) (before : List Argument) :
    splitOptions variants line (before ++ [last]) =
      if before.length = 2 then .error (.signature .optionsNotObject line)
      else .ok (before ++ [last], none) := by
  cases last with
  | map o =>
    have hplural : isPluralMap variants o = true := isPluralMap_iff.mpr (hlast o rfl)
    simp [splitOptions, hplural, maxArguments]
  | text s => simp [splitOptions, maxArguments]
  | unsupported source => simp [splitOptions, maxArguments]

/-- What is before the bag, or before nothing, are all the arguments. -/
theorem args_of_splitOptions {args positional : List Argument} {options : Option Entries}
    (h : splitOptions variants line args = .ok (positional, options)) :
    (∃ o, ¬ NamesVariant variants o ∧ args = positional ++ [.map o] ∧ options = some o) ∨
      (positional = args ∧ options = none) := by
  rcases List.eq_nil_or_concat args with rfl | ⟨before, last, rfl⟩
  · cases h
  · rw [List.concat_eq_append] at h ⊢
    by_cases hlast : ∀ o, last = .map o → NamesVariant variants o
    · rw [splitOptions_noBag hlast] at h
      split at h
      · cases h
      · cases h
        exact .inr ⟨rfl, rfl⟩
    · obtain ⟨o, rfl, ho⟩ : ∃ o, last = .map o ∧ ¬ NamesVariant variants o := by
        simpa using hlast
      rw [splitOptions_bag ho] at h
      cases h
      exact .inl ⟨o, ho, rfl, rfl⟩

/-- The text under `defaultValue` is the default that the bag gives. -/
theorem legacyText?_some_eq_some_iff {o : Entries} {d : String} :
    legacyText? (some o) = some d ↔ GivesDefault o d := by
  unfold legacyText? GivesDefault legacyDefault
  rw [Option.bind_some]
  split
  · rename_i s hs
    simp [hs]
  · rename_i hs
    simp only [reduceCtorEq, false_iff]
    exact hs d

/-- A lone text is a key where the bag gives the default; otherwise a lone argument is the default,
    and of two arguments the first is a key. -/
theorem positional_of_splitKey {options : Option Entries} {positional : List Argument}
    {key : Option String} {default : Argument}
    (h : splitKey line options positional = .ok (key, default)) :
    (∃ k d, positional = [.text k] ∧ legacyText? options = some d ∧ key = some k ∧
        default = .text d) ∨
      (positional = [default] ∧ key = none ∧
        ∀ d, default = .text d → legacyText? options = none) ∨
      ∃ k, positional = [.text k, default] ∧ key = some k := by
  unfold splitKey at h
  split at h
  · rename_i s
    split at h
    · rename_i d hlegacy
      cases h
      exact .inl ⟨s, d, rfl, hlegacy, rfl, rfl⟩
    · rename_i hlegacy
      cases h
      exact .inr (.inl ⟨rfl, rfl, fun _ _ => hlegacy⟩)
  · rename_i hnotText
    cases h
    exact .inr (.inl ⟨rfl, rfl, fun d hd => absurd hd (hnotText d)⟩)
  · rename_i k _
    cases h
    exact .inr (.inr ⟨k, rfl, rfl⟩)
  · cases h
  · cases h

/-- A key must not be blank, nor a text without a key, and an object literal must be a plural map. -/
theorem check_eq_ok_iff {key : Option String} {default : Argument} :
    check variants line key default = .ok () ↔
      (∀ k, key = some k → NotBlank k) ∧
        ((∃ d, default = .text d ∧ (key = none → NotBlank d)) ∨
          ∃ p, default = .map p ∧ NamesVariant variants p) := by
  have hkey : key.any isBlankText = true ↔ ¬ ∀ k, key = some k → NotBlank k := by
    simp only [Option.any_eq_true, ← isBlankText_eq_false_iff]
    cases key <;> simp
  unfold check
  by_cases hblank : key.any isBlankText = true
  · rw [if_pos hblank]
    simp [hkey.mp hblank]
  · have hall := Classical.not_not.mp (mt hkey.mpr hblank)
    rw [if_neg hblank, and_iff_right hall]
    cases default with
    | text d =>
      cases key <;> simp [← isBlankText_eq_false_iff]
    | map p =>
      simp [← isPluralMap_iff]
    | unsupported source => simp

/-- Arguments with a bag are read as the steps on the others say. -/
theorem resolve_bag {o : Entries} {key : Option String} {default : Argument}
    (before : List Argument) (hshort : before.length ≤ 2) (ho : ¬ NamesVariant variants o)
    (hkey : splitKey line (some o) before = .ok (key, default))
    (hcheck : check variants line key default = .ok ()) :
    resolve variants line (before ++ [.map o]) = .ok ⟨key, default, some o⟩ := by
  have hlength : ¬ maxArguments < (before ++ [Argument.map o]).length := by
    simp [maxArguments]
    omega
  unfold resolve
  rw [if_neg hlength, splitOptions_bag ho]
  simp only [hkey, hcheck]

/-- Arguments without a bag are. -/
theorem resolve_noBag {last : Argument} {key : Option String} {default : Argument}
    (before : List Argument) (hshort : before.length < 2)
    (hlast : ∀ o, last = .map o → NamesVariant variants o)
    (hkey : splitKey line none (before ++ [last]) = .ok (key, default))
    (hcheck : check variants line key default = .ok ()) :
    resolve variants line (before ++ [last]) = .ok ⟨key, default, none⟩ := by
  have hlength : ¬ maxArguments < (before ++ [last]).length := by
    simp [maxArguments]
    omega
  unfold resolve
  rw [if_neg hlength, splitOptions_noBag hlast, if_neg (by omega)]
  simp only [hkey, hcheck]

/-- Parts that are read have passed the check. -/
theorem check_of_resolve {args : List Argument} {sig : Signature}
    (h : resolve variants line args = .ok sig) : check variants line sig.key sig.default = .ok () := by
  unfold resolve at h
  repeat' split at h
  all_goals cases h
  assumption

/-! Whatever step fails, it finds an error in the signature. -/

theorem exists_cause_of_splitOptions {args : List Argument} {e : CallError}
    (h : splitOptions variants line args = .error e) : ∃ cause, e = .signature cause line := by
  unfold splitOptions at h
  repeat' split at h
  all_goals cases h
  all_goals exact ⟨_, rfl⟩

theorem exists_cause_of_splitKey {options : Option Entries} {args : List Argument} {e : CallError}
    (h : splitKey line options args = .error e) : ∃ cause, e = .signature cause line := by
  unfold splitKey at h
  repeat' split at h
  all_goals cases h
  all_goals exact ⟨_, rfl⟩

theorem exists_cause_of_check {key : Option String} {default : Argument} {e : CallError}
    (h : check variants line key default = .error e) : ∃ cause, e = .signature cause line := by
  unfold check at h
  repeat' split at h
  all_goals cases h
  all_goals exact ⟨_, rfl⟩

/-- Arguments that are not read have an error in the signature. -/
theorem exists_cause_of_resolve {args : List Argument} {e : CallError}
    (h : resolve variants line args = .error e) : ∃ cause, e = .signature cause line := by
  unfold resolve at h
  split at h
  · cases h
    exact ⟨_, rfl⟩
  split at h
  · rename_i hsplit
    cases h
    exact exists_cause_of_splitOptions hsplit
  split at h
  · rename_i hkey
    cases h
    exact exists_cause_of_splitKey hkey
  split at h
  · rename_i hcheck
    cases h
    exact exists_cause_of_check hcheck
  · cases h

/-! ### The grammar -/

/-- Arguments of a shape are read as the parts that the shape gives. -/
theorem resolve_of_fits {form : Form} {args : List Argument} {sig : Signature}
    (h : Fits variants form args sig) : resolve variants line args = .ok sig := by
  have htext : ∀ (d : String) o, Argument.text d = .map o → NamesVariant variants o := by
    intro d o hd
    cases hd
  have hmap : ∀ {p : Entries}, NamesVariant variants p →
      ∀ o, Argument.map p = .map o → NamesVariant variants o := by
    intro p hp o hd
    cases hd
    exact hp
  have hlegacy : ∀ {o : Entries}, (∀ s, ¬ GivesDefault o s) → legacyText? (some o) = none := by
    intro o hgives
    rw [Option.eq_none_iff_forall_ne_some]
    exact fun s hs => hgives s (legacyText?_some_eq_some_iff.mp hs)
  -- A shape has a bag as its last argument or has none, and its parts are split off accordingly.
  cases h with
  | @default d hd =>
    exact resolve_noBag [] (by simp) (htext d) rfl (by simp [check_eq_ok_iff, hd])
  | @defaultOptions d o hd ho hgives =>
    exact resolve_bag [.text d] (by simp) ho (by simp [splitKey, hlegacy hgives])
      (by simp [check_eq_ok_iff, hd])
  | @keyOptions k d o hk ho hgives =>
    have hd := legacyText?_some_eq_some_iff.mpr hgives
    exact resolve_bag [.text k] (by simp) ho (by simp [splitKey, hd])
      (by simp [check_eq_ok_iff, hk])
  | @keyDefault k d hk =>
    exact resolve_noBag [.text k] (by simp) (htext d) rfl (by simp [check_eq_ok_iff, hk])
  | @keyDefaultOptions k d o hk ho =>
    exact resolve_bag [.text k, .text d] (by simp) ho rfl (by simp [check_eq_ok_iff, hk])
  | @plural p hp =>
    exact resolve_noBag [] (by simp) (hmap hp) rfl (by simp [check_eq_ok_iff, hp])
  | @pluralOptions p o hp ho =>
    exact resolve_bag [.map p] (by simp) ho rfl (by simp [check_eq_ok_iff, hp])
  | @keyPlural k p hk hp =>
    exact resolve_noBag [.text k] (by simp) (hmap hp) rfl (by simp [check_eq_ok_iff, hk, hp])
  | @keyPluralOptions k p o hk hp ho =>
    exact resolve_bag [.text k, .map p] (by simp) ho rfl (by simp [check_eq_ok_iff, hk, hp])

/-- Arguments that are read have a shape with the parts that are read. -/
theorem fits_of_resolve {args : List Argument} {sig : Signature}
    (h : resolve variants line args = .ok sig) : ∃ form, Fits variants form args sig := by
  unfold resolve at h
  repeat' split at h
  all_goals cases h
  rename_i hlength _ positional options hsplit _ key default hkey _ hcheck
  obtain ⟨hnotBlank, hdefault⟩ := check_eq_ok_iff.mp hcheck
  rcases positional_of_splitKey hkey with
    ⟨k, d, rfl, hlegacy, rfl, rfl⟩ | ⟨rfl, rfl, hlegacy⟩ | ⟨k, rfl, rfl⟩
  · -- A key alone, whose default the bag gives.
    rcases args_of_splitOptions hsplit with ⟨o, ho, rfl, rfl⟩ | ⟨rfl, rfl⟩
    · exact ⟨_, .keyOptions (hnotBlank k rfl) ho (legacyText?_some_eq_some_iff.mp hlegacy)⟩
    · cases hlegacy
  · -- A default without a key.
    rcases args_of_splitOptions hsplit with ⟨o, ho, rfl, rfl⟩ | ⟨rfl, rfl⟩
    · rcases hdefault with ⟨d, rfl, hd⟩ | ⟨p, rfl, hp⟩
      · refine ⟨_, .defaultOptions (hd rfl) ho fun s hs => ?_⟩
        have hnone := hlegacy d rfl
        rw [legacyText?_some_eq_some_iff.mpr hs] at hnone
        cases hnone
      · exact ⟨_, .pluralOptions hp ho⟩
    · rcases hdefault with ⟨d, rfl, hd⟩ | ⟨p, rfl, hp⟩
      · exact ⟨_, .default (hd rfl)⟩
      · exact ⟨_, .plural hp⟩
  · -- A key and a default.
    rcases args_of_splitOptions hsplit with ⟨o, ho, rfl, rfl⟩ | ⟨rfl, rfl⟩
    · rcases hdefault with ⟨d, rfl, _⟩ | ⟨p, rfl, hp⟩
      · exact ⟨_, .keyDefaultOptions (hnotBlank k rfl) ho⟩
      · exact ⟨_, .keyPluralOptions (hnotBlank k rfl) hp ho⟩
    · rcases hdefault with ⟨d, rfl, _⟩ | ⟨p, rfl, hp⟩
      · exact ⟨_, .keyDefault (hnotBlank k rfl)⟩
      · exact ⟨_, .keyPlural (hnotBlank k rfl) hp⟩

end Signature

/-- **Calls have exactly the arguments of nine shapes.**  Under the variants that any resolver has
    in force, arguments are read exactly when they have a shape, and as the parts that it gives; no
    arguments have two shapes or two readings; and arguments without a shape, however many and
    whatever they are, make no call but an error in the signature, on the line of the call. -/
theorem Signature.resolve_grammar (r : Resolver) (args : List Argument) :
    (∀ line sig, resolve r.values.pluralizationKeys line args = .ok sig ↔
      ∃ form, Fits r.values.pluralizationKeys form args sig) ∧
    (∀ form form' sig sig', Fits r.values.pluralizationKeys form args sig →
      Fits r.values.pluralizationKeys form' args sig' → form = form' ∧ sig = sig') ∧
    ((∃ form sig, Fits r.values.pluralizationKeys form args sig) ∨
      ∃ cause, ∀ line,
        resolve r.values.pluralizationKeys line args = .error (.signature cause line) ∧
        ∀ method, Call.ofArguments r.values method line args = .error (.signature cause line)) := by
  have hiff : ∀ line sig, resolve r.values.pluralizationKeys line args = .ok sig ↔
      ∃ form, Fits r.values.pluralizationKeys form args sig :=
    fun line sig => ⟨fits_of_resolve, fun ⟨_, h⟩ => resolve_of_fits h⟩
  refine ⟨hiff, fun _ _ _ _ h h' => h.unique h', ?_⟩
  cases hresolve : resolve r.values.pluralizationKeys none args with
  | ok sig =>
    obtain ⟨form, h⟩ := (hiff none sig).mp hresolve
    exact .inl ⟨form, sig, h⟩
  | error e =>
    obtain ⟨cause, rfl⟩ := exists_cause_of_resolve hresolve
    refine .inr ⟨cause, fun line => ?_⟩
    have herror : resolve r.values.pluralizationKeys line args = .error (.signature cause line) := by
      rw [resolve_onLine, hresolve]
      rfl
    refine ⟨herror, fun method => ?_⟩
    unfold Call.ofArguments
    rw [herror]

end Phrasebook
