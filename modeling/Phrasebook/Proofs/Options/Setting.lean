import Mathlib.Data.List.Nodup
import Phrasebook.Options.Validation

namespace Phrasebook

/-!
# Valid settings

Validation takes any value to a setting of the option it is offered for, and takes a setting that
it has made once to itself:

* `Setting.Valid` — what a setting of each option has to satisfy;
* `valid_of_check` — a setting that validation makes is of the option asked about, and valid;
* `check_toValue` — a valid setting offered as a value again is accepted as it is.

Each check has one lemma that says exactly what it accepts and what it makes of it
(`checkLength_eq_ok_iff`, `checkVariants_eq_ok_iff`, `checkSyntax_eq_ok_iff`); nothing after them
opens a check.
-/

/-! ### Lists without repetitions -/

/-- What holds of a list when it holds of its tail without the first item holds of all lists: the
    recursion of `eraseDups`. -/
theorem eraseDups_induction {α : Type} [BEq α] {P : List α → Prop} (nil : P [])
    (cons : ∀ a t, P (t.filter fun b => !b == a) → P (a :: t)) (l : List α) : P l := by
  -- The tail is filtered before the recursion goes on, so the induction is on the length.
  induction hn : l.length using Nat.strongRecOn generalizing l with
  | ind n ih =>
    subst hn
    match l with
    | [] => exact nil
    | a :: t =>
      have hshort : (t.filter fun b => !b == a).length < (a :: t).length :=
        Nat.lt_succ_of_le (List.length_filter_le _ _)
      exact cons a t (ih _ hshort _ rfl)

/-- `eraseDups` leaves no repetition. -/
theorem nodup_eraseDups {α : Type} [BEq α] [LawfulBEq α] (l : List α) : l.eraseDups.Nodup := by
  induction l using eraseDups_induction with
  | nil => exact List.nodup_nil
  | cons a t ih =>
    have hnot : a ∉ (t.filter fun b => !b == a).eraseDups := by
      simp [List.mem_eraseDups, List.mem_filter]
    rw [List.eraseDups_cons]
    exact List.nodup_cons.mpr ⟨hnot, ih⟩

/-- A list without repetitions is left as it is. -/
theorem eraseDups_of_nodup {α : Type} [BEq α] [LawfulBEq α] {l : List α} (hl : l.Nodup) :
    l.eraseDups = l := by
  induction l with
  | nil => rfl
  | cons a t ih =>
    obtain ⟨ha, ht⟩ := List.nodup_cons.mp hl
    have hkeep : (t.filter fun b => !b == a) = t := by
      rw [List.filter_eq_self]
      intro b hb
      have hne : b ≠ a := fun h => ha (h ▸ hb)
      simpa using hne
    rw [List.eraseDups_cons, hkeep, ih ht]

/-! ### Single checks -/

/-- A format is found under its own name. -/
@[simp] theorem KeyFormat.ofName?_name (format : KeyFormat) :
    KeyFormat.ofName? format.name = some format := by
  cases format <;> rfl

/-- A length is accepted from 16 to 1000, as it is. -/
theorem checkLength_eq_ok_iff {n m : Int} :
    checkLength n = .ok m ↔ m = n ∧ 16 ≤ n ∧ n ≤ 1000 := by
  unfold checkLength
  split
  · simp; omega
  · split
    · simp; omega
    · simp only [Except.ok.injEq]; omega

/-- Variants are accepted if none is empty and both essential ones are there, and are stored without
    repetitions. -/
theorem checkVariants_eq_ok_iff {names stored : List String} :
    checkVariants names = .ok stored ↔
      ("" ∉ names ∧ "one" ∈ names ∧ "other" ∈ names) ∧ stored = names.eraseDups := by
  have hempty : names.any String.isEmpty = true ↔ "" ∈ names := by
    simp [List.any_eq_true]
  have hmissing : (essentialVariants.filter fun name => !names.contains name) = [] ↔
      "one" ∈ names ∧ "other" ∈ names := by
    simp [essentialVariants, List.filter_eq_nil_iff]
  unfold checkVariants
  split
  · rename_i h
    simp [hempty.mp h]
  · rename_i h
    have hfull : "" ∉ names := fun hm => h (hempty.mpr hm)
    split
    · rename_i hnone
      simp [hfull, hmissing.mp hnone, eq_comm]
    · rename_i hsome
      have hnot : ¬ ("one" ∈ names ∧ "other" ∈ names) := fun hm => hsome (hmissing.mpr hm)
      simp only [reduceCtorEq, false_iff]
      exact fun hm => hnot hm.1.2

/-- A pattern is accepted if it can be read and has one capture group, as it is. -/
theorem checkSyntax_eq_ok_iff {source stored : String} :
    checkSyntax source = .ok stored ↔
      (∃ pattern, Pattern.read source.toList = .ok pattern ∧ pattern.groups = 1) ∧
        stored = source := by
  unfold checkSyntax
  cases hread : Pattern.read source.toList with
  | ok pattern =>
    by_cases hone : pattern.groups = 1
    · simp [hone, eq_comm]
    · simp [hone]
  | error fault => cases fault <;> simp

/-! ### Settings -/

namespace Setting

/-- What a setting has to satisfy: any format; a length from 16 to 1000; distinct, non-empty
    variants with the essential ones among them; a pattern with one capture group. -/
def Valid : Setting → Prop
  | .keyFormat _ => True
  | .maxKeyLength limit => 16 ≤ limit ∧ limit ≤ 1000
  | .pluralizationKeys names => names.Nodup ∧ "" ∉ names ∧ "one" ∈ names ∧ "other" ∈ names
  | .interpolationSyntax source =>
    ∃ pattern, Pattern.read source.toList = .ok pattern ∧ pattern.groups = 1

end Setting

/-- Variants that are texts are read as they are. -/
theorem variantNames_map_text (names : List String) :
    variantNames (names.map .text) = .ok names := by
  simp [variantNames, List.filterMap_map, Value.asText, Except.toOption]

/-- What validation accepts for an option is a setting of that option, and valid. -/
theorem valid_of_check {o : OptionName} {v : Value} {s : Setting} (h : o.check v = .ok s) :
    s.option = o ∧ s.Valid := by
  cases o with
  | keyFormat =>
    simp only [OptionName.check] at h
    repeat' split at h
    all_goals cases h
    exact ⟨rfl, trivial⟩
  | maxKeyLength =>
    simp only [OptionName.check] at h
    split at h
    · rename_i n hn
      cases h
      obtain ⟨m, _, hm⟩ : ∃ m, v.asInteger = .ok m ∧ checkLength m = .ok n := by
        cases hv : v.asInteger with
        | error e => rw [hv] at hn; cases hn
        | ok m => rw [hv] at hn; exact ⟨m, rfl, hn⟩
      obtain ⟨rfl, hrange⟩ := checkLength_eq_ok_iff.mp hm
      exact ⟨rfl, hrange⟩
    · cases h
  | pluralizationKeys =>
    simp only [OptionName.check] at h
    repeat' split at h
    all_goals cases h
    rename_i names hnames
    obtain ⟨⟨hempty, hone, hother⟩, rfl⟩ := checkVariants_eq_ok_iff.mp hnames
    refine ⟨rfl, nodup_eraseDups _, ?_, ?_, ?_⟩ <;> simpa [List.mem_eraseDups]
  | interpolationSyntax =>
    simp only [OptionName.check] at h
    repeat' split at h
    all_goals cases h
    rename_i hsource
    obtain ⟨hpattern, rfl⟩ := checkSyntax_eq_ok_iff.mp hsource
    exact ⟨rfl, hpattern⟩

/-- A valid setting, offered as a value again, is accepted as it is. -/
theorem check_toValue {s : Setting} (h : s.Valid) : s.option.check s.toValue = .ok s := by
  cases s with
  | keyFormat format => simp [Setting.option, Setting.toValue, OptionName.check]
  | maxKeyLength limit =>
    have hlimit : checkLength limit = .ok limit := checkLength_eq_ok_iff.mpr ⟨rfl, h⟩
    simp [Setting.option, Setting.toValue, OptionName.check, Value.asInteger, hlimit, bind,
      Except.bind]
  | pluralizationKeys names =>
    obtain ⟨hnodup, hessential⟩ := h
    have hnames : checkVariants names = .ok names :=
      checkVariants_eq_ok_iff.mpr ⟨hessential, (eraseDups_of_nodup hnodup).symm⟩
    simp [Setting.option, Setting.toValue, OptionName.check, Value.asMembers,
      variantNames_map_text, hnames]
  | interpolationSyntax source =>
    have hsource : checkSyntax source = .ok source := checkSyntax_eq_ok_iff.mpr ⟨h, rfl⟩
    simp [Setting.option, Setting.toValue, OptionName.check, Value.asText, hsource]

end Phrasebook
