import Phrasebook.Proofs.Options.Update
import Phrasebook.Proofs.Value.Dictionary

namespace Phrasebook

/-!
# Spellings of options

An option has two spellings, so a dictionary can give it two values, and the later one wins.  When a
dictionary is put over another one, a key of both keeps the place that it has in the lower one, and
what the upper one says of an option last can be followed by something else:

* `Entries.spellings` — the spellings of an option among the keys of a dictionary, in order;
* `Distinct.winner?_eq` — an option is given the value under its last spelling;
* `Entries.newSpellings`, `spellings_merge` — those that are new in an upper dictionary go last;
* `Entries.Overtakes` — when a value under the one spelling comes after the last word of the upper
  dictionary under the other;
* `winner?_merge_of_overtakes`, `winner?_merge_of_not_overtakes` — what an option is given last, in
  either case.
-/

namespace OptionName

/-- The text of a value that spells an option. -/
def spelling? (o : OptionName) : Value → Option String
  | .text s => if ofText? s = some o then some s else none
  | _ => none

/-- Only texts spell options. -/
theorem spelling?_eq_some_iff {o : OptionName} {k : Value} {s : String} :
    o.spelling? k = some s ↔ k = .text s ∧ ofText? s = some o := by
  cases k with
  | text t =>
    simp only [spelling?, Value.text.injEq]
    split
    · rename_i ht
      constructor
      · rintro ⟨⟩
        exact ⟨rfl, ht⟩
      · rintro ⟨rfl, _⟩
        rfl
    · rename_i ht
      simp only [reduceCtorEq, false_iff]
      rintro ⟨rfl, hs⟩
      exact ht hs
  | _ => simp [spelling?]

/-- What spells no option names none. -/
theorem ofValue?_ne_of_spelling?_eq_none {o : OptionName} {k : Value}
    (h : o.spelling? k = none) : ofValue? k ≠ some o := by
  cases k with
  | text s =>
    intro ho
    rw [spelling?_eq_some_iff.mpr ⟨rfl, ho⟩] at h
    cases h
  | _ => simp [ofValue?]

/-- An option has the canonical spelling and that of files. -/
theorem ofText?_eq_some_iff {o : OptionName} {s : String} :
    ofText? s = some o ↔ s = o.canonical ∨ s = o.inFiles := by
  constructor
  · intro h
    have hfound := List.find?_some h
    simp only [Bool.or_eq_true, beq_iff_eq] at hfound
    exact hfound.imp Eq.symm Eq.symm
  · rintro (rfl | rfl)
    all_goals cases o <;> decide

/-- It has no third one. -/
theorem eq_or_eq_of_ofText? {o : OptionName} {s t u : String} (hne : s ≠ t)
    (hs : ofText? s = some o) (ht : ofText? t = some o) (hu : ofText? u = some o) :
    u = s ∨ u = t := by
  rw [ofText?_eq_some_iff] at hs ht hu
  grind

end OptionName

namespace Entries

/-! ### Spellings -/

/-- The spellings of an option among the keys, in order. -/
def spellings (o : OptionName) (entries : Entries) : List String :=
  entries.keys.filterMap o.spelling?

/-- A spelling is the key of an entry. -/
theorem mem_spellings_iff {o : OptionName} {entries : Entries} {s : String} :
    s ∈ entries.spellings o ↔
      OptionName.ofText? s = some o ∧ entries.contains (.text s) = true := by
  simp only [spellings, List.mem_filterMap, OptionName.spelling?_eq_some_iff, contains_eq_any_keys,
    List.any_eq_true, Value.sameKey_text_iff]
  constructor
  · rintro ⟨k, hk, hks, ho⟩
    exact ⟨ho, k, hk, hks⟩
  · rintro ⟨ho, k, hk, hks⟩
    exact ⟨k, hk, hks, ho⟩

/-- What has a spelling has a value. -/
theorem exists_get?_of_mem_spellings {o : OptionName} {entries : Entries} {s : String}
    (hdistinct : entries.Distinct) (h : s ∈ entries.spellings o) :
    ∃ v, entries.get? (.text s) = some v := by
  obtain ⟨v, hv⟩ := contains_text_iff.mp (mem_spellings_iff.mp h).2
  exact ⟨v, hdistinct.get?_text_eq_some_iff.mpr hv⟩

/-- In a dictionary an option is given the value under its last spelling. -/
theorem Distinct.winner?_eq {entries : Entries} (h : entries.Distinct) (o : OptionName) :
    entries.winner? o =
      (entries.spellings o).getLast?.bind fun s => entries.get? (.text s) := by
  have hmem : ∀ e ∈ entries.reverse, e ∈ entries := fun e he => List.mem_reverse.mp he
  unfold winner? spellings keys
  rw [List.filterMap_map, List.getLast?_eq_head?_reverse, ← List.filterMap_reverse,
    List.head?_filterMap]
  -- Both sides look for the first entry of the reversed dictionary that names the option.
  generalize entries.reverse = found at hmem ⊢
  induction found with
  | nil => rfl
  | cons e rest ih =>
    obtain ⟨k, v⟩ := e
    rw [List.find?_cons, List.findSome?_cons]
    cases hs : o.spelling? k with
    | some s =>
      obtain ⟨rfl, ho⟩ := OptionName.spelling?_eq_some_iff.mp hs
      have hget := h.get?_text_eq_some_iff.mpr (hmem _ List.mem_cons_self)
      simp [OptionName.ofValue?, ho, hs, hget]
    | none =>
      rw [beq_false_of_ne (OptionName.ofValue?_ne_of_spelling?_eq_none hs)]
      simpa [hs] using ih fun e he => hmem e (List.mem_cons_of_mem _ he)

/-- An option that is spelled is given something. -/
theorem exists_winner?_of_spellings {entries : Entries} (h : entries.Distinct) {o : OptionName}
    (hspelled : entries.spellings o ≠ []) : ∃ w, entries.winner? o = some w := by
  rw [h.winner?_eq, List.getLast?_eq_some_getLast hspelled, Option.bind_some]
  exact exists_get?_of_mem_spellings h (List.getLast_mem hspelled)

/-- The option that a spelling is of. -/
theorem ofText?_of_mem_spellings {o : OptionName} {entries : Entries} {s : String}
    (h : s ∈ entries.spellings o) : OptionName.ofText? s = some o :=
  (mem_spellings_iff.mp h).1

/-- Where an option is not spelled, there is nothing under its spellings. -/
theorem get?_eq_none_of_spellings_eq_nil {o : OptionName} {entries : Entries} {s : String}
    (ho : OptionName.ofText? s = some o) (h : entries.spellings o = []) :
    entries.get? (.text s) = none := by
  cases hget : entries.get? (.text s) with
  | none => rfl
  | some v =>
    have hmem : s ∈ entries.spellings o :=
      mem_spellings_iff.mpr ⟨ho, contains_text_iff.mpr ⟨v, mem_of_get?_text hget⟩⟩
    rw [h] at hmem
    cases hmem

/-! ### New spellings -/

/-- The spellings of an option that an upper dictionary adds to those of a lower one. -/
def newSpellings (o : OptionName) (lower upper : Entries) : List String :=
  (upper.spellings o).filter fun s => s ∉ lower.spellings o

section Merged

variable {o : OptionName} {lower upper : Entries} {s t : String}

/-- A spelling is new if only the upper dictionary has it. -/
theorem mem_newSpellings_iff :
    t ∈ newSpellings o lower upper ↔ t ∈ upper.spellings o ∧ t ∉ lower.spellings o := by
  simp [newSpellings]

/-- Spellings that are new go last. -/
theorem spellings_merge (hupper : upper.Distinct) :
    (merge lower upper).spellings o = lower.spellings o ++ newSpellings o lower upper := by
  unfold newSpellings spellings
  rw [hupper.keys_merge, List.filterMap_append, List.filterMap_filter, List.filter_filterMap]
  congr 2
  funext k
  cases hs : o.spelling? k with
  | none => simp
  | some s =>
    obtain ⟨rfl, ho⟩ := OptionName.spelling?_eq_some_iff.mp hs
    have hmem : s ∈ lower.spellings o ↔ lower.contains (.text s) = true := by
      rw [mem_spellings_iff]
      exact and_iff_right ho
    show _ = Option.filter (fun s => decide (s ∉ lower.spellings o)) (some s)
    rw [Option.filter_some]
    by_cases hold : s ∈ lower.spellings o
    · simp [hold, hmem.mp hold]
    · simp [hold, Bool.eq_false_iff.mpr (mt hmem.mpr hold)]

/-- The last spelling of the upper dictionary is the last new one, if it is new. -/
theorem getLast?_newSpellings_of_new (hs : (upper.spellings o).getLast? = some s)
    (hnew : s ∉ lower.spellings o) : (newSpellings o lower upper).getLast? = some s := by
  obtain ⟨before, hbefore⟩ := List.getLast?_eq_some_iff.mp hs
  unfold newSpellings
  rw [hbefore, List.filter_append, List.filter_cons_of_pos (by simpa using hnew)]
  simp

/-- After one spelling of an option only the other one can be new. -/
theorem eq_of_mem_newSpellings {u : String} (hne : s ≠ t) (hs : s ∈ lower.spellings o)
    (ht : OptionName.ofText? t = some o) (hu : u ∈ newSpellings o lower upper) : u = t := by
  obtain ⟨huupper, hulower⟩ := mem_newSpellings_iff.mp hu
  rcases OptionName.eq_or_eq_of_ofText? hne (ofText?_of_mem_spellings hs) ht
    (ofText?_of_mem_spellings huupper) with rfl | rfl
  · exact absurd hs hulower
  · rfl

/-- If the lower dictionary has both spellings, none is new. -/
theorem newSpellings_eq_nil (hne : s ≠ t) (hs : s ∈ lower.spellings o)
    (ht : t ∈ lower.spellings o) : newSpellings o lower upper = [] := by
  rw [List.eq_nil_iff_forall_not_mem]
  intro u hu
  rw [eq_of_mem_newSpellings hne hs (ofText?_of_mem_spellings ht) hu] at hu
  exact (mem_newSpellings_iff.mp hu).2 ht

/-- If the lower dictionary has one spelling, the other one is the last new one, if it is new. -/
theorem getLast?_newSpellings_of_mem (hne : s ≠ t) (hs : s ∈ lower.spellings o)
    (ht : t ∈ newSpellings o lower upper) :
    (newSpellings o lower upper).getLast? = some t := by
  cases hlast : (newSpellings o lower upper).getLast? with
  | none =>
    rw [List.getLast?_eq_none_iff.mp hlast] at ht
    cases ht
  | some u =>
    have ho := ofText?_of_mem_spellings (mem_newSpellings_iff.mp ht).1
    rw [eq_of_mem_newSpellings hne hs ho (List.mem_of_getLast? hlast)]

/-! ### What overtakes -/

/-- A value overtakes what a dictionary that is put over a lower one says of an option: the last
    spelling there, `s`, has its place in the lower one already, and the other spelling, `t`, under
    which the value is, comes after that place or is new. -/
def Overtakes (o : OptionName) (w : Value) (lower upper : Entries) : Prop :=
  ∃ s t, s ≠ t ∧ (upper.spellings o).getLast? = some s ∧ s ∈ lower.spellings o ∧
    ((lower.spellings o).getLast? = some t ∨ t ∉ lower.spellings o ∧ t ∈ upper.spellings o) ∧
    (upper.get? (.text t)).or (lower.get? (.text t)) = some w

/-- When another spelling comes last than that of the upper dictionary. -/
theorem getLast?_spellings_merge_iff (hupper : upper.Distinct) (hne : s ≠ t)
    (hs : (upper.spellings o).getLast? = some s) :
    ((merge lower upper).spellings o).getLast? = some t ↔
      s ∈ lower.spellings o ∧ ((lower.spellings o).getLast? = some t ∨
        t ∉ lower.spellings o ∧ t ∈ upper.spellings o) := by
  rw [spellings_merge hupper, List.getLast?_append]
  constructor
  · intro hlast
    have hslower : s ∈ lower.spellings o := by
      by_contra hnew
      rw [getLast?_newSpellings_of_new hs hnew] at hlast
      exact hne (Option.some.inj hlast)
    refine ⟨hslower, ?_⟩
    rcases Option.or_eq_some_iff.mp hlast with hnew | ⟨_, hold⟩
    · exact .inr (mem_newSpellings_iff.mp (List.mem_of_getLast? hnew)).symm
    · exact .inl hold
  · rintro ⟨hslower, hold | hnew⟩
    · rw [newSpellings_eq_nil hne hslower (List.mem_of_getLast? hold), hold]
      rfl
    · rw [getLast?_newSpellings_of_mem hne hslower (mem_newSpellings_iff.mpr hnew.symm)]
      rfl

/-- The last spelling of the upper dictionary stays last if nothing overtakes it. -/
theorem getLast?_spellings_merge (hlower : lower.Distinct) (hupper : upper.Distinct)
    (h : ∀ w, ¬ Overtakes o w lower upper) (hs : (upper.spellings o).getLast? = some s) :
    ((merge lower upper).spellings o).getLast? = some s := by
  obtain ⟨t, ht⟩ : ∃ t, ((merge lower upper).spellings o).getLast? = some t := by
    rw [spellings_merge hupper, List.getLast?_append, ← Option.isSome_iff_exists,
      Option.isSome_or, Bool.or_eq_true]
    by_cases hold : s ∈ lower.spellings o
    · exact .inr (List.getLast?_isSome.mpr (List.ne_nil_of_mem hold))
    · exact .inl (by rw [getLast?_newSpellings_of_new hs hold]; rfl)
  -- Were it another spelling that comes last, its value would overtake.
  by_contra hst
  have hne : s ≠ t := by
    rintro rfl
    exact hst ht
  obtain ⟨hslower, hplace⟩ := (getLast?_spellings_merge_iff hupper hne hs).mp ht
  obtain ⟨w, hw⟩ := exists_get?_of_mem_spellings (hlower.merge upper) (List.mem_of_getLast? ht)
  rw [hupper.get?_text_merge] at hw
  exact h w ⟨s, t, hne, hs, hslower, hplace, hw⟩

/-- An option gets what overtakes. -/
theorem winner?_merge_of_overtakes {w : Value} (hlower : lower.Distinct)
    (hupper : upper.Distinct) (h : Overtakes o w lower upper) :
    (merge lower upper).winner? o = some w := by
  obtain ⟨s, t, hne, hs, hslower, hplace, hw⟩ := h
  have hlast := (getLast?_spellings_merge_iff hupper hne hs).mpr ⟨hslower, hplace⟩
  rw [(hlower.merge upper).winner?_eq, hlast, Option.bind_some, hupper.get?_text_merge, hw]

/-- An option that nothing overtakes gets what the upper dictionary says, else what the lower one
    does. -/
theorem winner?_merge_of_not_overtakes (hlower : lower.Distinct) (hupper : upper.Distinct)
    (h : ∀ w, ¬ Overtakes o w lower upper) :
    (merge lower upper).winner? o = (upper.winner? o).or (lower.winner? o) := by
  rw [(hlower.merge upper).winner?_eq, hupper.winner?_eq, hlower.winner?_eq]
  simp only [hupper.get?_text_merge]
  cases hs : (upper.spellings o).getLast? with
  | none =>
    have hnil : upper.spellings o = [] := List.getLast?_eq_none_iff.mp hs
    rw [spellings_merge hupper, newSpellings, hnil, List.filter_nil, List.append_nil,
      Option.bind_none, Option.none_or]
    cases hlast : (lower.spellings o).getLast? with
    | none => rfl
    | some t =>
      have ho := ofText?_of_mem_spellings (List.mem_of_getLast? hlast)
      rw [Option.bind_some, Option.bind_some, get?_eq_none_of_spellings_eq_nil ho hnil,
        Option.none_or]
  | some s =>
    obtain ⟨v, hv⟩ := exists_get?_of_mem_spellings hupper (List.mem_of_getLast? hs)
    rw [getLast?_spellings_merge hlower hupper h hs, Option.bind_some, Option.bind_some, hv]
    rfl

end Merged

end Entries

end Phrasebook
