import Phrasebook.Value.Basic

namespace Phrasebook

/-!
# Dictionaries

Entries are a dictionary when no two of them are under one key, and putting values under keys keeps
them so:

* `Value.sameKey_text_iff`, `Value.text_sameKey_iff` — a text is the same key as itself alone;
* `Entries.contains_text_iff`, `Entries.get?_text_eq_some_iff` — what is under a text is found there;
* `Entries.Distinct` — no two entries are under one key;
* `Entries.keys_insert`, `Entries.get?_text_insert` — a value that is put under a key;
* `Distinct.keys_merge`, `Distinct.get?_text_merge` — a dictionary that is put into another one;
* `Distinct.merge`, `distinct_ofPairs`, `ofPairs_of_distinct` — whatever is put together is a
  dictionary, and a dictionary is put together as it is.
-/

namespace Value

/-- Only a text itself is the same key as the text. -/
theorem sameKey_text_iff {k : Value} {s : String} : k.sameKey (.text s) = true ↔ k = .text s := by
  cases k <;> simp [sameKey]

/-- Any other value is another key. -/
theorem sameKey_text_eq_false_iff {k : Value} {s : String} :
    k.sameKey (.text s) = false ↔ k ≠ .text s := by
  rw [← Bool.not_eq_true, sameKey_text_iff]

/-- The same with the text on the left. -/
theorem text_sameKey_iff {k : Value} {s : String} :
    (Value.text s).sameKey k = true ↔ k = .text s := by
  cases k <;> simp [sameKey]
  exact eq_comm

end Value

namespace Entries

/-! ### What is under a text -/

/-- There is a value under a text if it is the key of an entry. -/
theorem contains_text_iff {entries : Entries} {s : String} :
    entries.contains (.text s) = true ↔ ∃ v, (Value.text s, v) ∈ entries := by
  simp only [contains, List.any_eq_true, Value.sameKey_text_iff]
  constructor
  · rintro ⟨⟨k, v⟩, he, rfl⟩
    exact ⟨v, he⟩
  · rintro ⟨v, he⟩
    exact ⟨_, he, rfl⟩

/-- What is found under a text is in an entry. -/
theorem mem_of_get?_text {entries : Entries} {s : String} {v : Value}
    (h : entries.get? (.text s) = some v) : (Value.text s, v) ∈ entries := by
  induction entries with
  | nil => cases h
  | cons e rest ih =>
    obtain ⟨k, w⟩ := e
    rw [get?] at h
    split at h
    · rename_i hk
      cases h
      rw [Value.sameKey_text_iff.mp hk]
      exact List.mem_cons_self
    · exact List.mem_cons_of_mem _ (ih h)

/-! ### Distinct keys -/

/-- No two entries are under one key. -/
def Distinct (entries : Entries) : Prop :=
  entries.keys.Pairwise fun k l => k.sameKey l = false

instance (entries : Entries) : Decidable entries.Distinct :=
  inferInstanceAs (Decidable (entries.keys.Pairwise fun k l => k.sameKey l = false))

/-- In a dictionary the value of an entry is the one found under its key. -/
theorem Distinct.get?_text_eq_some_iff {entries : Entries} (h : entries.Distinct) {s : String}
    {v : Value} : entries.get? (.text s) = some v ↔ (Value.text s, v) ∈ entries := by
  refine ⟨mem_of_get?_text, fun hmem => ?_⟩
  induction entries with
  | nil => cases hmem
  | cons e rest ih =>
    obtain ⟨k, w⟩ := e
    obtain ⟨hhead, htail⟩ := List.pairwise_cons.mp h
    rw [get?]
    rcases List.mem_cons.mp hmem with heq | hrest
    · cases heq
      rw [if_pos (Value.sameKey_text_iff.mpr rfl)]
    · have hk : k.sameKey (.text s) = false :=
        hhead _ (List.mem_map_of_mem (f := fun e => e.1) hrest)
      rw [hk]
      exact ih htail hrest

/-! ### Values put under keys -/

/-- A key that is there keeps its place, a new one goes last. -/
theorem keys_insert (key v : Value) (entries : Entries) :
    (insert key v entries).keys =
      if entries.contains key then entries.keys else entries.keys ++ [key] := by
  induction entries with
  | nil => rfl
  | cons e rest ih =>
    obtain ⟨k, w⟩ := e
    unfold insert
    cases hk : k.sameKey key with
    | true => simp [contains, keys, hk]
    | false =>
      rw [if_neg Bool.false_ne_true]
      have hcontains : contains key ((k, w) :: rest) = contains key rest := by
        simp [contains, hk]
      rw [hcontains]
      show k :: keys (insert key v rest) =
        if contains key rest then k :: keys rest else k :: keys rest ++ [key]
      rw [ih]
      split <;> rfl

/-- A value that is put under a text is found there and hides no other. -/
theorem get?_text_insert (name s : String) (v : Value) (entries : Entries) :
    (insert (.text name) v entries).get? (.text s) =
      if s = name then some v else entries.get? (.text s) := by
  induction entries with
  | nil =>
    by_cases hs : s = name
    · simp [insert, get?, Value.sameKey, hs]
    · simp [insert, get?, Value.sameKey, hs, Ne.symm hs]
  | cons e rest ih =>
    obtain ⟨k, w⟩ := e
    unfold insert
    by_cases hk : k = .text name
    · subst hk
      by_cases hs : s = name
      · simp [get?, Value.sameKey, hs]
      · simp [get?, Value.sameKey, hs, Ne.symm hs]
    · have hname := Value.sameKey_text_eq_false_iff.mpr hk
      rw [hname, if_neg Bool.false_ne_true, get?, ih, get?]
      by_cases hs : s = name
      · simp [hs, hname]
      · simp [hs]

/-- A key that is no text hides no text. -/
theorem get?_text_insert_of_ne {key : Value} {s : String} (hkey : key ≠ .text s) (v : Value)
    (entries : Entries) : (insert key v entries).get? (.text s) = entries.get? (.text s) := by
  induction entries with
  | nil => simp [insert, get?, Value.sameKey_text_iff, hkey]
  | cons e rest ih =>
    obtain ⟨k, w⟩ := e
    unfold insert
    split
    · rename_i hk
      have hks : k ≠ .text s := by
        rintro rfl
        exact hkey (Value.text_sameKey_iff.mp hk)
      simp [get?, Value.sameKey_text_iff, hks]
    · rw [get?, ih, get?]

/-- What holds of a key and its value and of all others holds of all when they are put in. -/
theorem forall_insert {P Q : Value → Prop} {key v : Value} {entries : Entries} (hkey : P key)
    (hv : Q v) (h : ∀ e ∈ entries, P e.1 ∧ Q e.2) :
    ∀ e ∈ insert key v entries, P e.1 ∧ Q e.2 := by
  induction entries with
  | nil => simpa [insert] using ⟨hkey, hv⟩
  | cons e rest ih =>
    obtain ⟨hhead, htail⟩ := List.forall_mem_cons.mp h
    unfold insert
    split
    · exact List.forall_mem_cons.mpr ⟨⟨hhead.1, hv⟩, htail⟩
    · exact List.forall_mem_cons.mpr ⟨hhead, ih htail⟩

/-- A dictionary stays one when a value is put under a key. -/
theorem Distinct.insert {entries : Entries} (h : entries.Distinct) (key v : Value) :
    (insert key v entries).Distinct := by
  unfold Distinct
  rw [keys_insert]
  split
  · exact h
  · rename_i hnew
    refine List.pairwise_append.mpr ⟨h, List.pairwise_singleton _ _, ?_⟩
    intro k hk l hl
    obtain ⟨e, he, rfl⟩ := List.mem_map.mp hk
    rw [List.mem_singleton.mp hl]
    have hall : ∀ e ∈ entries, e.1.sameKey key = false := by
      simpa [contains] using hnew
    exact hall e he

/-- So it does when another one is put into it. -/
theorem Distinct.merge {entries : Entries} (h : entries.Distinct) (more : Entries) :
    (merge entries more).Distinct := by
  unfold Entries.merge
  induction more generalizing entries with
  | nil => exact h
  | cons e rest ih => exact ih (h.insert e.1 e.2)

/-- A key is there if it is the same as one of the keys. -/
theorem contains_eq_any_keys (key : Value) (entries : Entries) :
    entries.contains key = entries.keys.any (·.sameKey key) := by
  unfold contains keys
  rw [List.any_map]
  rfl

/-- A dictionary that is put into another one adds its new keys at the end, in order. -/
theorem Distinct.keys_merge {more : Entries} (h : more.Distinct) (entries : Entries) :
    (Entries.merge entries more).keys =
      entries.keys ++ more.keys.filter fun k => !entries.contains k := by
  unfold Entries.merge
  induction more generalizing entries with
  | nil => exact (List.append_nil _).symm
  | cons e rest ih =>
    obtain ⟨hhead, htail⟩ := List.pairwise_cons.mp h
    rw [List.foldl_cons, ih htail, keys_insert]
    show _ = entries.keys ++ List.filter _ (e.1 :: keys rest)
    have hcontains := fun k => contains_eq_any_keys k (Entries.insert e.1 e.2 entries)
    cases hold : entries.contains e.1 with
    | true =>
      simp only [keys_insert, hold, if_true, ← contains_eq_any_keys] at hcontains
      simp [hcontains, hold]
    | false =>
      -- No other key of the dictionary is the same as the one that has been added.
      have hrest : ∀ k ∈ keys rest,
          (Entries.insert e.1 e.2 entries).contains k = entries.contains k := by
        intro k hk
        rw [hcontains, keys_insert, hold, if_neg Bool.false_ne_true, List.any_append,
          ← contains_eq_any_keys, List.any_cons, hhead k hk]
        simp
      rw [if_neg Bool.false_ne_true, List.filter_congr fun k hk => by rw [hrest k hk]]
      simp [hold]

/-- Under a text there is what the other dictionary has, else what was there. -/
theorem Distinct.get?_text_merge {more : Entries} (h : more.Distinct) (s : String)
    (entries : Entries) :
    (Entries.merge entries more).get? (.text s) =
      (more.get? (.text s)).or (entries.get? (.text s)) := by
  unfold Entries.merge
  induction more generalizing entries with
  | nil => rfl
  | cons e rest ih =>
    obtain ⟨key, v⟩ := e
    obtain ⟨hhead, htail⟩ := List.pairwise_cons.mp h
    rw [List.foldl_cons, ih htail, get?]
    by_cases hkey : key = .text s
    · subst hkey
      -- The key is not there again, so what is inserted for it stays.
      have hnone : get? (.text s) rest = none := by
        cases hget : get? (.text s) rest with
        | none => rfl
        | some w =>
          have hmem := List.mem_map_of_mem (f := fun e => e.1) (mem_of_get?_text hget)
          have hself := hhead _ hmem
          simp [Value.sameKey] at hself
      rw [hnone, get?_text_insert, if_pos rfl, if_pos (Value.sameKey_text_iff.mpr rfl)]
      rfl
    · rw [get?_text_insert_of_ne hkey, Value.sameKey_text_eq_false_iff.mpr hkey]
      rfl

/-- Pairs are made a dictionary. -/
theorem distinct_ofPairs (pairs : List (Value × Value)) : (ofPairs pairs).Distinct := by
  have hnone : Distinct [] := List.Pairwise.nil
  exact hnone.merge pairs

/-- What holds of all keys and values of pairs holds of those of their dictionary. -/
theorem forall_ofPairs {P Q : Value → Prop} {pairs : List (Value × Value)}
    (h : ∀ e ∈ pairs, P e.1 ∧ Q e.2) : ∀ e ∈ ofPairs pairs, P e.1 ∧ Q e.2 := by
  have hmerge : ∀ entries : Entries, (∀ e ∈ entries, P e.1 ∧ Q e.2) →
      ∀ e ∈ merge entries pairs, P e.1 ∧ Q e.2 := by
    unfold merge
    induction pairs with
    | nil => exact fun _ hentries => hentries
    | cons e rest ih =>
      obtain ⟨hhead, htail⟩ := List.forall_mem_cons.mp h
      exact fun entries hentries => ih htail _ (forall_insert hhead.1 hhead.2 hentries)
  exact hmerge [] (by simp)

/-- A value under a new key goes last. -/
theorem insert_of_not_contains {key : Value} {entries : Entries}
    (h : entries.contains key = false) (v : Value) :
    insert key v entries = entries ++ [(key, v)] := by
  induction entries with
  | nil => rfl
  | cons e rest ih =>
    simp only [contains, List.any_cons, Bool.or_eq_false_iff] at h
    unfold insert
    rw [h.1, if_neg Bool.false_ne_true, ih h.2]
    rfl

/-- The pairs of a dictionary are that dictionary. -/
theorem ofPairs_of_distinct {pairs : Entries} (h : pairs.Distinct) : ofPairs pairs = pairs := by
  -- Pairs go last one by one, as long as they and those put before are a dictionary together.
  have hmerge : ∀ entries : Entries, Distinct (entries ++ pairs) →
      merge entries pairs = entries ++ pairs := by
    clear h
    unfold merge
    induction pairs with
    | nil => simp
    | cons e rest ih =>
      intro entries hall
      have hnew : entries.contains e.1 = false := by
        unfold Distinct keys at hall
        rw [List.map_append] at hall
        have hbefore := (List.pairwise_append.mp hall).2.2
        simp only [contains, List.any_eq_false, Bool.not_eq_true]
        exact fun f hf => hbefore f.1 (List.mem_map_of_mem hf) e.1 (by simp)
      rw [List.foldl_cons, insert_of_not_contains hnew, ih _ (by simpa using hall)]
      simp
  exact hmerge [] h

end Entries

end Phrasebook
