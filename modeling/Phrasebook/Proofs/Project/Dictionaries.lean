import Phrasebook.Project.Load
import Phrasebook.Proofs.Value.Dictionary

namespace Phrasebook

/-!
# Dictionaries in files

However a file repeats its keys, what is read from it are dictionaries:

* `Value.Tidy` — no dictionary in a value, at any depth, has two entries under one key;
* `Json.tidy_of_read` — a value that is read from JSON is tidy;
* `Yaml.distinct_of_read` — a dictionary that is read from YAML is one;
* `Project.distinct_of_section`, `Project.distinct_of_rc` — so are the section of `package.json` and
  what `.i18nrc` holds.
-/

/-! ### Outcomes -/

section Outcomes

variable {ε δ α β : Type} {x : Except ε α}

/-- An outcome with another account of errors succeeds as the outcome does. -/
theorem mapError_eq_ok_iff {f : ε → δ} {a : α} : x.mapError f = .ok a ↔ x = .ok a := by
  constructor
  · intro h
    cases x <;> cases h
    rfl
  · rintro rfl
    rfl

/-- A function of an outcome succeeds as the outcome does. -/
theorem map_eq_ok_iff {f : α → β} {b : β} : x.map f = .ok b ↔ ∃ a, x = .ok a ∧ f a = b := by
  cases x <;> simp [Except.map]

/-- A step after an outcome succeeds on what the outcome gives. -/
theorem bind_eq_ok_iff {f : α → Except ε β} {b : β} :
    (x >>= f) = .ok b ↔ ∃ a, x = .ok a ∧ f a = .ok b := by
  cases x <;> simp [bind, Except.bind]

end Outcomes

/-! ### Tidy values -/

/-- Whether a value has no parts and is no mark for a value that it stands in. -/
def Value.isSimple : Value → Bool
  | .list _ | .tuple _ | .set _ | .map _ | .literalMap _ | .enclosing _ _ => false
  | _ => true

/-- Whether every dictionary in a value, in lists and dictionaries at any depth, has its keys once. -/
inductive Value.Tidy : Value → Prop where
  | map {entries : Entries} (hdistinct : entries.Distinct) (hvalues : ∀ e ∈ entries, Tidy e.2) :
      Tidy (.map entries)
  | list {items : List Value} (hitems : ∀ v ∈ items, Tidy v) : Tidy (.list items)
  | other {v : Value} (hmap : ∀ entries, v ≠ .map entries) (hlist : ∀ items, v ≠ .list items) :
      Tidy v

/-- A value under a text in a tidy dictionary is tidy. -/
theorem Value.Tidy.get? {entries : Entries} (h : Value.Tidy (.map entries)) {s : String} {v : Value}
    (hv : entries.get? (.text s) = some v) : v.Tidy := by
  cases h with
  | map _ hvalues => exact hvalues _ (Entries.mem_of_get?_text hv)
  | other hmap => exact absurd rfl (hmap entries)

/-- A tidy dictionary has its keys once. -/
theorem Value.Tidy.distinct {entries : Entries} (h : Value.Tidy (.map entries)) :
    entries.Distinct := by
  cases h with
  | map hdistinct => exact hdistinct
  | other hmap => exact absurd rfl (hmap entries)

/-! ### JSON -/

namespace Json

/-- A number is tidy. -/
theorem tidy_of_readNumber {position : Nat} {text : List Char} {p : Parsed Value}
    (h : readNumber position text = .ok p) : p.value.Tidy := by
  unfold readNumber at h
  dsimp only at h
  repeat' split at h
  all_goals cases h
  all_goals exact .other (by simp) (by simp)

/-- The words that stand for values stand for tidy ones. -/
theorem tidy_of_mem_words : ∀ w ∈ words, w.2.Tidy := by
  simp only [words, List.forall_mem_cons]
  refine ⟨?_, ?_, ?_, ?_, ?_, ?_, by simp⟩
  all_goals exact .other (by simp) (by simp)

/-- Pairs of a text and a tidy value make a tidy dictionary. -/
theorem tidy_ofPairs {pairs : List (Value × Value)} (h : ∀ e ∈ pairs, e.2.Tidy) :
    Value.Tidy (.map (Entries.ofPairs pairs)) :=
  .map (Entries.distinct_ofPairs pairs) fun e he =>
    (Entries.forall_ofPairs (P := fun _ => True) (fun f hf => ⟨trivial, h f hf⟩) e he).2

/-- One more entry is no worse than its value. -/
theorem tidy_cons {key v : Value} {done : List (Value × Value)} (hv : v.Tidy)
    (hdone : ∀ e ∈ done, e.2.Tidy) : ∀ e ∈ (key, v) :: done, e.2.Tidy :=
  List.forall_mem_cons.mpr ⟨hv, hdone⟩

/-- Whatever a budget is enough to read is tidy, if the entries or items read before are. -/
structure ReadsTidy (fuel : Nat) : Prop where
  value : ∀ {position text p}, readValue fuel position text = .ok p → p.value.Tidy
  entries : ∀ {position text done p}, (∀ e ∈ done, e.2.Tidy) →
    readEntries fuel position text done = .ok p → p.value.Tidy
  items : ∀ {position text done p}, (∀ v ∈ done, v.Tidy) →
    readItems fuel position text done = .ok p → p.value.Tidy

/-- A value is tidy if its entries or items are. -/
theorem ReadsTidy.value_succ {fuel : Nat} (h : ReadsTidy fuel) {position : Nat}
    {text : List Char} {p : Parsed Value} (success : readValue (fuel + 1) position text = .ok p) :
    p.value.Tidy := by
  rw [readValue.eq_def] at success
  dsimp only at success
  repeat' split at success
  any_goals cases success
  · exact .other (by simp [Value.ofChars]) (by simp [Value.ofChars])
  · exact tidy_ofPairs (List.forall_mem_nil _)
  · exact h.entries (by simp) success
  · exact .list (by simp)
  · exact h.items (by simp) success
  · rename_i hword
    exact tidy_of_mem_words _ (List.mem_of_find?_eq_some hword)
  · exact tidy_of_readNumber success

/-- Entries are a tidy dictionary if their values are tidy. -/
theorem ReadsTidy.entries_succ {fuel : Nat} (h : ReadsTidy fuel) {position : Nat}
    {text : List Char} {done : List (Value × Value)} {p : Parsed Value}
    (hdone : ∀ e ∈ done, e.2.Tidy)
    (success : readEntries (fuel + 1) position text done = .ok p) : p.value.Tidy := by
  rw [readEntries.eq_def] at success
  dsimp only at success
  repeat' split at success
  any_goals cases success
  · rename_i hvalue _ _ _
    exact tidy_ofPairs fun e he => tidy_cons (h.value hvalue) hdone e (List.mem_reverse.mp he)
  · rename_i hvalue _ _ _
    exact h.entries (tidy_cons (h.value hvalue) hdone) success

/-- Items are a tidy list if they are tidy. -/
theorem ReadsTidy.items_succ {fuel : Nat} (h : ReadsTidy fuel) {position : Nat}
    {text : List Char} {done : List Value} {p : Parsed Value} (hdone : ∀ v ∈ done, v.Tidy)
    (success : readItems (fuel + 1) position text done = .ok p) : p.value.Tidy := by
  rw [readItems.eq_def] at success
  dsimp only at success
  repeat' split at success
  any_goals cases success
  · rename_i hvalue _ _ _
    refine .list fun v hv => ?_
    exact List.forall_mem_cons.mpr ⟨h.value hvalue, hdone⟩ v (List.mem_reverse.mp hv)
  · rename_i hvalue _ _ _
    exact h.items (List.forall_mem_cons.mpr ⟨h.value hvalue, hdone⟩) success

/-- Every budget reads tidy values. -/
theorem readsTidy (fuel : Nat) : ReadsTidy fuel := by
  induction fuel with
  | zero =>
    -- Nothing is read without a budget.
    refine ⟨?_, ?_, ?_⟩
    · intro position text p success
      cases success
    · intro position text done p _ success
      cases success
    · intro position text done p _ success
      cases success
  | succ fuel ih => exact ⟨ih.value_succ, ih.entries_succ, ih.items_succ⟩

/-- A value that is read from JSON is tidy. -/
theorem tidy_of_read {text : List Char} {v : Value} (success : read text = .ok v) : v.Tidy := by
  unfold read at success
  dsimp only at success
  repeat' split at success
  any_goals cases success
  rename_i hvalue _
  exact (readsTidy _).value hvalue

end Json

/-! ### YAML -/

namespace Yaml

/-- A text under a tag for scalars is a value without parts. -/
theorem isSimple_of_scalarValue {tag : Tag} {text : List Char} {v : Value}
    (h : scalarValue tag text = .ok v) : v.isSimple = true := by
  unfold scalarValue at h
  split at h
  case h_2 =>
    split at h <;> cases h
    rfl
  case h_3 =>
    obtain ⟨_, _, rfl⟩ := map_eq_ok_iff.mp h
    rfl
  case h_4 =>
    obtain ⟨_, _, rfl⟩ := map_eq_ok_iff.mp h
    rfl
  case h_5 =>
    unfold readBinary at h
    split at h
    · cases h
    · split at h <;> cases h
      rfl
  case h_6 =>
    unfold readStamp at h
    split at h
    · cases h
    · split at h
      all_goals
        obtain ⟨_, _, rfl⟩ := map_eq_ok_iff.mp h
        rfl
  all_goals cases h
  all_goals rfl

/-- So is a scalar. -/
theorem isSimple_of_scalarOf {d : Document} {n : Node} {v : Value} (h : scalarOf d n = .ok v) :
    v.isSimple = true := by
  unfold scalarOf at h
  repeat' split at h
  any_goals cases h
  exact isSimple_of_scalarValue h

/-- What is made of pairs of nodes has its keys once. -/
theorem distinct_of_entriesOf {d : Document} {build : Node → Built Value} {n : Node}
    {pairs : Pairs} {entries : Entries} (success : entriesOf d build n pairs = .ok entries) :
    entries.Distinct := by
  unfold entriesOf at success
  obtain ⟨_, _, success⟩ := bind_eq_ok_iff.mp success
  obtain ⟨built, _, success⟩ := bind_eq_ok_iff.mp success
  cases success
  exact Entries.distinct_ofPairs built

/-- An outcome is none of the faults that are found at once. -/
theorem eq_ok_of_ofFault {α : Type} {x : Except Fault α} {a : α} (h : Built.ofFault x = .ok a) :
    x = .ok a := by
  cases x <;> cases h
  rfl

/-- A dictionary that is made of a node has its keys once. -/
theorem distinct_of_valueOf {d : Document} {fuel : Nat} {around : List Node} {n : Node}
    {entries : Entries} (success : valueOf d fuel around n = .ok (.map entries)) :
    entries.Distinct := by
  cases fuel with
  | zero => cases success
  | succ fuel =>
    rw [valueOf.eq_def] at success
    dsimp only at success
    split at success
    any_goals cases success
    -- A sequence, a list of pairs, a mapping, a set and whatever else there is.
    case h_4 =>
      obtain ⟨_, _, hlist⟩ := bind_eq_ok_iff.mp (mapError_eq_ok_iff.mp success)
      cases hlist
    case h_5 =>
      obtain ⟨_, _, hlist⟩ := bind_eq_ok_iff.mp (mapError_eq_ok_iff.mp success)
      cases hlist
    case h_6 =>
      obtain ⟨made, hmade, hmap⟩ := bind_eq_ok_iff.mp (mapError_eq_ok_iff.mp success)
      cases hmap
      exact distinct_of_entriesOf hmade
    case h_7 =>
      obtain ⟨_, _, hset⟩ := bind_eq_ok_iff.mp (mapError_eq_ok_iff.mp success)
      cases hset
    case h_8 =>
      split at success
      · cases success
      · cases isSimple_of_scalarOf (eq_ok_of_ofFault success)

/-- A dictionary that is read from YAML has its keys once. -/
theorem distinct_of_read {text : List Char} {entries : Entries}
    (success : read text = .ok (.map entries)) : entries.Distinct := by
  unfold read at success
  repeat' split at success
  any_goals cases success
  exact distinct_of_valueOf (mapError_eq_ok_iff.mp success)

end Yaml

namespace Project

/-- Only a dictionary has entries. -/
theorem eq_map_of_entries? {v : Value} {entries : Entries} (h : entries? v = some entries) :
    v = .map entries := by
  cases v <;> cases h
  rfl

/-- The section of `package.json` has its keys once. -/
theorem distinct_of_section {content : FileContent} {v : Value} {entries : Entries}
    (hread : ConfigFile.package.read content = .ok v) (hsection : section? v = some entries) :
    entries.Distinct := by
  cases content with
  | directory => cases hread
  | octets list =>
    obtain ⟨text, _, hjson⟩ := bind_eq_ok_iff.mp hread
    have htidy := Json.tidy_of_read (mapError_eq_ok_iff.mp hjson)
    obtain ⟨whole, hwhole, hsection⟩ := Option.bind_eq_some_iff.mp hsection
    obtain ⟨part, hpart, hsection⟩ := Option.bind_eq_some_iff.mp hsection
    rw [eq_map_of_entries? hwhole] at htidy
    have htidy := htidy.get? hpart
    rw [eq_map_of_entries? hsection] at htidy
    exact htidy.distinct

/-- A value of `.i18nrc` is that of a text. -/
theorem exists_read_of_rc {content : FileContent} {v : Value}
    (hread : ConfigFile.rc.read content = .ok v) : ∃ text, Yaml.read text = .ok v := by
  cases content with
  | directory => cases hread
  | octets list =>
    change readYaml list = _ at hread
    unfold readYaml at hread
    dsimp only at hread
    split at hread
    · exact ⟨_, mapError_eq_ok_iff.mp hread⟩
    · split at hread <;> cases hread

/-- What `.i18nrc` holds has its keys once. -/
theorem distinct_of_rc {content : FileContent} {entries : Entries}
    (hread : ConfigFile.rc.read content = .ok (.map entries)) : entries.Distinct := by
  obtain ⟨_, htext⟩ := exists_read_of_rc hread
  exact Yaml.distinct_of_read htext

end Project

end Phrasebook
