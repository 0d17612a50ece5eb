import Phrasebook.Proofs.Call.Construction

namespace Phrasebook

/-!
# Object literals and dictionaries

Marking the entries of a dictionary and removing the marks are inverse to each other, at every depth
and with every entry in its place:

* `Value.isPlain`, `Value.isMarked` — the values that have no mark in their dictionaries, and those
  that have every mark in their object literals;
* `Value.isSound` — values in which both may occur, as long as the object literals are marked;
* `unmark_mark`, `mark_unmark` — the two directions;
* `areMarked_iff` — object literals are marked exactly if they are built from sound entries;
* `Argument.classify_lossless` — both directions together, and the bag of a call, which is the
  dictionary that its last argument was classified from.
-/

namespace Value

/-! ### Plain and marked values -/

mutual

/-- Whether a value has no mark, neither itself nor in its dictionaries, none of which contains
    itself.  An unsupported expression is one without a mark, and so is any list. -/
def isPlain : Value → Bool
  | .literal _ | .literalMap _ | .enclosing _ _ => false
  | .map entries => arePlain entries
  | _ => true
termination_by structural v => v

/-- Whether the values of some entries have no mark. -/
def arePlain : List (Value × Value) → Bool
  | [] => true
  | (_, v) :: rest => isPlain v && arePlain rest
termination_by structural v => v

end

mutual

/-- Whether a value has its mark, if it is a text or a dictionary, and so has what is in it. -/
def isMarked : Value → Bool
  | .text _ | .map _ | .enclosing _ _ => false
  | .literalMap entries => areMarked entries
  | _ => true
termination_by structural v => v

/-- Whether the values of some entries have their marks. -/
def areMarked : List (Value × Value) → Bool
  | [] => true
  | (_, v) :: rest => isMarked v && areMarked rest
termination_by structural v => v

end

mutual

/-- Whether the object literals in a value and its dictionaries are marked. -/
def isSound : Value → Bool
  | .literalMap entries => areMarked entries
  | .map entries => areSound entries
  | .enclosing _ _ => false
  | _ => true
termination_by structural v => v

/-- Whether those in the values of some entries are. -/
def areSound : List (Value × Value) → Bool
  | [] => true
  | (_, v) :: rest => isSound v && areSound rest
termination_by structural v => v

end

/-! ### Marking and removing marks -/

mutual

/-- A plain value that has been marked is found under its mark. -/
theorem unmark_mark : (v : Value) → v.isPlain = true → v.mark.unmark = v
  | .text _, _ => rfl
  | .map entries, h => congrArg Value.map (unmarkEntries_markEntries entries h)
  | .null, _ | .bool _, _ | .int _, _ | .float _, _ | .bytes _, _ | .date _, _ | .moment _, _
  | .list _, _ | .tuple _, _ | .set _, _ | .expression _, _ => rfl
termination_by structural v => v

/-- So are the values of entries. -/
theorem unmarkEntries_markEntries :
    (entries : Entries) → arePlain entries = true → unmarkEntries (markEntries entries) = entries
  | [], _ => rfl
  | (k, v) :: rest, h => by
    obtain ⟨hv, hrest⟩ := Bool.and_eq_true_iff.mp h
    rw [markEntries, unmarkEntries, unmark_mark v hv, unmarkEntries_markEntries rest hrest]
termination_by structural entries => entries

end

mutual

/-- A marked value whose marks have been removed is marked as it was. -/
theorem mark_unmark : (v : Value) → v.isMarked = true → v.unmark.mark = v
  | .literal _, _ => rfl
  | .literalMap entries, h => congrArg Value.literalMap (markEntries_unmarkEntries entries h)
  | .null, _ | .bool _, _ | .int _, _ | .float _, _ | .bytes _, _ | .date _, _ | .moment _, _
  | .list _, _ | .tuple _, _ | .set _, _ | .expression _, _ => rfl
termination_by structural v => v

/-- So are the values of entries. -/
theorem markEntries_unmarkEntries :
    (entries : Entries) → areMarked entries = true → markEntries (unmarkEntries entries) = entries
  | [], _ => rfl
  | (k, v) :: rest, h => by
    obtain ⟨hv, hrest⟩ := Bool.and_eq_true_iff.mp h
    rw [unmarkEntries, markEntries, mark_unmark v hv, markEntries_unmarkEntries rest hrest]
termination_by structural entries => entries

end

mutual

/-- A sound value is marked by marking it. -/
theorem isMarked_mark : (v : Value) → v.isSound = true → v.mark.isMarked = true
  | .literalMap _, h => h
  | .map entries, h => areMarked_markEntries entries h
  | .text _, _ | .null, _ | .bool _, _ | .int _, _ | .float _, _ | .bytes _, _ | .date _, _
  | .moment _, _ | .list _, _ | .tuple _, _ | .set _, _ | .literal _, _ | .expression _, _ => rfl
termination_by structural v => v

/-- So are the values of entries. -/
theorem areMarked_markEntries :
    (entries : Entries) → areSound entries = true → areMarked (markEntries entries) = true
  | [], _ => rfl
  | (_, v) :: rest, h => by
    obtain ⟨hv, hrest⟩ := Bool.and_eq_true_iff.mp h
    exact Bool.and_eq_true_iff.mpr ⟨isMarked_mark v hv, areMarked_markEntries rest hrest⟩
termination_by structural entries => entries

end

mutual

/-- A marked value is plain when its marks have been removed. -/
theorem isPlain_unmark : (v : Value) → v.isMarked = true → v.unmark.isPlain = true
  | .literalMap entries, h => arePlain_unmarkEntries entries h
  | .literal _, _ | .null, _ | .bool _, _ | .int _, _ | .float _, _ | .bytes _, _ | .date _, _
  | .moment _, _ | .list _, _ | .tuple _, _ | .set _, _ | .expression _, _ => rfl
termination_by structural v => v

/-- So are the values of entries. -/
theorem arePlain_unmarkEntries :
    (entries : Entries) → areMarked entries = true → arePlain (unmarkEntries entries) = true
  | [], _ => rfl
  | (_, v) :: rest, h => by
    obtain ⟨hv, hrest⟩ := Bool.and_eq_true_iff.mp h
    exact Bool.and_eq_true_iff.mpr ⟨isPlain_unmark v hv, arePlain_unmarkEntries rest hrest⟩
termination_by structural entries => entries

end

mutual

/-- Plain values are sound: there is no object literal in them. -/
theorem isSound_of_isPlain : (v : Value) → v.isPlain = true → v.isSound = true
  | .map entries, h => areSound_of_arePlain entries h
  | .text _, _ | .null, _ | .bool _, _ | .int _, _ | .float _, _ | .bytes _, _ | .date _, _
  | .moment _, _ | .list _, _ | .tuple _, _ | .set _, _ | .expression _, _ => rfl
termination_by structural v => v

/-- So are the values of entries. -/
theorem areSound_of_arePlain :
    (entries : Entries) → arePlain entries = true → areSound entries = true
  | [], _ => rfl
  | (_, v) :: rest, h => by
    obtain ⟨hv, hrest⟩ := Bool.and_eq_true_iff.mp h
    exact Bool.and_eq_true_iff.mpr ⟨isSound_of_isPlain v hv, areSound_of_arePlain rest hrest⟩
termination_by structural entries => entries

end

/-- A marked value is sound, and marking it again changes nothing. -/
theorem isSound_and_mark_of_isMarked {v : Value} (h : v.isMarked = true) :
    v.isSound = true ∧ v.mark = v := by
  cases v with
  | text s => cases h
  | map entries => cases h
  | enclosing levels isMap => cases h
  | literalMap entries => exact ⟨h, rfl⟩
  | _ => exact ⟨rfl, rfl⟩

/-- The same of entries. -/
theorem areSound_and_markEntries_of_areMarked {entries : Entries}
    (h : areMarked entries = true) : areSound entries = true ∧ markEntries entries = entries := by
  induction entries with
  | nil => exact ⟨rfl, rfl⟩
  | cons e rest ih =>
    obtain ⟨k, v⟩ := e
    obtain ⟨hv, hrest⟩ := Bool.and_eq_true_iff.mp h
    obtain ⟨hsound, hmark⟩ := isSound_and_mark_of_isMarked hv
    obtain ⟨hsounds, hmarks⟩ := ih hrest
    exact ⟨Bool.and_eq_true_iff.mpr ⟨hsound, hsounds⟩, by rw [markEntries, hmark, hmarks]⟩

/-- Object literals are marked exactly if they are built from sound entries. -/
theorem areMarked_iff {m : Entries} :
    areMarked m = true ↔ ∃ entries, areSound entries = true ∧ markEntries entries = m := by
  constructor
  · exact fun h => ⟨m, areSound_and_markEntries_of_areMarked h⟩
  · rintro ⟨entries, hsound, rfl⟩
    exact areMarked_markEntries entries hsound

/-- Marking leaves the names of the entries as they are. -/
theorem keys_markEntries (entries : Entries) :
    Entries.keys (markEntries entries) = Entries.keys entries := by
  induction entries with
  | nil => rfl
  | cons e rest ih => exact congrArg (e.1 :: ·) ih

end Value

/-! ### Bags of calls -/

namespace Signature

/-- Whether an object literal names a variant depends on the names of its entries alone. -/
theorem namesVariant_iff_keys {variants : List String} {entries : Entries} :
    NamesVariant variants entries ↔ ∃ name ∈ variants, Value.text name ∈ entries.keys := by
  simp only [NamesVariant, Entries.keys, List.mem_map, Prod.exists, exists_and_right,
    exists_eq_right]

/-- A last argument that is an object literal without variants is read as the bag. -/
theorem options_of_resolve {variants : List String} {o : Entries} (ho : ¬ NamesVariant variants o)
    {line : Option Int} {before : List Argument} {sig : Signature}
    (h : resolve variants line (before ++ [.map o]) = .ok sig) : sig.options = some o := by
  unfold resolve at h
  rw [splitOptions_bag ho] at h
  -- Whatever the other arguments are read as, the bag that has been split off is kept.
  repeat' split at h
  all_goals cases h
  rename_i hsplit _ _ _ _ _ _
  cases hsplit
  rfl

end Signature

namespace Argument

open Value

/-- **Nothing is lost between dictionaries and object literals.**  A plain dictionary is classified
    as a marked object literal, whose dictionary it is; a marked object literal is the one that its
    dictionary makes, and the one that its own entries make, and its dictionary is plain.  The marked
    object literals are exactly those that are built from entries in which object literals are marked
    themselves.  And if the last argument of a call is classified from a plain dictionary that names
    no variant, the bag of the call is that dictionary. -/
theorem classify_lossless :
    (∀ d : Entries, arePlain d = true →
      ∃ m, areMarked m = true ∧ classify (.map d) = .map m ∧ toDict m = d) ∧
    (∀ m : Entries, areMarked m = true →
      arePlain (toDict m) = true ∧ ofEntries (toDict m) = .map m ∧ ofEntries m = .map m) ∧
    (∀ m : Entries, areMarked m = true ↔
      ∃ entries, areSound entries = true ∧ ofEntries entries = .map m) ∧
    ∀ (values : OptionValues) (method : String) (line : Option Int) (before : List Argument)
      (d : Entries) (c : Call), arePlain d = true →
        (∀ name ∈ values.pluralizationKeys, ∀ v, (Value.text name, v) ∉ d) →
        Call.ofArguments values method line (before ++ [classify (.map d)]) = .ok c →
          c.options = d := by
  refine ⟨fun d hd => ?_, fun m hm => ?_, fun m => ?_, ?_⟩
  · exact ⟨markEntries d, areMarked_markEntries d (areSound_of_arePlain d hd), rfl,
      unmarkEntries_markEntries d hd⟩
  · exact ⟨arePlain_unmarkEntries m hm,
      congrArg Argument.map (markEntries_unmarkEntries m hm),
      congrArg Argument.map (areSound_and_markEntries_of_areMarked hm).2⟩
  · simp only [ofEntries, Argument.map.injEq]
    exact areMarked_iff
  · intro values method line before d c hd hnames hcall
    obtain ⟨sig, default, hresolve, _, rfl⟩ := Call.ofArguments_eq_ok_iff.mp hcall
    -- Marks are on values, so the object literal names no variant either and is taken for the bag.
    have hplain : ¬ Signature.NamesVariant values.pluralizationKeys (markEntries d) := by
      rw [Signature.namesVariant_iff_keys, keys_markEntries, ← Signature.namesVariant_iff_keys]
      rintro ⟨name, hname, v, hv⟩
      exact hnames name hname v hv
    show toDict (sig.options.getD []) = d
    rw [Signature.options_of_resolve hplain hresolve]
    exact unmarkEntries_markEntries d hd

/-- A dictionary with dictionaries, a list and an unsupported expression in it. -/
def userEntries : Entries :=
  [(.text "user", .map [(.text "name", .text "Ann"), (.text "tags", .list [.text "a", .map []]),
      (.text "address", .map [(.text "zip", .null)])]),
    (.text "count", .int 1), (.text "price", .expression "total()")]

/-- It is the dictionary of the object literal that it is classified as. -/
theorem classify_lossless_userEntries :
    arePlain userEntries = true ∧
      ∃ m, classify (.map userEntries) = .map m ∧ toDict m = userEntries ∧
        ofEntries (toDict m) = .map m := by
  have hplain : arePlain userEntries = true := by decide
  obtain ⟨m, hm, hclassify, hdict⟩ := classify_lossless.1 userEntries hplain
  exact ⟨hplain, m, hclassify, hdict, (classify_lossless.2.1 m hm).2.1⟩

end Argument

end Phrasebook
