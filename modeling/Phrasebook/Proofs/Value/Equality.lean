import Phrasebook.Value.Basic

namespace Phrasebook.Value

/-!
# Equality of values

Whether two values are equal can be computed, so that what is read from a text can be compared with
what it should be.  `Value.sameKey` is no help there: it takes numbers of different kinds for the
same, and no dictionary for any.

* `Value.equal` — the comparison, down to the values in lists and dictionaries;
* `Value.equal_iff` — it finds out equality, which is decidable therefore.
-/

mutual

/-- Whether two values are equal. -/
def equal : Value → Value → Bool
  | .null, .null => true
  | .bool a, .bool b => a == b
  | .int a, .int b => a == b
  | .float a, .float b => a == b
  | .text a, .text b => a == b
  | .bytes a, .bytes b => a == b
  | .date a, .date b => a == b
  | .moment a, .moment b => a == b
  | .list a, .list b => equalItems a b
  | .tuple a, .tuple b => equalItems a b
  | .set a, .set b => equalItems a b
  | .map a, .map b => equalEntries a b
  | .literal a, .literal b => a == b
  | .literalMap a, .literalMap b => equalEntries a b
  | .expression a, .expression b => a == b
  | .enclosing m a, .enclosing n b => m == n && a == b
  | _, _ => false
termination_by structural a => a

/-- Whether two lists of values are equal. -/
def equalItems : List Value → List Value → Bool
  | [], [] => true
  | a :: as, b :: bs => equal a b && equalItems as bs
  | _, _ => false
termination_by structural as => as

/-- Whether two lists of entries are equal. -/
def equalEntries : List (Value × Value) → List (Value × Value) → Bool
  | [], [] => true
  | (k, v) :: as, (l, w) :: bs => equal k l && equal v w && equalEntries as bs
  | _, _ => false
termination_by structural as => as

end

mutual

/-- A value is equal to itself. -/
theorem equal_self : (a : Value) → a.equal a = true
  | .null => rfl
  | .bool _ | .int _ | .float _ | .text _ | .bytes _ | .date _ | .moment _ | .literal _
  | .expression _ => beq_self_eq_true _
  | .list a | .tuple a | .set a => equalItems_self a
  | .map a | .literalMap a => equalEntries_self a
  | .enclosing n isMap =>
    Bool.and_eq_true_iff.mpr ⟨beq_self_eq_true n, beq_self_eq_true isMap⟩
termination_by structural a => a

/-- So is a list of values. -/
theorem equalItems_self : (as : List Value) → equalItems as as = true
  | [] => rfl
  | a :: as => Bool.and_eq_true_iff.mpr ⟨equal_self a, equalItems_self as⟩
termination_by structural as => as

/-- So is a list of entries. -/
theorem equalEntries_self : (as : List (Value × Value)) → equalEntries as as = true
  | [] => rfl
  | (k, v) :: as =>
    Bool.and_eq_true_iff.mpr
      ⟨Bool.and_eq_true_iff.mpr ⟨equal_self k, equal_self v⟩, equalEntries_self as⟩
termination_by structural as => as

end

mutual

/-- What compares as equal is equal. -/
theorem eq_of_equal : (a b : Value) → a.equal b = true → a = b
  -- Values of different kinds do not compare as equal.
  | .null, b, h => by
    cases b <;> first | rfl | cases h
  | .bool _, b, h | .int _, b, h | .float _, b, h | .text _, b, h | .bytes _, b, h | .date _, b, h
  | .moment _, b, h | .literal _, b, h | .expression _, b, h => by
    cases b <;> first | cases h | exact congrArg _ (eq_of_beq h)
  | .list a, b, h | .tuple a, b, h | .set a, b, h => by
    cases b <;> first | cases h | exact congrArg _ (eq_of_equalItems a _ h)
  | .map a, b, h | .literalMap a, b, h => by
    cases b <;> first | cases h | exact congrArg _ (eq_of_equalEntries a _ h)
  | .enclosing n isMap, b, h => by
    cases b <;> try cases h
    obtain ⟨hlevels, hkind⟩ := Bool.and_eq_true_iff.mp h
    rw [eq_of_beq hlevels, eq_of_beq hkind]
termination_by structural a => a

/-- The same of lists. -/
theorem eq_of_equalItems : (as bs : List Value) → equalItems as bs = true → as = bs
  | [], [], _ => rfl
  | a :: as, b :: bs, h => by
    obtain ⟨hhead, htail⟩ := Bool.and_eq_true_iff.mp h
    rw [eq_of_equal a b hhead, eq_of_equalItems as bs htail]
termination_by structural as => as

/-- The same of entries. -/
theorem eq_of_equalEntries :
    (as bs : List (Value × Value)) → equalEntries as bs = true → as = bs
  | [], [], _ => rfl
  | (k, v) :: as, (l, w) :: bs, h => by
    obtain ⟨hhead, htail⟩ := Bool.and_eq_true_iff.mp h
    obtain ⟨hk, hv⟩ := Bool.and_eq_true_iff.mp hhead
    rw [eq_of_equal k l hk, eq_of_equal v w hv, eq_of_equalEntries as bs htail]
termination_by structural as => as

end

/-- The comparison finds out equality. -/
theorem equal_iff {a b : Value} : a.equal b = true ↔ a = b := by
  constructor
  · exact eq_of_equal a b
  · rintro rfl
    exact equal_self a

instance : DecidableEq Value := fun _ _ => decidable_of_iff _ equal_iff

end Phrasebook.Value
