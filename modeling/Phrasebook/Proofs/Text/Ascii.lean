import Phrasebook.Proofs.Text.Case

namespace Phrasebook.Text

/-!
# Letter case within ASCII

Some characters beyond ASCII have ASCII letters for their lower or upper case, such as the Kelvin sign
and the long s.  Most ASCII characters come from ASCII alone:

* `isSteady` — ASCII characters that no character beyond ASCII is lowered or raised to;
* `of_mem_lowerChar`, `of_mem_upperChar` — what they are lowered or raised from;
* `mem_of_mem_lower`, `mem_of_mem_upper` — so a steady character that is no letter comes from itself;
* `exists_getLast?_of_lower` — the last character of a lower-case text comes from the last one;
* `lower_of_ascii`, `upper_of_ascii` — a text in ASCII is lowered and raised letter by letter.
-/

/-- An ASCII character that no character beyond ASCII is lowered or raised to. -/
def isSteady (d : Char) : Bool :=
  let beside (run : Nat × Nat × Nat × Nat) : Bool :=
    d.toNat.blt run.2.2.2 || (run.2.2.2 + (run.2.1 - run.1)).blt d.toNat
  Nat.blt 0 d.toNat && d.toNat.blt 128 && d != 'i' && lowerRuns.all beside && upperRuns.all beside
    && upperExpansions.all fun e => e.2.all (· != d.toNat)

/-- Steady are a small y, the line feed and the closing brace, among others. -/
theorem isSteady_of_mem : ∀ d ∈ ['y', '\n', '\x7d'], isSteady d = true :=
  List.all_eq_true.mp (by decide +kernel)

/-! ### Where a steady character comes from -/

/-- The counterparts that a run of a table gives are within the run's targets. -/
theorem mem_of_counterpart? {runs : List (Nat × Nat × Nat × Nat)} {n m : Nat}
    (h : counterpart? runs n = some m) :
    ∃ run ∈ runs, run.2.2.2 ≤ m ∧ m ≤ run.2.2.2 + (run.2.1 - run.1) := by
  unfold counterpart? at h
  obtain ⟨⟨first, last, step, target⟩, hfind, hm⟩ := Option.map_eq_some_iff.mp h
  have hwithin := List.find?_some hfind
  simp only [Bool.and_eq_true, decide_eq_true_eq] at hwithin
  refine ⟨_, List.mem_of_find?_eq_some hfind, ?_, ?_⟩ <;> dsimp only at hm ⊢ <;> omega

/-- A character other than the null one is made from its own code only. -/
theorem eq_toNat_of_ofNat {d : Char} {m : Nat} (hpos : 0 < d.toNat) (h : d = Char.ofNat m) :
    m = d.toNat := by
  by_cases hm : m.isValidChar
  · have hcode : Char.ofNat m = Char.ofNatAux m hm := dif_pos hm
    rw [h, hcode]
    rfl
  · have hnull : Char.ofNat m = '\x00' := dif_neg hm
    rw [h, hnull] at hpos
    exact absurd hpos (by decide)

/-- A character beside all targets of a table is the counterpart of none but itself. -/
theorem eq_of_counterpart? {runs : List (Nat × Nat × Nat × Nat)} {c d : Char}
    (hpos : 0 < d.toNat) (hruns : ∀ run ∈ runs, d.toNat < run.2.2.2 ∨
      run.2.2.2 + (run.2.1 - run.1) < d.toNat)
    (h : d = ((counterpart? runs c.toNat).map Char.ofNat).getD c) : c = d := by
  cases hm : counterpart? runs c.toNat with
  | none =>
    rw [hm] at h
    exact h.symm
  | some m =>
    obtain ⟨run, hrun, hlow, hhigh⟩ := mem_of_counterpart? hm
    rw [hm] at h
    have hcode := eq_toNat_of_ofNat hpos h
    have hbeside := hruns run hrun
    omega

section Steady

variable {c d : Char} (hd : isSteady d = true)

include hd

/-- The parts of the definition. -/
theorem bounds_of_isSteady :
    0 < d.toNat ∧ d.toNat < 128 ∧ d ≠ 'i' ∧
      (∀ run ∈ lowerRuns, d.toNat < run.2.2.2 ∨ run.2.2.2 + (run.2.1 - run.1) < d.toNat) ∧
      (∀ run ∈ upperRuns, d.toNat < run.2.2.2 ∨ run.2.2.2 + (run.2.1 - run.1) < d.toNat) ∧
      ∀ e ∈ upperExpansions, ∀ n ∈ e.2, n ≠ d.toNat := by
  simpa only [isSteady, Bool.and_eq_true, Nat.blt_eq, bne_iff_ne, List.all_eq_true, Bool.or_eq_true,
    and_assoc] using hd

/-- A steady character is lowered from an ASCII character. -/
theorem of_mem_lowerChar (h : d ∈ lowerChar c) : c.toNat < 128 ∧ c.toLower = d := by
  obtain ⟨hpos, hsmall, hi, hruns, _, _⟩ := bounds_of_isSteady hd
  have hdot : d ≠ '\u0307' := by
    rintro rfl
    exact absurd hsmall (by decide)
  unfold lowerChar at h
  split at h
  · simp [hi, hdot] at h
  · rename_i hdotted
    rw [List.mem_singleton, lowerSimple] at h
    by_cases hc : c.toNat < 128
    · rw [if_pos hc] at h
      exact ⟨hc, h.symm⟩
    · rw [if_neg hc, if_neg hdotted] at h
      exact absurd (eq_of_counterpart? hpos hruns h ▸ hsmall) hc

/-- It is raised from one. -/
theorem of_mem_upperChar (h : d ∈ upperChar c) : c.toNat < 128 ∧ c.toUpper = d := by
  obtain ⟨hpos, hsmall, _, _, hruns, hexpansions⟩ := bounds_of_isSteady hd
  unfold upperChar at h
  by_cases hc : c.toNat < 128
  · rw [if_pos hc, List.mem_singleton] at h
    exact ⟨hc, h.symm⟩
  · rw [if_neg hc] at h
    split at h
    · rename_i codes hfind
      obtain ⟨n, hn, hcode⟩ := List.mem_map.mp h
      have hne := hexpansions _ (List.mem_of_find?_eq_some hfind) n hn
      exact absurd (eq_toNat_of_ofNat hpos hcode.symm) hne
    · rw [List.mem_singleton] at h
      exact absurd (eq_of_counterpart? hpos hruns h ▸ hsmall) hc

end Steady

/-! ### Letters -/

/-- The capitals. -/
theorem isUpper_iff {c : Char} : c.isUpper = true ↔ 65 ≤ c.val ∧ c.val ≤ 90 := decide_eq_true_iff

/-- The small letters. -/
theorem isLower_iff {c : Char} : c.isLower = true ↔ 97 ≤ c.val ∧ c.val ≤ 122 := by
  show (decide (97 ≤ c.val) && decide (c.val ≤ 122)) = true ↔ _
  rw [Bool.and_eq_true, decide_eq_true_iff, decide_eq_true_iff]

/-- The letters. -/
theorem isAlpha_iff {c : Char} : c.isAlpha = true ↔ c.isUpper = true ∨ c.isLower = true :=
  Bool.or_eq_true_iff

/-- The code of a character in lower case. -/
theorem val_toLower (c : Char) :
    c.toLower.val = if 65 ≤ c.val ∧ c.val ≤ 90 then c.val + ('a'.val - 'A'.val) else c.val := by
  unfold Char.toLower
  split
  · rename_i h
    exact (if_pos h).symm
  · rename_i h
    exact (if_neg h).symm

/-- The code of a character in upper case. -/
theorem val_toUpper (c : Char) :
    c.toUpper.val = if 97 ≤ c.val ∧ c.val ≤ 122 then c.val + ('A'.val - 'a'.val) else c.val := by
  unfold Char.toUpper
  split
  · rename_i h
    exact (if_pos h).symm
  · rename_i h
    exact (if_neg h).symm

/-- Lower case changes the capitals alone. -/
theorem toLower_eq_self_iff {c : Char} : c.toLower = c ↔ c.isUpper = false := by
  rw [← Bool.not_eq_true, isUpper_iff, Char.ext_iff, val_toLower]
  grind

/-- A character has the lower case of itself and of its upper case. -/
theorem eq_or_eq_of_toLower {c d : Char} (h : c.toLower = d) : c = d ∨ c = d.toUpper := by
  subst h
  simp only [Char.ext_iff, val_toLower, val_toUpper]
  grind

/-- What is no small letter is restored from its lower case. -/
theorem toUpper_toLower {c : Char} (h : c.isLower = false) : c.toLower.toUpper = c := by
  rw [← Bool.not_eq_true, isLower_iff] at h
  rw [Char.ext_iff, val_toUpper, val_toLower]
  grind

/-- Lower case stays in ASCII. -/
theorem toNat_toLower_lt {c : Char} (h : c.toNat < 128) : c.toLower.toNat < 128 := by
  unfold Char.toNat at h ⊢
  rw [val_toLower]
  split
  · rename_i hcapital
    have hlast : c.val.toNat ≤ 90 := UInt32.le_iff_toNat_le.mp hcapital.2
    have hstep : ('a'.val - 'A'.val).toNat = 32 := by decide
    rw [UInt32.toNat_add, hstep]
    omega
  · exact h

/-- A capital is no small letter. -/
theorem isLower_of_isUpper {c : Char} (h : c.isUpper = true) : c.isLower = false := by
  rw [isUpper_iff] at h
  rw [← Bool.not_eq_true, isLower_iff]
  grind

/-- Lower case makes letters of letters alone. -/
theorem eq_of_toLower {c d : Char} (hletter : d.isAlpha = false) (h : c.toLower = d) : c = d := by
  subst h
  rw [← Bool.not_eq_true, isAlpha_iff, isUpper_iff, isLower_iff, val_toLower] at hletter
  rw [Char.ext_iff, val_toLower]
  grind

/-- Upper case does too. -/
theorem eq_of_toUpper {c d : Char} (hletter : d.isAlpha = false) (h : c.toUpper = d) : c = d := by
  subst h
  rw [← Bool.not_eq_true, isAlpha_iff, isUpper_iff, isLower_iff, val_toUpper] at hletter
  rw [Char.ext_iff, val_toUpper]
  grind

section NoLetter

variable {d : Char} (hd : isSteady d = true) (hletter : d.isAlpha = false) {text : List Char}

include hd

/-- No sigma is steady. -/
theorem ne_sigma_of_isSteady : d ≠ 'ς' ∧ d ≠ 'σ' := by
  obtain ⟨_, hsmall, _⟩ := bounds_of_isSteady hd
  constructor <;> rintro rfl <;> exact absurd hsmall (by decide)

include hletter

/-- A steady character that is no letter is in a text if it is in the text in lower case. -/
theorem mem_of_mem_lower (h : d ∈ lower text) : d ∈ text := by
  obtain ⟨hfinal, hmiddle⟩ := ne_sigma_of_isSteady hd
  obtain ⟨c, hc, hlower⟩ := (mem_lower hfinal hmiddle).mp h
  exact eq_of_toLower hletter (of_mem_lowerChar hd hlower).2 ▸ hc

/-- It is if it is in the text in upper case. -/
theorem mem_of_mem_upper (h : d ∈ upper text) : d ∈ text := by
  obtain ⟨c, hc, hupper⟩ := List.mem_flatMap.mp h
  exact eq_of_toUpper hletter (of_mem_upperChar hd hupper).2 ▸ hc

end NoLetter

/-! ### The last character -/

/-- A character is lowered to something. -/
theorem lowerChar_ne_nil (c : Char) : lowerChar c ≠ [] := by
  unfold lowerChar
  split <;> exact List.cons_ne_nil _ _

/-- So is a text. -/
theorem lowerFrom_ne_nil {afterCased : Bool} {text : List Char} (h : text ≠ []) :
    lowerFrom afterCased text ≠ [] := by
  cases text with
  | nil => exact absurd rfl h
  | cons c rest =>
    rw [lowerFrom]
    refine List.append_ne_nil_of_left_ne_nil ?_ _
    split
    · exact List.cons_ne_nil _ _
    · exact lowerChar_ne_nil c

/-- The last character of a lower-case text, if it is no sigma, comes from the last character. -/
theorem exists_getLast?_of_lowerFrom {afterCased : Bool} {text : List Char} {d : Char}
    (hfinal : d ≠ 'ς') (h : (lowerFrom afterCased text).getLast? = some d) :
    ∃ c, text.getLast? = some c ∧ d ∈ lowerChar c := by
  induction text generalizing afterCased with
  | nil => exact absurd h (by simp [lowerFrom])
  | cons c rest ih =>
    rw [lowerFrom] at h
    cases hrest : rest with
    | nil =>
      rw [hrest, lowerFrom, List.append_nil] at h
      refine ⟨c, rfl, ?_⟩
      have hmem := List.mem_of_getLast? h
      split at hmem
      · exact absurd (List.mem_singleton.mp hmem) hfinal
      · exact hmem
    | cons e more =>
      have hne : rest ≠ [] := by simp [hrest]
      rw [List.getLast?_append_of_ne_nil _ (lowerFrom_ne_nil hne)] at h
      obtain ⟨last, hlast, hd⟩ := ih h
      exact ⟨last, by rw [← hrest, List.getLast?_cons_of_ne_nil hne, hlast], hd⟩

/-- The case of a whole text. -/
theorem exists_getLast?_of_lower {text : List Char} {d : Char} (hd : isSteady d = true)
    (h : (lower text).getLast? = some d) :
    ∃ c, text.getLast? = some c ∧ c.toLower = d := by
  obtain ⟨c, hc, hlower⟩ := exists_getLast?_of_lowerFrom (ne_sigma_of_isSteady hd).1 h
  exact ⟨c, hc, (of_mem_lowerChar hd hlower).2⟩

/-! ### Texts in ASCII -/

/-- A text in ASCII is lowered letter by letter. -/
theorem lower_of_ascii {text : List Char} (h : ∀ c ∈ text, c.toNat < 128) :
    lower text = text.map Char.toLower := by
  have hlower : ∀ afterCased, lowerFrom afterCased text = text.map Char.toLower := by
    induction text with
    | nil => exact fun _ => rfl
    | cons c text ih =>
      intro afterCased
      obtain ⟨hc, htext⟩ := List.forall_mem_cons.mp h
      have hsigma : (c == 'Σ') = false := by
        rw [beq_eq_false_iff_ne]
        rintro rfl
        exact absurd hc (by decide)
      have hdotted : (c.toNat == 0x130) = false := by
        rw [beq_eq_false_iff_ne]
        omega
      rw [lowerFrom, ih htext, hsigma, lowerChar, hdotted, lowerSimple, if_pos hc]
      rfl
  exact hlower false

/-- It is raised letter by letter. -/
theorem upper_of_ascii {text : List Char} (h : ∀ c ∈ text, c.toNat < 128) :
    upper text = text.map Char.toUpper := by
  rw [upper, List.map_eq_flatMap]
  refine List.flatMap_congr fun c hc => ?_
  rw [upperChar, if_pos (h c hc)]

/-- A text is in lower case if it has no capitals. -/
theorem map_toLower_eq_self_iff {text : List Char} :
    text.map Char.toLower = text ↔ ∀ c ∈ text, c.isUpper = false := by
  induction text with
  | nil => simp
  | cons c text ih =>
    rw [List.map_cons, List.cons.injEq, toLower_eq_self_iff, ih, List.forall_mem_cons]

/-- A text in ASCII is restored from its lower case if it has no small letters. -/
theorem upper_map_toLower {text : List Char} (h : ∀ c ∈ text, c.toNat < 128)
    (hcapitals : ∀ c ∈ text, c.isLower = false) : upper (text.map Char.toLower) = text := by
  have hascii : ∀ c ∈ text.map Char.toLower, c.toNat < 128 := by
    rintro d hd
    obtain ⟨c, hc, rfl⟩ := List.mem_map.mp hd
    exact toNat_toLower_lt (h c hc)
  rw [upper_of_ascii hascii, List.map_map]
  exact (List.map_congr_left fun c hc => toUpper_toLower (hcapitals c hc)).trans (List.map_id _)

/-- A character in ASCII is upper-case text if it is a capital. -/
theorem isUpperText_singleton {c : Char} (h : c.toNat < 128) : isUpperText [c] = c.isUpper := by
  simp only [isUpperText, isUpperLetter, isLowerLetter, isTitleLetter, if_pos h, List.any_cons,
    List.any_nil, Bool.or_false]
  cases hupper : c.isUpper
  · rfl
  · rw [isLower_of_isUpper hupper]
    rfl

end Phrasebook.Text
