import Mathlib.Data.List.Basic
import Phrasebook.Text.Blank
import Phrasebook.Text.Case

namespace Phrasebook.Text

/-!
# Lower case, character by character

Lower case looks at the neighbours of a capital sigma alone, so everything else in a text is lowered
on its own:

* `mem_lower` — the characters of a lower-case text, the two forms of sigma apart, are those that
  single characters are lowered to;
* `lowerChar_of_blank` — blanks have no letter case.
-/

/-- A capital sigma is lowered to one of the two small ones; any other character to its own form. -/
theorem mem_lowerFrom {afterCased : Bool} {d : Char} {text : List Char} (hfinal : d ≠ 'ς')
    (hmiddle : d ≠ 'σ') : d ∈ lowerFrom afterCased text ↔ ∃ c ∈ text, d ∈ lowerChar c := by
  induction text generalizing afterCased with
  | nil => simp [lowerFrom]
  | cons c rest ih =>
    have hsigma : lowerChar 'Σ' = ['σ'] := by decide +kernel
    rw [lowerFrom, List.mem_append, ih, List.exists_mem_cons_iff]
    split
    · rename_i hc
      have hcapital : c = 'Σ' := by
        simp only [Bool.and_eq_true, beq_iff_eq] at hc
        exact hc.1.1
      simp [hcapital, hsigma, hfinal, hmiddle]
    · rfl

/-- The characters of a lower-case text are those that single characters are lowered to. -/
theorem mem_lower {d : Char} {text : List Char} (hfinal : d ≠ 'ς') (hmiddle : d ≠ 'σ') :
    d ∈ lower text ↔ ∃ c ∈ text, d ∈ lowerChar c :=
  mem_lowerFrom hfinal hmiddle

/-- The codes of the blanks. -/
def blankCodes : List Nat :=
  [0x09, 0x0A, 0x0B, 0x0C, 0x0D, 0x1C, 0x1D, 0x1E, 0x1F, 0x20, 0x85, 0xA0, 0x1680, 0x2000, 0x2001,
    0x2002, 0x2003, 0x2004, 0x2005, 0x2006, 0x2007, 0x2008, 0x2009, 0x200A, 0x2028, 0x2029, 0x202F,
    0x205F, 0x3000]

/-- A blank has one of the codes. -/
theorem toNat_mem_blankCodes {c : Char} (h : isBlank c = true) : c.toNat ∈ blankCodes := by
  have hone : ∀ {n : Nat}, blankCodes.contains n = true → c.toNat = n → c.toNat ∈ blankCodes :=
    fun hn hc => hc ▸ List.contains_iff_mem.mp hn
  have hrun : ∀ {low high : Nat},
      (List.range' low (high + 1 - low)).all blankCodes.contains = true →
      low ≤ c.toNat ∧ c.toNat ≤ high → c.toNat ∈ blankCodes := by
    intro low high hall hc
    have hmem := List.mem_range'_1.mpr (show low ≤ c.toNat ∧ c.toNat < low + (high + 1 - low) by
      omega)
    exact List.contains_iff_mem.mp (List.all_eq_true.mp hall _ hmem)
  simp only [isBlank, Bool.or_eq_true, beq_iff_eq, Bool.and_eq_true, decide_eq_true_eq] at h
  rcases h with ((((((((((h | h) | h) | h) | h) | h) | h) | h) | h) | h) | h) | h
  all_goals first | exact hone rfl h | exact hrun rfl h

/-- Blanks have no letter case. -/
theorem lowerChar_of_blank {c : Char} (h : isBlank c = true) : lowerChar c = [c] := by
  have hall : ∀ n ∈ blankCodes, lowerChar (Char.ofNat n) = [Char.ofNat n] := by decide +kernel
  have hc := hall c.toNat (toNat_mem_blankCodes h)
  rwa [Char.ofNat_toNat] at hc

end Phrasebook.Text
