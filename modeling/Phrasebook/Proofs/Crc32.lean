import Mathlib.Logic.Function.Basic
import Phrasebook.Crc32

namespace Phrasebook.Crc32

/-!
# Bursts of errors

The check value of octets notices every change that is confined to four octets in a row, wherever
they stand:

* `getLsbD_shift` — the bits after one shift;
* `shift_xor`, `shift_injective` — a shift is linear and loses nothing, as the polynomial has the
  highest bit, where the bit that leaves is seen again;
* `foldl_absorb_injective` — so octets that are taken in keep different registers apart;
* `word`, `foldl_absorb_eq` — up to four octets are taken in as one word, all at once;
* `checksum_ne_of_burst` — so different ones at the same place lead to different check values.
-/

/-! ### Shifts -/

/-- A bit after a shift is the one above it before, changed where the lowest bit was set and the
    polynomial has a term. -/
theorem getLsbD_shift (r : BitVec 32) (i : Nat) :
    (shift r).getLsbD i = (r.getLsbD (i + 1) ^^ (r.getLsbD 0 && polynomial.getLsbD i)) := by
  unfold shift
  cases h : r.getLsbD 0 <;> simp [Nat.add_comm]

/-- A shift is linear. -/
theorem shift_xor (a b : BitVec 32) : shift (a ^^^ b) = shift a ^^^ shift b := by
  apply BitVec.eq_of_getLsbD_eq
  intro i _
  simp only [getLsbD_shift, BitVec.getLsbD_xor]
  cases a.getLsbD 0 <;> cases b.getLsbD 0 <;> cases polynomial.getLsbD i <;> simp

/-- A shift loses nothing. -/
theorem shift_injective : Function.Injective shift := by
  intro a b h
  have hbits : ∀ i, (a.getLsbD (i + 1) ^^ (a.getLsbD 0 && polynomial.getLsbD i)) =
      (b.getLsbD (i + 1) ^^ (b.getLsbD 0 && polynomial.getLsbD i)) := by
    intro i
    rw [← getLsbD_shift, ← getLsbD_shift, h]
  -- The bit that leaves is the highest one afterwards; with it, so are all others known.
  have hlowest : a.getLsbD 0 = b.getLsbD 0 := by
    have htop : polynomial.getLsbD 31 = true := by decide
    have h31 := hbits 31
    rwa [htop, BitVec.getLsbD_of_ge a 32 (Nat.le_refl _), BitVec.getLsbD_of_ge b 32 (Nat.le_refl _),
      Bool.and_true, Bool.and_true, Bool.false_xor, Bool.false_xor] at h31
  apply BitVec.eq_of_getLsbD_eq
  intro i _
  cases i with
  | zero => exact hlowest
  | succ i =>
    have hi := hbits i
    rw [hlowest] at hi
    exact Bool.xor_left_inj.mp hi

/-- Shifts one after the other. -/
theorem shifts_add (m n : Nat) (r : BitVec 32) : shifts (m + n) r = shifts n (shifts m r) := by
  induction m generalizing r with
  | zero => rw [Nat.zero_add, shifts]
  | succ m ih => rw [Nat.succ_add, shifts, shifts, ih]

/-- Shifts are linear. -/
theorem shifts_xor (n : Nat) (a b : BitVec 32) :
    shifts n (a ^^^ b) = shifts n a ^^^ shifts n b := by
  induction n generalizing a b with
  | zero => rfl
  | succ n ih => rw [shifts, shift_xor, ih, shifts, shifts]

/-- Shifts lose nothing. -/
theorem shifts_injective (n : Nat) : Function.Injective (shifts n) := by
  induction n with
  | zero => exact Function.injective_id
  | succ n ih => exact ih.comp shift_injective

/-- Bits that were moved up and have room there are moved down again. -/
theorem shifts_shiftLeft {n : Nat} {x : BitVec 32}
    (hroom : ∀ i, 32 ≤ i + n → x.getLsbD i = false) : shifts n (x <<< n) = x := by
  induction n with
  | zero => rw [shifts, BitVec.shiftLeft_zero]
  | succ n ih =>
    have hdown : shift (x <<< (n + 1)) = x <<< n := by
      apply BitVec.eq_of_getLsbD_eq
      intro i hi
      rw [getLsbD_shift]
      simp only [BitVec.getLsbD_shiftLeft]
      by_cases htop : i = 31
      · subst htop
        simp [hroom (31 - n) (by omega)]
      · have hbelow : i + 1 < 32 := by omega
        simp [hbelow, hi]
    rw [shifts, hdown, ih fun i hi => hroom i (by omega)]

/-! ### Octets -/

/-- Taking in an octet keeps different registers apart. -/
theorem absorb_injective (octet : UInt8) : Function.Injective fun r => absorb r octet := by
  intro a b h
  exact (BitVec.xor_left_inj _).mp (shifts_injective 8 h)

/-- So does taking in any number of octets. -/
theorem foldl_absorb_injective (octets : List UInt8) :
    Function.Injective fun r => octets.foldl absorb r := by
  induction octets with
  | nil => exact Function.injective_id
  | cons octet rest ih => exact ih.comp (absorb_injective octet)

/-- Octets as one word, the first at the low end. -/
def word : List UInt8 → BitVec 32
  | [] => 0
  | octet :: rest => octet.toBitVec.zeroExtend 32 ^^^ word rest <<< 8

/-- Of a word of octets the first eight bits are the first octet, and the others the rest. -/
theorem getLsbD_word_cons (octet : UInt8) (rest : List UInt8) {i : Nat} (hi : i < 32) :
    (word (octet :: rest)).getLsbD i =
      if i < 8 then octet.toBitVec.getLsbD i else (word rest).getLsbD (i - 8) := by
  have hoctet : ¬ i < 8 → octet.toBitVec.getLsbD i = false :=
    fun hhigh => BitVec.getLsbD_of_ge _ _ (by omega)
  show (octet.toBitVec.setWidth 32 ^^^ word rest <<< 8).getLsbD i = _
  rw [BitVec.getLsbD_xor, BitVec.getLsbD_setWidth, BitVec.getLsbD_shiftLeft]
  by_cases hlow : i < 8
  · simp [hi, hlow]
  · simp [hi, hlow, hoctet hlow]

/-- A word has no bits above its octets. -/
theorem getLsbD_word_of_le {octets : List UInt8} {i : Nat} (hi : 8 * octets.length ≤ i) :
    (word octets).getLsbD i = false := by
  induction octets generalizing i with
  | nil => exact BitVec.getLsbD_zero
  | cons octet rest ih =>
    rw [List.length_cons] at hi
    by_cases hwide : i < 32
    · rw [getLsbD_word_cons _ _ hwide, if_neg (by omega)]
      exact ih (by omega)
    · exact BitVec.getLsbD_of_ge _ _ (by omega)

/-- Words of as many octets, up to four, are different for different octets. -/
theorem eq_of_word_eq {octets octets' : List UInt8} (hlength : octets.length = octets'.length)
    (hshort : octets.length ≤ 4) (h : word octets = word octets') : octets = octets' := by
  induction octets generalizing octets' with
  | nil => exact (List.length_eq_zero_iff.mp hlength.symm).symm
  | cons octet rest ih =>
    obtain ⟨octet', rest', rfl⟩ := List.exists_cons_of_length_eq_add_one hlength.symm
    simp only [List.length_cons] at hlength hshort
    -- The words are compared bit by bit: the first eight bits are those of the first octet.
    have hbits : ∀ i, (word (octet :: rest)).getLsbD i = (word (octet' :: rest')).getLsbD i :=
      fun i => by rw [h]
    have hoctet : octet = octet' := by
      apply UInt8.toBitVec_inj.mp
      apply BitVec.eq_of_getLsbD_eq
      intro i hi
      have hi32 : i < 32 := by omega
      have hbit := hbits i
      rwa [getLsbD_word_cons _ _ hi32, getLsbD_word_cons _ _ hi32, if_pos hi, if_pos hi] at hbit
    have hrest : word rest = word rest' := by
      apply BitVec.eq_of_getLsbD_eq
      intro i _
      by_cases hroom : i + 8 < 32
      · have hbit := hbits (i + 8)
        rwa [getLsbD_word_cons _ _ hroom, getLsbD_word_cons _ _ hroom, if_neg (by omega),
          if_neg (by omega), Nat.add_sub_cancel] at hbit
      · -- At most three octets are left, so both words have no such bit.
        rw [getLsbD_word_of_le (by omega), getLsbD_word_of_le (by omega)]
    rw [hoctet, ih (by omega) (by omega) hrest]

/-- Up to four octets are taken in as one word, all at once. -/
theorem foldl_absorb_eq {octets : List UInt8} (hshort : octets.length ≤ 4) (r : BitVec 32) :
    octets.foldl absorb r = shifts (8 * octets.length) (r ^^^ word octets) := by
  induction octets generalizing r with
  | nil => simp [shifts, word]
  | cons octet rest ih =>
    simp only [List.length_cons] at hshort ⊢
    -- The later octets could as well have entered before the first eight shifts, higher up.
    have hlater : word rest = shifts 8 (word rest <<< 8) :=
      (shifts_shiftLeft fun i hi => getLsbD_word_of_le (by omega)).symm
    calc (octet :: rest).foldl absorb r
        = shifts (8 * rest.length) (absorb r octet ^^^ word rest) := ih (by omega) _
      _ = shifts (8 * rest.length) (shifts 8 (r ^^^ word (octet :: rest))) := by
          rw [hlater, absorb, ← shifts_xor, BitVec.xor_assoc]
          rfl
      _ = shifts (8 * (rest.length + 1)) (r ^^^ word (octet :: rest)) := by
          rw [← shifts_add, Nat.mul_add, Nat.add_comm]

/-- **Bursts are noticed.**  Octets that differ in four octets in a row at most, as many in both,
    have different check values, whatever stands before and after. -/
theorem checksum_ne_of_burst (before after : List UInt8) {burst burst' : List UInt8}
    (hlength : burst.length = burst'.length) (hshort : burst.length ≤ 4) (hne : burst ≠ burst') :
    checksum (before ++ burst ++ after) ≠ checksum (before ++ burst' ++ after) := by
  intro h
  unfold checksum at h
  rw [BitVec.xor_left_inj, List.foldl_append, List.foldl_append, List.foldl_append,
    List.foldl_append] at h
  have hburst : burst.foldl absorb (before.foldl absorb (BitVec.allOnes 32)) =
      burst'.foldl absorb (before.foldl absorb (BitVec.allOnes 32)) :=
    foldl_absorb_injective after h
  have hshort' : burst'.length ≤ 4 := hlength ▸ hshort
  rw [foldl_absorb_eq hshort, foldl_absorb_eq hshort', ← hlength] at hburst
  exact hne (eq_of_word_eq hlength hshort
    ((BitVec.xor_right_inj _).mp (shifts_injective _ hburst)))

end Phrasebook.Crc32
