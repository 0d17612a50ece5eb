import Mathlib.Data.List.TakeWhile
import Phrasebook.Text.Utf8

namespace Phrasebook.Text.Utf8

/-!
# Texts and their octets

The octets of a text are those that a string of the same characters is kept as, so what is known of
those holds here:

* `encodeChar_eq` — the octets of a character are those of its standard encoding;
* `length_encodeChar_le` — so there are four at most;
* `octetsOf_injective` — and different texts have different octets.

A text with a half of a surrogate pair has none:

* `Whole` — the texts without halves, and `encode_eq_ok_iff` — they are the ones that have octets;
* `IsFirst`, `exists_encode_of_not_whole` — in any other, the first halves in a row are at fault.
-/

/-- The octets of a character are those of its standard encoding. -/
theorem encodeChar_eq (c : Char) : encodeChar c = String.utf8EncodeChar c := by
  have hbound : c.toNat < 0x110000 := by
    have hvalid := c.valid
    simp only [UInt32.isValidChar, Nat.isValidChar] at hvalid
    show c.val.toNat < 0x110000
    omega
  -- The standard takes the payload of the first octet modulo its width, which changes nothing.
  have hlead₂ : c.toNat < 0x800 → 0xC0 + c.toNat / 0x40 = c.toNat / 64 % 32 + 192 := by omega
  have hlead₃ : c.toNat < 0x10000 → 0xE0 + c.toNat / 0x1000 = c.toNat / 4096 % 16 + 224 := by omega
  have hlead₄ : 0xF0 + c.toNat / 0x40000 = c.toNat / 262144 % 8 + 240 := by omega
  unfold encodeChar String.utf8EncodeChar
  show (if c.toNat < 0x80 then _ else if c.toNat < 0x800 then _ else if c.toNat < 0x10000 then _
    else _) = if c.toNat ≤ 0x7F then _ else if c.toNat ≤ 0x7FF then _ else
      if c.toNat ≤ 0xFFFF then _ else _
  by_cases h₁ : c.toNat < 0x80
  · rw [if_pos h₁, if_pos (show c.toNat ≤ 0x7F by omega)]
    rfl
  rw [if_neg h₁, if_neg (show ¬ c.toNat ≤ 0x7F by omega)]
  by_cases h₂ : c.toNat < 0x800
  · rw [if_pos h₂, if_pos (show c.toNat ≤ 0x7FF by omega), hlead₂ h₂, Nat.add_comm 0x80]
    rfl
  rw [if_neg h₂, if_neg (show ¬ c.toNat ≤ 0x7FF by omega)]
  by_cases h₃ : c.toNat < 0x10000
  · rw [if_pos h₃, if_pos (show c.toNat ≤ 0xFFFF by omega), hlead₃ h₃, Nat.add_comm 0x80,
      Nat.add_comm 0x80]
    rfl
  · rw [if_neg h₃, if_neg (show ¬ c.toNat ≤ 0xFFFF by omega), hlead₄, Nat.add_comm 0x80,
      Nat.add_comm 0x80, Nat.add_comm 0x80]
    rfl

/-- A character has at most four octets. -/
theorem length_encodeChar_le (c : Char) : (encodeChar c).length ≤ 4 := by
  rw [encodeChar_eq, String.length_utf8EncodeChar]
  exact c.utf8Size_le_four

/-- The octets of two texts, one after the other. -/
theorem octetsOf_append (text more : List Char) :
    octetsOf (text ++ more) = octetsOf text ++ octetsOf more :=
  List.flatMap_append

/-- Different texts have different octets. -/
theorem octetsOf_injective {text text' : List Char} (h : octetsOf text = octetsOf text') :
    text = text' := by
  have hstandard : ∀ t : List Char, octetsOf t = t.flatMap String.utf8EncodeChar := by
    intro t
    unfold octetsOf
    rw [funext encodeChar_eq]
  apply String.ofList_injective
  rw [← String.toByteArray_inj]
  show (text.flatMap String.utf8EncodeChar).toByteArray =
    (text'.flatMap String.utf8EncodeChar).toByteArray
  rw [← hstandard, ← hstandard, h]

/-! ### Texts without octets -/

/-- A text without halves of surrogate pairs. -/
def Whole (text : List Char) : Prop := ∀ c ∈ text, isHalf c = false

instance (text : List Char) : Decidable (Whole text) :=
  List.decidableBAll (fun c => isHalf c = false) text

/-- No character below the stand-ins is a half. -/
theorem not_isHalf_of_lt {c : Char} (h : c.toNat < 0xDD800) : isHalf c = false := by
  have hcode : c.toNat - halfOffset < 0xD800 := by
    rw [halfOffset]
    omega
  have hhigh : decide (0xD800 ≤ c.toNat - halfOffset) = false := decide_eq_false (by omega)
  have hlow : decide (0xDC00 ≤ c.toNat - halfOffset) = false := decide_eq_false (by omega)
  unfold isHalf halfOf? isHighHalf isLowHalf
  simp only [hhigh, hlow, Bool.false_and, Bool.or_self, Bool.false_eq_true, if_false,
    Option.isSome_none]

/-- Two texts in a row are whole where both are. -/
theorem whole_append {text more : List Char} : Whole (text ++ more) ↔ Whole text ∧ Whole more :=
  List.forall_mem_append

/-- These are the first halves in a row of a text: `count` of them behind `position` whole
    characters, and no half right behind them. -/
structure IsFirst (halves : Halves) (text : List Char) : Prop where
  some_half : 0 < halves.count
  whole : Whole (text.take halves.position)
  halves : ∃ run rest, text.drop halves.position = run ++ rest ∧ run.length = halves.count ∧
    (∀ c ∈ run, isHalf c = true) ∧ ∀ c, rest.head? = some c → isHalf c = false

/-- Nothing is found exactly in a whole text. -/
theorem halvesFrom?_eq_none_iff {text : List Char} {position : Nat} :
    halvesFrom? position text = none ↔ Whole text := by
  induction text generalizing position with
  | nil => simp [halvesFrom?, Whole]
  | cons c rest ih =>
    unfold halvesFrom?
    by_cases hc : isHalf c = true
    · simp [hc, Whole]
    · rw [if_neg hc, ih]
      simp [Whole, hc]

/-- What is found counts from the first half on. -/
theorem halvesFrom?_eq_some {text : List Char} {position : Nat} {halves : Halves}
    (h : halvesFrom? position text = some halves) :
    ∃ n, halves.position = position + n ∧ IsFirst ⟨n, halves.count⟩ text := by
  induction text generalizing position with
  | nil => cases h
  | cons c rest ih =>
    unfold halvesFrom? at h
    by_cases hc : isHalf c = true
    · rw [if_pos hc, Option.some.injEq] at h
      subst h
      -- The run of halves starts here and goes on as far as halves follow.
      refine ⟨0, rfl, Nat.succ_pos _, by simp [Whole], c :: rest.takeWhile isHalf,
        rest.dropWhile isHalf, ?_, rfl, ?_, ?_⟩
      · simp [List.takeWhile_append_dropWhile]
      · rw [List.forall_mem_cons]
        exact ⟨hc, fun d hd => List.mem_takeWhile_imp hd⟩
      · intro d hd
        have hhead := List.head?_dropWhile_not isHalf rest
        rw [hd] at hhead
        simpa using hhead
    · -- It starts later, behind one more whole character.
      rw [if_neg hc] at h
      obtain ⟨n, hposition, hfirst⟩ := ih h
      refine ⟨n + 1, by omega, hfirst.some_half, ?_, hfirst.halves⟩
      have hwhole := hfirst.whole
      simp only [Whole, List.take_succ_cons, List.forall_mem_cons] at hwhole ⊢
      exact ⟨by simpa using hc, hwhole⟩

/-- A whole text has the octets of its characters. -/
theorem encode_of_whole {text : List Char} (h : Whole text) : encode text = .ok (octetsOf text) := by
  unfold encode
  rw [halvesFrom?_eq_none_iff.mpr h]

/-- Any other text has none, for its first halves. -/
theorem exists_encode_of_not_whole {text : List Char} (h : ¬ Whole text) :
    ∃ halves, encode text = .error halves ∧ IsFirst halves text := by
  cases hfound : halvesFrom? 0 text with
  | none => exact absurd (halvesFrom?_eq_none_iff.mp hfound) h
  | some halves =>
    obtain ⟨n, hposition, hfirst⟩ := halvesFrom?_eq_some hfound
    rw [Nat.zero_add] at hposition
    subst hposition
    refine ⟨halves, ?_, hfirst⟩
    unfold encode
    rw [hfound]

/-- The texts that have octets are the whole ones. -/
theorem encode_eq_ok_iff {text : List Char} {octets : List UInt8} :
    encode text = .ok octets ↔ Whole text ∧ octets = octetsOf text := by
  by_cases h : Whole text
  · simp [encode_of_whole h, h, eq_comm]
  · obtain ⟨halves, herror, _⟩ := exists_encode_of_not_whole h
    simp [herror, h]

end Phrasebook.Text.Utf8
