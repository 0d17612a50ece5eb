import Phrasebook.Proofs.Text.Utf8

namespace Phrasebook.Text

/-!
# Reading octets back

The octets of a text are read as that text, all at once or as they arrive: what is left undecided
after a part of them are the octets of a character that has not arrived in full.

* `Utf8.decode_octetsOf` — the octets of a text are read as it;
* `Utf8.decodePieces_octetsOf` — so are they in pieces of any size.
-/

namespace Utf8

/-! ### One character -/

/-- The octets of a character: which may come first, which may follow, and what they stand for. -/
inductive Spells : Char → List UInt8 → Prop where
  | one {a : UInt8} (ha : a < 0x80) : Spells (Char.ofNat a.toNat) [a]
  | two {a b : UInt8} (hstart : 0xC2 ≤ a ∧ a < 0xE0) (hb : mayFollow a b = true) :
      Spells (Char.ofNat (a.toNat % 0x20 * 0x40 + payload b)) [a, b]
  | three {a b c : UInt8} (hstart : 0xE0 ≤ a ∧ a < 0xF0) (hb : mayFollow a b = true)
      (hc : isTail c = true) :
      Spells (Char.ofNat (a.toNat % 0x10 * 0x1000 + payload b * 0x40 + payload c)) [a, b, c]
  | four {a b c d : UInt8} (hstart : 0xF0 ≤ a ∧ a < 0xF5) (hb : mayFollow a b = true)
      (hc : isTail c = true) (hd : isTail d = true) :
      Spells (Char.ofNat (a.toNat % 8 * 0x40000 + payload b * 0x1000 + payload c * 0x40
        + payload d)) [a, b, c, d]

/-- An octet of a small number. -/
theorem toNat_toUInt8 {n : Nat} (h : n < 256) : n.toUInt8.toNat = n := Nat.mod_eq_of_lt h

/-- An octet that continues a character. -/
theorem isTail_toUInt8 {n : Nat} (h : n < 0x40) : isTail (0x80 + n).toUInt8 = true := by
  have hvalue := toNat_toUInt8 (n := 0x80 + n) (by omega)
  have hfirst : (0x80 : UInt8).toNat = 0x80 := rfl
  have hlast : (0xC0 : UInt8).toNat = 0xC0 := rfl
  simp only [isTail, UInt8.le_iff_toNat_le, UInt8.lt_iff_toNat_lt, hvalue, hfirst, hlast,
    Bool.and_eq_true, decide_eq_true_eq]
  omega

/-- Its payload. -/
theorem payload_toUInt8 {n : Nat} (h : n < 0x40) : payload (0x80 + n).toUInt8 = n := by
  unfold payload
  rw [toNat_toUInt8 (by omega)]
  omega

/-- An octet that may follow a given one. -/
theorem mayFollow_toUInt8 {m n : Nat} (hm : m < 256) (hn : n < 0x40) (hE0 : m = 0xE0 → 0x20 ≤ n)
    (hED : m = 0xED → n < 0x20) (hF0 : m = 0xF0 → 0x10 ≤ n) (hF4 : m = 0xF4 → n < 0x10) :
    mayFollow m.toUInt8 (0x80 + n).toUInt8 = true := by
  have hfirst := toNat_toUInt8 hm
  have hsecond := toNat_toUInt8 (n := 0x80 + n) (by omega)
  simp only [mayFollow, isTail_toUInt8 hn, Bool.true_and, Bool.and_eq_true, Bool.not_eq_true',
    Bool.and_eq_false_iff, beq_eq_false_iff_ne, ne_eq, decide_eq_false_iff_not, ← UInt8.toNat_inj,
    UInt8.lt_iff_toNat_lt, UInt8.le_iff_toNat_le, hfirst, hsecond, UInt8.reduceToNat]
  omega

/-- A number of seven bits takes one octet. -/
theorem spells_one {n : Nat} (h : n < 0x80) : Spells (Char.ofNat n) [n.toUInt8] := by
  have hvalue := toNat_toUInt8 (n := n) (by omega)
  have hspells := Spells.one (a := n.toUInt8) (by
    rw [UInt8.lt_iff_toNat_lt, hvalue]
    exact h)
  rwa [hvalue] at hspells

/-- One of eleven bits takes two. -/
theorem spells_two {n : Nat} (hlow : 0x80 ≤ n) (hhigh : n < 0x800) :
    Spells (Char.ofNat n) [(0xC0 + n / 0x40).toUInt8, (0x80 + n % 0x40).toUInt8] := by
  have hvalue := toNat_toUInt8 (n := 0xC0 + n / 0x40) (by omega)
  have hspells := Spells.two (a := (0xC0 + n / 0x40).toUInt8) (b := (0x80 + n % 0x40).toUInt8)
    (by
      simp only [UInt8.lt_iff_toNat_lt, UInt8.le_iff_toNat_le, hvalue, UInt8.reduceToNat]
      omega)
    (mayFollow_toUInt8 (by omega) (by omega) (by omega) (by omega) (by omega) (by omega))
  rwa [hvalue, payload_toUInt8 (by omega),
    show (0xC0 + n / 0x40) % 0x20 * 0x40 + n % 0x40 = n by omega] at hspells

/-- One of sixteen bits takes three, if it is no half of a pair. -/
theorem spells_three {n : Nat} (hlow : 0x800 ≤ n) (hhigh : n < 0x10000)
    (hvalid : n < 0xD800 ∨ 0xDFFF < n) :
    Spells (Char.ofNat n) [(0xE0 + n / 0x1000).toUInt8, (0x80 + n / 0x40 % 0x40).toUInt8,
      (0x80 + n % 0x40).toUInt8] := by
  have hvalue := toNat_toUInt8 (n := 0xE0 + n / 0x1000) (by omega)
  have hspells := Spells.three (a := (0xE0 + n / 0x1000).toUInt8)
    (b := (0x80 + n / 0x40 % 0x40).toUInt8) (c := (0x80 + n % 0x40).toUInt8)
    (by
      simp only [UInt8.lt_iff_toNat_lt, UInt8.le_iff_toNat_le, hvalue, UInt8.reduceToNat]
      omega)
    (mayFollow_toUInt8 (by omega) (by omega) (by omega) (by omega) (by omega) (by omega))
    (isTail_toUInt8 (by omega))
  rwa [hvalue, payload_toUInt8 (by omega), payload_toUInt8 (by omega),
    show (0xE0 + n / 0x1000) % 0x10 * 0x1000 + n / 0x40 % 0x40 * 0x40 + n % 0x40 = n by omega]
    at hspells

/-- The others take four. -/
theorem spells_four {n : Nat} (hlow : 0x10000 ≤ n) (hhigh : n < 0x110000) :
    Spells (Char.ofNat n) [(0xF0 + n / 0x40000).toUInt8, (0x80 + n / 0x1000 % 0x40).toUInt8,
      (0x80 + n / 0x40 % 0x40).toUInt8, (0x80 + n % 0x40).toUInt8] := by
  have hvalue := toNat_toUInt8 (n := 0xF0 + n / 0x40000) (by omega)
  have hspells := Spells.four (a := (0xF0 + n / 0x40000).toUInt8)
    (b := (0x80 + n / 0x1000 % 0x40).toUInt8) (c := (0x80 + n / 0x40 % 0x40).toUInt8)
    (d := (0x80 + n % 0x40).toUInt8)
    (by
      simp only [UInt8.lt_iff_toNat_lt, UInt8.le_iff_toNat_le, hvalue, UInt8.reduceToNat]
      omega)
    (mayFollow_toUInt8 (by omega) (by omega) (by omega) (by omega) (by omega) (by omega))
    (isTail_toUInt8 (by omega)) (isTail_toUInt8 (by omega))
  rwa [hvalue, payload_toUInt8 (by omega), payload_toUInt8 (by omega), payload_toUInt8 (by omega),
    show (0xF0 + n / 0x40000) % 8 * 0x40000 + n / 0x1000 % 0x40 * 0x1000
      + n / 0x40 % 0x40 * 0x40 + n % 0x40 = n by omega] at hspells

/-- **The octets of a character spell it.** -/
theorem spells_encodeChar (c : Char) : Spells c (encodeChar c) := by
  have hvalid : c.toNat < 0xD800 ∨ 0xDFFF < c.toNat ∧ c.toNat < 0x110000 := c.valid
  have hspells : Spells (Char.ofNat c.toNat) (encodeChar c) := by
    unfold encodeChar
    dsimp only
    by_cases hone : c.toNat < 0x80
    · rw [if_pos hone]
      exact spells_one hone
    by_cases htwo : c.toNat < 0x800
    · rw [if_neg hone, if_pos htwo]
      exact spells_two (by omega) htwo
    by_cases hthree : c.toNat < 0x10000
    · rw [if_neg hone, if_neg htwo, if_pos hthree]
      exact spells_three (by omega) hthree (by omega)
    · rw [if_neg hone, if_neg htwo, if_neg hthree]
      exact spells_four (by omega) (by omega)
  rwa [Char.ofNat_toNat] at hspells

/-- Where an octet starts a longer character. -/
theorem of_starts {a low high : UInt8} (hstart : low ≤ a ∧ a < high) (hlow : 0xC2 ≤ low)
    (hhigh : high ≤ 0xF5) : ¬ a < 0x80 ∧ ¬ a < low ∧ (a < 0xC2 || 0xF5 ≤ a) = false := by
  simp only [UInt8.lt_iff_toNat_lt, UInt8.le_iff_toNat_le, UInt8.reduceToNat] at hstart hlow hhigh ⊢
  simp only [Bool.or_eq_false_iff, decide_eq_false_iff_not]
  omega

/-- Octets that spell a character are read as it. -/
theorem Spells.step_eq {c : Char} {b : UInt8} {more : List UInt8} (h : Spells c (b :: more))
    (rest : List UInt8) : step b (more ++ rest) = .char c (more.length + 1) := by
  cases h with
  | one ha => exact if_pos ha
  | two hstart hb =>
    obtain ⟨hfirst, -, hlead⟩ := of_starts hstart (by decide) (by decide)
    simp [step, hfirst, hlead, hb, hstart.2]
  | three hstart hb hc =>
    obtain ⟨hfirst, hnotTwo, hlead⟩ := of_starts hstart (by decide) (by decide)
    simp [step, hfirst, hlead, hb, hc, hnotTwo, hstart.2]
  | @four b _ _ _ hstart hb hc hd =>
    obtain ⟨hfirst, hnotThree, hlead⟩ := of_starts hstart (by decide) (by decide)
    obtain ⟨-, hnotTwo, -⟩ := of_starts
      (show 0xE0 ≤ b ∧ b < 0xF5 from ⟨UInt8.le_trans (by decide) hstart.1, hstart.2⟩)
      (by decide) (by decide)
    simp [step, hfirst, hlead, hb, hc, hd, hnotTwo, hnotThree]

/-- A part of them is not enough. -/
theorem Spells.step_eq_cut {c : Char} {b : UInt8} {more rest : List UInt8}
    (h : Spells c (b :: (more ++ rest))) (hrest : rest ≠ []) : step b more = .cut := by
  generalize hoctets : b :: (more ++ rest) = octets at h
  cases h with
  | one ha =>
    simp [hrest] at hoctets
  | two hstart hb =>
    obtain ⟨hfirst, -, hlead⟩ := of_starts hstart (by decide) (by decide)
    rcases more with _ | ⟨x, more⟩
    · cases hoctets
      simp [step, hfirst, hlead]
    · simp [hrest] at hoctets
  | three hstart hb hc =>
    obtain ⟨hfirst, hnotTwo, hlead⟩ := of_starts hstart (by decide) (by decide)
    rcases more with _ | ⟨x, _ | ⟨y, more⟩⟩
    · cases hoctets
      simp [step, hfirst, hlead]
    · cases hoctets
      simp [step, hfirst, hlead, hb, hnotTwo]
    · simp [hrest] at hoctets
  | @four b _ _ _ hstart hb hc hd =>
    obtain ⟨hfirst, hnotThree, hlead⟩ := of_starts hstart (by decide) (by decide)
    obtain ⟨-, hnotTwo, -⟩ := of_starts
      (show 0xE0 ≤ b ∧ b < 0xF5 from ⟨UInt8.le_trans (by decide) hstart.1, hstart.2⟩)
      (by decide) (by decide)
    rcases more with _ | ⟨x, _ | ⟨y, _ | ⟨z, more⟩⟩⟩
    · cases hoctets
      simp [step, hfirst, hlead]
    · cases hoctets
      simp [step, hfirst, hlead, hb, hnotTwo]
    · cases hoctets
      simp [step, hfirst, hlead, hb, hc, hnotTwo, hnotThree]
    · simp [hrest] at hoctets

/-! ### Texts -/

/-- The octets of a character that has been read are passed over. -/
theorem decodeFrom_skip (position : Nat) (octets rest : List UInt8) :
    decodeFrom position octets.length (octets ++ rest) =
      decodeFrom (position + octets.length) 0 rest := by
  induction octets generalizing position with
  | nil => rfl
  | cons b octets ih =>
    rw [List.length_cons, List.cons_append, decodeFrom, ih]
    congr 1
    omega

/-- A character that has arrived in full is read. -/
theorem decodeFrom_char (c : Char) (rest : List UInt8) (position : Nat) :
    decodeFrom position 0 (encodeChar c ++ rest) =
      (decodeFrom (position + (encodeChar c).length) 0 rest).map fun r => (c :: r.1, r.2) := by
  have hspells := spells_encodeChar c
  cases hoctets : encodeChar c with
  | nil =>
    rw [hoctets] at hspells
    cases hspells
  | cons b more =>
    rw [hoctets] at hspells
    rw [List.cons_append, decodeFrom, hspells.step_eq]
    dsimp only
    rw [Nat.add_sub_cancel, decodeFrom_skip, List.length_cons,
      show position + 1 + more.length = position + (more.length + 1) by omega]
    cases decodeFrom (position + (more.length + 1)) 0 rest <;> rfl

/-- Any part of the octets of a text is read up to a character that has not arrived in full. -/
theorem decodeFrom_prefix {text : List Char} {octets rest : List UInt8}
    (h : octets ++ rest = octetsOf text) (position : Nat) :
    ∃ done todo left, text = done ++ todo ∧ decodeFrom position 0 octets = .ok (done, left) ∧
      left ++ rest = octetsOf todo ∧ (rest = [] → todo = []) := by
  induction text generalizing octets position with
  | nil =>
    obtain ⟨rfl, rfl⟩ : octets = [] ∧ rest = [] := List.append_eq_nil_iff.mp h
    exact ⟨[], [], [], rfl, rfl, rfl, fun _ => rfl⟩
  | cons c text ih =>
    have hsplit : octets ++ rest = encodeChar c ++ octetsOf text := h
    -- The part holds the first character in full, or ends among its octets.
    by_cases hfull : ∃ more, octets = encodeChar c ++ more
    · obtain ⟨more, rfl⟩ := hfull
      rw [List.append_assoc] at hsplit
      obtain ⟨done, todo, left, rfl, hread, hleft, htodo⟩ :=
        ih (List.append_cancel_left hsplit) (position + (encodeChar c).length)
      refine ⟨c :: done, todo, left, rfl, ?_, hleft, htodo⟩
      rw [decodeFrom_char, hread]
      rfl
    · obtain ⟨missing, hmissing, hrest⟩ : ∃ missing, encodeChar c = octets ++ missing ∧
          rest = missing ++ octetsOf text := by
        rcases List.append_eq_append_iff.mp hsplit with ⟨missing, hc, hrest⟩ | ⟨more, hoctets, -⟩
        · exact ⟨missing, hc, hrest⟩
        · exact absurd ⟨more, hoctets⟩ hfull
      have hne : missing ≠ [] := by
        rintro rfl
        exact hfull ⟨[], by rw [hmissing, List.append_nil, List.append_nil]⟩
      refine ⟨[], c :: text, octets, rfl, ?_, h, fun hnil => ?_⟩
      · cases octets with
        | nil => rfl
        | cons b more =>
          have hspells := spells_encodeChar c
          rw [hmissing] at hspells
          rw [decodeFrom, hspells.step_eq_cut hne]
      · rw [hnil] at hrest
        exact absurd (List.append_eq_nil_iff.mp hrest.symm).1 hne

/-- **The octets of a text are read as it.** -/
theorem decode_octetsOf (text : List Char) : decode (octetsOf text) = .ok text := by
  obtain ⟨done, todo, left, rfl, hread, hleft, htodo⟩ :=
    decodeFrom_prefix (List.append_nil (octetsOf text)) 0
  obtain rfl := htodo rfl
  obtain rfl : left = [] := by rwa [List.append_nil] at hleft
  unfold decode
  rw [hread, List.append_nil]
  rfl

/-- The same in pieces, from a character on that has not arrived in full. -/
theorem decodePiecesFrom_octetsOf {size : Nat} (hsize : 0 < size) {fuel : Nat} {text : List Char}
    {pending octets : List UInt8} (h : pending ++ octets = octetsOf text)
    (hpending : octets = [] → text = []) (hfuel : octets.length < fuel) :
    decodePiecesFrom size fuel pending octets = ⟨text, none⟩ := by
  induction fuel generalizing text pending octets with
  | zero => exact absurd hfuel (Nat.not_lt_zero _)
  | succ fuel ih =>
    unfold decodePiecesFrom
    cases hempty : octets.isEmpty with
    | true =>
      rw [List.isEmpty_iff] at hempty
      subst hempty
      obtain rfl := hpending rfl
      obtain rfl : pending = [] := by rwa [List.append_nil] at h
      rfl
    | false =>
      -- What a piece leaves undecided stands before the octets that are still to come.
      have hsplit : (pending ++ octets.take size) ++ octets.drop size = octetsOf text := by
        rw [List.append_assoc, List.take_append_drop, h]
      obtain ⟨done, todo, left, rfl, hread, hleft, htodo⟩ := decodeFrom_prefix hsplit 0
      have hshorter : (octets.drop size).length < fuel := by
        have hne : octets ≠ [] := by
          rintro rfl
          cases hempty
        have hlength := List.length_pos_iff.mpr hne
        rw [List.length_drop]
        omega
      rw [if_neg Bool.false_ne_true, hread]
      dsimp only
      rw [ih hleft htodo hshorter]

/-- **So are they in pieces of any size.** -/
theorem decodePieces_octetsOf {size : Nat} (hsize : 0 < size) (text : List Char) :
    decodePieces size (octetsOf text) = ⟨text, none⟩ := by
  refine decodePiecesFrom_octetsOf hsize (List.nil_append _) (fun hnil => ?_) (Nat.lt_succ_self _)
  exact octetsOf_injective hnil

end Utf8

/-! ### Line ends -/

/-- A text without carriage returns keeps its line ends. -/
theorem unifyLineEnds_append {text : List Char} (h : '\r' ∉ text) (rest : List Char) :
    unifyLineEnds (text ++ rest) = text ++ unifyLineEnds rest := by
  induction text with
  | nil => rfl
  | cons c text ih =>
    rw [List.mem_cons, not_or] at h
    rw [List.cons_append, unifyLineEnds, ih h.2]
    · rfl
    · exact fun hc => h.1 hc.symm

/-- A line end is not joined to any other character after it. -/
theorem unifyLineEnds_concat {c : Char} (hreturn : c ≠ '\r') (hfeed : c ≠ '\n')
    (text : List Char) : unifyLineEnds (text ++ [c]) = unifyLineEnds text ++ [c] := by
  fun_induction unifyLineEnds text with
  | case1 =>
    rw [List.nil_append, unifyLineEnds]
    · rfl
    · exact hreturn
  | case2 rest ih => exact ih
  | case3 rest hrest ih =>
    -- A return that no line feed follows is followed by none afterwards.
    have hnone : ∀ more, rest ++ [c] ≠ '\n' :: more := by
      intro more hmore
      cases rest with
      | nil => exact hfeed (List.cons.inj hmore).1
      | cons d rest => exact hrest rest (by rw [(List.cons.inj hmore).1])
    rw [List.cons_append, unifyLineEnds, ih]
    · rfl
    · exact hnone
  | case4 d rest hd ih =>
    rw [List.cons_append, unifyLineEnds, ih]
    · rfl
    · exact hd

end Phrasebook.Text
