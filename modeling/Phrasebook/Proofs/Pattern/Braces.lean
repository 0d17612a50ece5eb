import Phrasebook.Proofs.Pattern.Matching

namespace Phrasebook.Pattern

/-!
# Names in braces

Placeholders are written with a percent sign and a name in braces.  A pattern of this notation
captures one character after another between the braces, as many as possible or as few.

* `admits` — the pattern is of the notation, and lets a name stand between the braces;
* `rounds_single_eq` — rounds of one character before the only closing brace of a text stop at the
  brace, whatever else the character might be;
* `captures_of_admits` — so in a text with one placeholder, at its start, the pattern finds its name
  and nothing else; `captures_eq_nil_of_admits` — in a text without a closing brace it finds nothing.
-/

/-! ### The notation -/

/-- What stands between the braces of a pattern: the switches of the group, and the repetition in
    it. -/
structure Braces where
  on : Flags
  off : Flags
  style : Style
  least : Nat
  most : Option Nat
  item : Node

/-- The pattern with that between its braces. -/
def Braces.root (b : Braces) : Node :=
  .alternatives [.sequence [.char 0x25, .char 0x7B,
    .group (some 1) b.on b.off
      (.alternatives [.sequence [.repetition b.style b.least b.most b.item]]),
    .char 0x7D]]

/-- What stands between the braces, if the expression is a name in braces. -/
def Node.braces? : Node → Option Braces
  | .alternatives [.sequence [.char percent, .char opening,
      .group (some g) on off (.alternatives [.sequence [.repetition style least most item]]),
      .char closing]] =>
    if percent = 0x25 ∧ opening = 0x7B ∧ g = 1 ∧ closing = 0x7D then
      some ⟨on, off, style, least, most, item⟩
    else none
  | _ => none

/-- The characters that an expression matches one at a time, if it does nothing else. -/
def Node.character? (flags : Flags) : Node → Option (Char → Bool)
  | .char code => some (matchesCode flags code)
  | .notChar code => some fun x => !matchesCode flags code x
  | .any => some fun x => flags.dotAll || x != '\n'
  | .set negated items => some fun x => (items.any fun item => item.matches flags x) != negated
  | _ => none

/-- Whether a pattern is a name in braces, with regard to case, and lets a given name stand there. -/
def admits (p : Pattern) (name : List Char) : Bool :=
  p.groups == 1 && !p.flags.ignoreCase && p.root.braces?.any fun b =>
    b.style != .possessive && b.least ≤ name.length && b.most.all (name.length ≤ ·)
      && (b.item.character? (p.flags.within b.on b.off)).any fun accepts => name.all accepts

/-- The expression is made of what stands between its braces. -/
theorem root_of_braces? {n : Node} {b : Braces} (h : n.braces? = some b) : n = b.root := by
  unfold Node.braces? at h
  split at h
  · split at h
    · rename_i hcodes
      obtain ⟨rfl, rfl, rfl, rfl⟩ := hcodes
      cases h
      rfl
    · cases h
  · cases h

/-- An expression that matches characters one at a time. -/
theorem Node.matcher_of_character? {groups : List (Option Width)} {flags : Flags} {n : Node}
    {accepts : Char → Bool} (h : n.character? flags = some accepts) :
    n.matcher groups flags = single accepts := by
  funext c k
  unfold Node.character? at h
  split at h <;> first | cases h; rw [Node.matcher] | cases h

/-! ### Places after the last closing brace -/

/-- No closing brace follows. -/
def Unclosed (c : Cursor) : Prop := '\x7d' ∉ c.after

/-- What has to match begins with a closing brace. -/
def Closes (k : Rest) : Prop := ∀ d : Cursor, d.after.head? ≠ some '\x7d' → k d = none

/-- None follows one character on. -/
theorem Unclosed.step {c d : Cursor} {x : Char} (hc : Unclosed c) (h : c.step? = some (x, d)) :
    Unclosed d := by
  unfold Cursor.step? at h
  split at h
  · cases h
  · rename_i hafter
    cases h
    exact fun hmem => hc (hafter ▸ List.mem_cons_of_mem _ hmem)

/-- A single character leads from such a place to another. -/
theorem leads_single_unclosed (accepts : Char → Bool) : Leads Unclosed (single accepts) Unclosed := by
  intro c k r hc h
  unfold single at h
  split at h
  · cases h
  · rename_i x d hstep
    split at h
    · exact ⟨d, hc.step hstep, h⟩
    · cases h

/-- So what stays there does not come to an end that begins with one. -/
theorem Leads.eq_none {m : Matcher} {k : Rest} (h : Leads Unclosed m Unclosed) (hk : Closes k)
    {c : Cursor} (hc : Unclosed c) : m c k = none := by
  cases hm : m c k with
  | none => rfl
  | some r =>
    obtain ⟨d, hd, hkd⟩ := h c k r hc hm
    have hnone : k d = none := hk d fun hhead => hd (List.mem_of_mem_head? hhead)
    rw [hnone] at hkd
    cases hkd

/-- A search that finds nothing at such places finds nothing after them. -/
theorem findFrom_eq_none {m : Matcher} (hm : ∀ c k, Unclosed c → m c k = none)
    (text : List Char) (advance : Bool) {c : Cursor} (hc : Unclosed c) :
    findFrom m advance c text = none := by
  induction text generalizing advance c with
  | nil => rw [findFrom, hm c _ hc]; rfl
  | cons x rest ih =>
    rw [findFrom, hm c _ hc]
    dsimp only
    split
    · exact ih false (hc.step ‹_›)
    · rfl

/-! ### Rounds up to the closing brace -/

/-- Rounds in one of the two orders that are tried one number after another. -/
def rounds : Style → Matcher → Nat → Option Nat → Nat → Nat → Option Nat → Matcher
  | .reluctant => reluctant
  | _ => greedy

/-- A character that comes next is taken if it is accepted. -/
theorem single_cons (accepts : Char → Bool) (position : Nat) (before : List Char) (x : Char)
    (after : List Char) (captures : List Capture) (k : Rest) :
    single accepts ⟨position, before, x :: after, captures⟩ k =
      if accepts x then k ⟨position + 1, x :: before, after, captures⟩ else none := rfl

section Rounds

variable {accepts : Char → Bool} {style : Style} {least : Nat} {most : Option Nat}
  {fuel count position : Nat} {last : Option Nat} {before rest : List Char}
  {captures : List Capture} {k : Rest} (hk : Closes k)

include hk

/-- Past the brace no number of rounds will do. -/
theorem rounds_eq_none {c : Cursor} (hc : Unclosed c) :
    rounds style (single accepts) least most fuel count last c k = none := by
  have hleads : Leads Unclosed (rounds style (single accepts) least most fuel count last) fun d =>
      ∃ n, least ≤ n ∧ Unclosed d := by
    cases style with
    | reluctant => exact leads_reluctant (fun _ => leads_single_unclosed accepts) fuel count last
    | greedy | possessive =>
      exact leads_greedy (fun _ => leads_single_unclosed accepts) fuel count last
  refine Leads.eq_none (fun c k r hc h => ?_) hk hc
  obtain ⟨d, ⟨_, _, hd⟩, hrest⟩ := hleads c k r hc h
  exact ⟨d, hd, hrest⟩

/-- At the brace the rounds are over. -/
theorem rounds_brace (hrest : '\x7d' ∉ rest) (henough : least ≤ count) :
    rounds style (single accepts) least most (fuel + 1) count last
        ⟨position, before, '\x7d' :: rest, captures⟩ k =
      k ⟨position, before, '\x7d' :: rest, captures⟩ := by
  have hpast : ∀ last', rounds style (single accepts) least most fuel (count + 1) last'
      ⟨position + 1, '\x7d' :: before, rest, captures⟩ k = none := fun _ => rounds_eq_none hk hrest
  have hmore : ¬ count < least := Nat.not_lt.mpr henough
  cases style with
  | reluctant =>
    simp only [rounds] at hpast ⊢
    rw [reluctant, if_neg hmore, single_cons, hpast]
    cases k ⟨position, before, '\x7d' :: rest, captures⟩ <;> simp
  | greedy | possessive =>
    simp only [rounds] at hpast ⊢
    rw [greedy, if_neg hmore, single_cons, hpast]
    simp

/-- Before it there is another round. -/
theorem rounds_cons {x : Char} {after : List Char} (hx : accepts x = true) (hne : x ≠ '\x7d')
    (hmost : mayRepeat most count = true) (hlast : last.all (· < position) = true) :
    ∃ last', last'.all (· < position + 1) = true ∧
      rounds style (single accepts) least most (fuel + 1) count last
          ⟨position, before, x :: after, captures⟩ k =
        rounds style (single accepts) least most fuel (count + 1) last'
          ⟨position + 1, x :: before, after, captures⟩ k := by
  -- No match can end here, so what counts is the next round, be it tried first or last.
  have hhere : k ⟨position, before, x :: after, captures⟩ = none := hk _ (by simpa using hne)
  have hmoved : (last != some position) = true := by
    cases last with
    | none => rfl
    | some p => simpa using Nat.ne_of_lt (by simpa using hlast)
  by_cases hmore : count < least
  · refine ⟨last, ?_, ?_⟩
    · cases last with
      | none => rfl
      | some p => simpa using Nat.lt_succ_of_lt (by simpa using hlast)
    · cases style <;>
        simp only [rounds, reluctant, greedy, if_pos hmore, single_cons, if_pos hx]
  · refine ⟨some position, by simp, ?_⟩
    cases style with
    | reluctant =>
      simp [rounds, reluctant, if_neg hmore, hhere, hmost, hmoved, single_cons, hx]
    | greedy | possessive =>
      simp only [rounds]
      rw [greedy, if_neg hmore, single_cons, if_pos hx, hmost, hmoved, hhere]
      dsimp only
      rw [Bool.and_self, if_pos rfl]
      split <;> rename_i hagain <;> exact hagain.symm

/-- So rounds of one character go through the name and end at the brace. -/
theorem rounds_single_eq {name : List Char} (haccepts : ∀ x ∈ name, accepts x = true)
    (hname : '\x7d' ∉ name) (hrest : '\x7d' ∉ rest) (hfuel : name.length < fuel)
    (hleast : least ≤ count + name.length)
    (hmost : most.all (count + name.length ≤ ·) = true) (hlast : last.all (· < position) = true) :
    rounds style (single accepts) least most fuel count last
        ⟨position, before, name ++ '\x7d' :: rest, captures⟩ k =
      k ⟨position + name.length, name.reverse ++ before, '\x7d' :: rest, captures⟩ := by
  induction name generalizing fuel count last position before with
  | nil =>
    obtain ⟨fuel, rfl⟩ := Nat.exists_eq_add_one.mpr hfuel
    exact rounds_brace hk hrest hleast
  | cons x name ih =>
    obtain ⟨fuel, rfl⟩ := Nat.exists_eq_add_one.mpr (Nat.zero_lt_of_lt hfuel)
    obtain ⟨hx, haccepts⟩ := List.forall_mem_cons.mp haccepts
    rw [List.mem_cons, not_or] at hname
    rw [List.length_cons] at hfuel hleast hmost
    have hmay : mayRepeat most count = true := by
      cases most with
      | none => rfl
      | some n =>
        have hn : count + (name.length + 1) ≤ n := by simpa using hmost
        simpa [mayRepeat] using Nat.lt_of_lt_of_le (by omega) hn
    obtain ⟨last', hlast', hround⟩ := rounds_cons hk hx (Ne.symm hname.1) hmay hlast
    rw [List.cons_append, hround, ih haccepts hname.2 (by omega) (by omega)
      (by rwa [Nat.add_right_comm]) hlast']
    simp [Nat.add_assoc, Nat.add_comm 1]

end Rounds

/-! ### A placeholder at the start of a text -/

/-- The rounds of a repetition that is not possessive. -/
theorem matcher_repetition {groups : List (Option Width)} {flags : Flags} {style : Style}
    (hstyle : style ≠ .possessive) {least : Nat} {most : Option Nat} {body : Node} (c : Cursor)
    (k : Rest) :
    (Node.repetition style least most body).matcher groups flags c k =
      rounds style (body.matcher groups flags) least most (least + c.after.length + 2) 0 none c k := by
  cases style with
  | greedy | reluctant => rw [Node.matcher]; rfl
  | possessive => exact absurd rfl hstyle

/-- A character is the one with its code, where case is regarded. -/
theorem matchesCode_iff {flags : Flags} (hcase : flags.ignoreCase = false) {code : Nat} {c : Char} :
    matchesCode flags code c = true ↔ c.toNat = code := by
  simp [matchesCode, hcase]

/-- A single branch is no choice. -/
theorem matcher_alternative {groups : List (Option Width)} {flags : Flags} (n : Node) (c : Cursor)
    (k : Rest) : (Node.alternatives [n]).matcher groups flags c k = n.matcher groups flags c k := by
  rw [Node.matcher, branchMatcher]
  cases n.matcher groups flags c k <;> rfl

/-- The characters around the braces of a pattern, and the group between them. -/
theorem matcher_braced {groups : List (Option Width)} {flags on off : Flags} {body : Node}
    (c : Cursor) (k : Rest) :
    (Node.sequence [.char 0x25, .char 0x7B, .group (some 1) on off body, .char 0x7D]).matcher
        groups flags c k =
      single (matchesCode flags 0x25) c fun c => single (matchesCode flags 0x7B) c fun c =>
        body.matcher groups (flags.within on off) (c.openGroup 1) fun d =>
          single (matchesCode flags 0x7D) (d.closeGroup 1) k := by
  simp only [Node.matcher, sequenceMatcher]

section Placeholder

variable {groups : List (Option Width)} {flags : Flags} {b : Braces} {accepts : Char → Bool}
  (hcase : flags.ignoreCase = false) (hstyle : b.style ≠ .possessive)
  (hitem : b.item.character? (flags.within b.on b.off) = some accepts)

include hcase hstyle hitem

omit hcase in
/-- Between the braces there are rounds of one character. -/
theorem matcher_between (c : Cursor) (k : Rest) :
    (Node.alternatives [.sequence [.repetition b.style b.least b.most b.item]]).matcher groups
        (flags.within b.on b.off) c k =
      rounds b.style (single accepts) b.least b.most (b.least + c.after.length + 2) 0 none c k := by
  rw [matcher_alternative, Node.matcher]
  simp only [sequenceMatcher]
  rw [matcher_repetition hstyle, Node.matcher_of_character? hitem]

omit hstyle hitem in
/-- After them there is a closing brace. -/
theorem closes_brace (k : Rest) :
    Closes fun d => single (matchesCode flags 0x7D) (d.closeGroup 1) k := by
  intro d hd
  show single (matchesCode flags 0x7D) (d.closeGroup 1) k = none
  unfold single
  split
  · rfl
  · rename_i x e hstep
    refine if_neg fun hx => hd ?_
    have hhead : d.after.head? = some x := by
      unfold Cursor.step? at hstep
      split at hstep
      · cases hstep
      · rename_i hafter
        cases hstep
        exact congrArg List.head? hafter
    rw [hhead, Char.toNat_inj.mp ((matchesCode_iff hcase).mp hx : x.toNat = '\x7d'.toNat)]

/-- From a placeholder, the pattern comes to its end, with the name for its capture. -/
theorem matcher_braces {name rest : List Char} {position : Nat} {before : List Char}
    {captures : List Capture} (hslots : 1 < captures.length) (k : Rest)
    (haccepts : ∀ x ∈ name, accepts x = true)
    (hname : '\x7d' ∉ name) (hrest : '\x7d' ∉ rest) (hleast : b.least ≤ name.length)
    (hmost : b.most.all (name.length ≤ ·) = true) :
    b.root.matcher groups flags
        ⟨position, before, '%' :: '\x7b' :: (name ++ '\x7d' :: rest), captures⟩ k =
      k ⟨position + 2 + name.length + 1, '\x7d' :: (name.reverse ++ '\x7b' :: '%' :: before), rest,
        captures.set 1 ⟨some (position + 2), some (position + 2 + name.length)⟩⟩ := by
  have hpercent : matchesCode flags 0x25 '%' = true := (matchesCode_iff hcase).mpr rfl
  have hopening : matchesCode flags 0x7B '\x7b' = true := (matchesCode_iff hcase).mpr rfl
  have hclosing : matchesCode flags 0x7D '\x7d' = true := (matchesCode_iff hcase).mpr rfl
  rw [Braces.root, matcher_alternative, matcher_braced, single_cons, if_pos hpercent, single_cons,
    if_pos hopening, matcher_between hstyle hitem, Cursor.openGroup,
    rounds_single_eq (closes_brace hcase k) haccepts hname hrest]
  · rw [Cursor.closeGroup, single_cons, if_pos hclosing]
    simp [Cursor.capture, hslots]
  · simp; omega
  · simpa using hleast
  · simpa using hmost
  · rfl

/-- Without a closing brace there is no match. -/
theorem matcher_braces_eq_none {c : Cursor} (hc : Unclosed c) (k : Rest) :
    b.root.matcher groups flags c k = none := by
  rw [Braces.root, matcher_alternative, matcher_braced]
  refine Option.eq_none_iff_forall_ne_some.mpr fun r h => ?_
  obtain ⟨d, hd, h⟩ := leads_single_unclosed _ c _ r hc h
  obtain ⟨e, he, h⟩ := leads_single_unclosed _ d _ r hd h
  have hopened : Unclosed (e.openGroup 1) := he
  rw [matcher_between hstyle hitem, rounds_eq_none (closes_brace hcase k) hopened] at h
  cases h

end Placeholder

/-- What the definition says. -/
theorem exists_braces_of_admits {p : Pattern} {name : List Char} (h : p.admits name = true) :
    p.groups = 1 ∧ p.flags.ignoreCase = false ∧ ∃ b accepts, p.root = Braces.root b ∧
      b.style ≠ .possessive ∧ b.least ≤ name.length ∧ b.most.all (name.length ≤ ·) = true ∧
      b.item.character? (p.flags.within b.on b.off) = some accepts ∧
      ∀ c ∈ name, accepts c = true := by
  simp only [admits, Bool.and_eq_true, beq_iff_eq, Bool.not_eq_true', Option.any_eq_true,
    bne_iff_ne, decide_eq_true_eq, List.all_eq_true] at h
  obtain ⟨⟨hgroups, hcase⟩, b, hb, ⟨⟨hstyle, hleast⟩, hmost⟩, accepts, hitem, haccepts⟩ := h
  exact ⟨hgroups, hcase, b, accepts, root_of_braces? hb, hstyle, hleast, hmost, hitem, haccepts⟩

/-- A pattern of the notation finds nothing in a text without a closing brace. -/
theorem captures_eq_nil_of_admits {p : Pattern} {name text : List Char} (h : p.admits name = true)
    (hclosed : '\x7d' ∉ text) : p.captures text = [] := by
  obtain ⟨_, hcase, b, accepts, hroot, hstyle, _, _, hitem, _⟩ := exists_braces_of_admits h
  have hnone : ∀ fresh, findFrom (b.root.matcher p.widths p.flags) false ⟨0, [], text, fresh⟩ text =
      none := fun _ =>
    findFrom_eq_none (fun c k hc => matcher_braces_eq_none hcase hstyle hitem hc k) text false hclosed
  rw [captures, hroot, findAll, hnone]
  rfl

/-- It finds the name of the one placeholder of a text, at its start. -/
theorem captures_of_admits {p : Pattern} {name rest : List Char} (h : p.admits name = true)
    (hname : '\x7d' ∉ name) (hrest : '\x7d' ∉ rest) :
    p.captures ('%' :: '\x7b' :: (name ++ '\x7d' :: rest)) = [some name] := by
  obtain ⟨hgroups, hcase, b, accepts, hroot, hstyle, hleast, hmost, hitem, haccepts⟩ :=
    exists_braces_of_admits h
  let m := b.root.matcher p.widths p.flags
  let fresh : List Capture := List.replicate 2 {}
  let text := '%' :: '\x7b' :: (name ++ '\x7d' :: rest)
  let finish : Cursor := ⟨0 + 2 + name.length + 1, '\x7d' :: (name.reverse ++ ['\x7b', '%']), rest,
    fresh.set 1 ⟨some (0 + 2), some (0 + 2 + name.length)⟩⟩
  have hfirst : findFrom m false ⟨0, [], text, fresh⟩ text = some (⟨0, [], text, fresh⟩, finish) := by
    have hmatch : ∀ k : Rest, m ⟨0, [], text, fresh⟩ k = k finish := fun k =>
      matcher_braces hcase hstyle hitem (by decide) k haccepts hname hrest hleast hmost
    rw [findFrom, hmatch]
    rfl
  -- After it no closing brace is left for another one.
  have hlast : ∀ fuel advance, findAll m fresh fuel advance finish = [] := by
    intro fuel advance
    cases fuel with
    | zero => rfl
    | succ fuel =>
      have hfind : findFrom m advance { finish with captures := fresh } rest = none :=
        findFrom_eq_none (fun c k hc => matcher_braces_eq_none hcase hstyle hitem hc k) rest advance
          hrest
      rw [findAll, hfind]
  have hcaptured : finish.captured? 1 = some name := by
    simp [finish, fresh, Cursor.captured?, Cursor.capture, Capture.span?, Nat.add_comm 1]
  calc p.captures text
      = (findAll m fresh (2 * text.length + 2) false ⟨0, [], text, fresh⟩).map (·.captured? 1) := by
        rw [captures, hgroups, hroot]
    _ = [finish].map (·.captured? 1) := by
        rw [findAll, hfirst]
        dsimp only
        rw [hlast]
    _ = [some name] := by rw [List.map_singleton, hcaptured]

/-- The built-in pattern is of the notation, and lets `count` stand in it. -/
theorem admits_count_of_read_builtIn {p : Pattern}
    (h : Pattern.read "%\\\x7b([^\x7d]+)\\\x7d".toList = .ok p) : p.admits "count".toList = true := by
  have hall : (Pattern.read "%\\\x7b([^\x7d]+)\\\x7d".toList).toOption.all
      (·.admits "count".toList) = true := by decide +kernel
  rw [h] at hall
  exact hall

/-- A name in two pairs of braces is another notation. -/
def doubleBraces : String := "\\\x7b\\\x7b(\\w+)\\\x7d\\\x7d"

/-- It has one group, and finds nothing in a word or in a text of the notation. -/
theorem captures_doubleBraces :
    ((Pattern.read doubleBraces.toList).toOption.any fun p => p.groups == 1 &&
      p.captures "person".toList == [] && p.captures "%\x7bcount\x7d people".toList == []) = true := by
  decide +kernel

end Phrasebook.Pattern
