import Phrasebook.Pattern.Matching
import Phrasebook.Pattern.Reader

namespace Phrasebook.Pattern

/-!
# Groups that take part in every match

A capture group may take no part in a match: it may stand in one of several branches, in a repetition
without rounds, in a negated look-around.

* `Leads` — what holds of the places where a matcher lets the rest go on;
* `leads_greedy`, `leads_reluctant`, `leads_possessive` — an invariant of the rounds of a repetition;
* `Node.opens` — the expression has the group; `Node.leads_of_not_opens` — one that has not leaves its
  capture alone;
* `Node.secures` — the group stands on every way through the expression; `Node.leads_of_secures` — then
  it has matched wherever the expression has;
* `Pattern.isSome_of_mem_captures` — so every match in a text has a text for the group.
-/

/-! ### Where a matcher goes on -/

/-- From places with `P` the matcher goes on at places with `Q` only: what it finds has been found from
    one. -/
def Leads (P : Cursor → Prop) (m : Matcher) (Q : Cursor → Prop) : Prop :=
  ∀ c k r, P c → m c k = some r → ∃ d, Q d ∧ k d = some r

/-- A matcher that goes on at the end is used for the place that it comes to. -/
theorem Leads.apply {P Q : Cursor → Prop} {m : Matcher} (h : Leads P m Q) {c d : Cursor} (hc : P c)
    (hd : m c some = some d) : Q d := by
  obtain ⟨e, he, heq⟩ := h c some d hc hd
  exact Option.some.inj heq ▸ he

variable {m : Matcher} {I : Nat → Cursor → Prop} {least : Nat} {most : Option Nat}

/-- Rounds that take `I n` to `I (n + 1)` leave `I` of their number, which is not too small. -/
theorem leads_greedy (hround : ∀ n, Leads (I n) m (I (n + 1))) (fuel count : Nat)
    (last : Option Nat) :
    Leads (I count) (greedy m least most fuel count last) fun d => ∃ n, least ≤ n ∧ I n d := by
  induction fuel generalizing count last with
  | zero =>
    intro c k r _ h
    cases h
  | succ fuel ih =>
    intro c k r hc h
    rw [greedy] at h
    split at h
    · obtain ⟨d, hd, hrest⟩ := hround count c _ r hc h
      exact ih _ _ d k r hd hrest
    · rename_i henough
      dsimp only at h
      -- One more round is tried first; what it does not find is looked for right here.
      split at h
      · rename_i done hagain
        cases h
        split at hagain
        · obtain ⟨d, hd, hrest⟩ := hround count c _ r hc hagain
          exact ih _ _ d k r hd hrest
        · cases hagain
      · exact ⟨c, ⟨count, Nat.le_of_not_lt henough, hc⟩, h⟩

/-- The same of rounds that are as few as possible. -/
theorem leads_reluctant (hround : ∀ n, Leads (I n) m (I (n + 1))) (fuel count : Nat)
    (last : Option Nat) :
    Leads (I count) (reluctant m least most fuel count last) fun d => ∃ n, least ≤ n ∧ I n d := by
  induction fuel generalizing count last with
  | zero =>
    intro c k r _ h
    cases h
  | succ fuel ih =>
    intro c k r hc h
    rw [reluctant] at h
    split at h
    · obtain ⟨d, hd, hrest⟩ := hround count c _ r hc h
      exact ih _ _ d k r hd hrest
    · rename_i henough
      -- Here it is the other way round.
      split at h
      · rename_i done hdone
        cases h
        exact ⟨c, ⟨count, Nat.le_of_not_lt henough, hc⟩, hdone⟩
      · split at h
        · obtain ⟨d, hd, hrest⟩ := hround count c _ r hc h
          exact ih _ _ d k r hd hrest
        · cases h

/-- The same of rounds that are as many as possible, and no other number. -/
theorem leads_possessive (hround : ∀ n, Leads (I n) m (I (n + 1))) (fuel count : Nat)
    {c d : Cursor} (hc : I count c) (h : possessive m least most fuel count c = some d) :
    ∃ n, least ≤ n ∧ I n d := by
  induction fuel generalizing count c with
  | zero => cases h
  | succ fuel ih =>
    rw [possessive] at h
    split at h
    · split at h
      · rename_i e he
        exact ih _ ((hround count).apply hc he) h
      · cases h
    · rename_i henough
      have hleast := Nat.le_of_not_lt henough
      split at h
      · split at h
        · rename_i e he
          have hnext := (hround count).apply hc he
          split at h
          · cases h
            exact ⟨count + 1, Nat.le_succ_of_le hleast, hnext⟩
          · exact ih _ hnext h
        · cases h
          exact ⟨count, hleast, hc⟩
      · cases h
        exact ⟨count, hleast, hc⟩

/-! ### Captures -/

/-- A group has matched. -/
def Capture.Taken (capture : Capture) : Prop := capture.span?.isSome = true

/-- A place not before `start`, with so many captures, the one of the group `g` satisfying `P`. -/
structure At (g start slots : Nat) (P : Capture → Prop) (c : Cursor) : Prop where
  position : start ≤ c.position
  slots : c.captures.length = slots
  capture : P (c.capture g)

variable {g start slots : Nat} {P : Capture → Prop}

/-- One character on, the captures are the same. -/
theorem At.step {c d : Cursor} {x : Char} (hc : At g start slots P c)
    (h : c.step? = some (x, d)) : At g start slots P d := by
  unfold Cursor.step? at h
  split at h
  · cases h
  · cases h
    exact ⟨Nat.le_succ_of_le hc.position, hc.slots, hc.capture⟩

/-- So many characters back, too. -/
theorem At.back {c d : Cursor} {n : Nat} (hc : At g start slots P c) (h : c.back? n = some d) :
    At g 0 slots P d := by
  unfold Cursor.back? at h
  split at h
  · cases h
    exact ⟨Nat.zero_le _, hc.slots, hc.capture⟩
  · cases h

/-- A single character leads to the next place. -/
theorem leads_single (p : Char → Bool) :
    Leads (At g start slots P) (single p) (At g start slots P) := by
  intro c k r hc h
  unfold single at h
  split at h
  · cases h
  · rename_i x d hstep
    split at h
    · exact ⟨d, hc.step hstep, h⟩
    · cases h

/-- So do several. -/
theorem leads_literally (same : Char → Char → Bool) (text : List Char) :
    Leads (At g start slots P) (literally same text) (At g start slots P) := by
  induction text with
  | nil =>
    intro c k r hc h
    exact ⟨c, hc, h⟩
  | cons x rest ih =>
    intro c k r hc h
    obtain ⟨d, hd, hrest⟩ := leads_single (same x) c _ r hc h
    exact ih d k r hd hrest

/-! ### Expressions made of others -/

section Combinations

variable {groups : List (Option Width)} {flags : Flags} {n yes no body : Node}
  {rest : List Node} {Q : Capture → Prop} {A B C : Cursor → Prop}

theorem leads_sequence (hn : Leads A (n.matcher groups flags) B)
    (hrest : Leads B (sequenceMatcher groups flags rest) C) :
    Leads A (sequenceMatcher groups flags (n :: rest)) C := by
  intro c k r hc h
  rw [sequenceMatcher] at h
  obtain ⟨d, hd, hnext⟩ := hn c _ r hc h
  exact hrest d k r hd hnext

theorem leads_branch (hn : Leads A (n.matcher groups flags) B)
    (hrest : Leads A (branchMatcher groups flags rest) B) :
    Leads A (branchMatcher groups flags (n :: rest)) B := by
  intro c k r hc h
  rw [branchMatcher] at h
  split at h
  · rename_i done hdone
    cases h
    exact hn c k r hc hdone
  · exact hrest c k r hc h

theorem leads_atomic (hbody : Leads A (body.matcher groups flags) B) :
    Leads A ((Node.atomic body).matcher groups flags) B := by
  intro c k r hc h
  rw [Node.matcher] at h
  split at h
  · rename_i d hd
    exact ⟨d, hbody.apply hc hd, h⟩
  · cases h

/-- A repetition leads to what holds after a number of rounds that is not too small. -/
theorem leads_repetition {style : Style}
    (hround : ∀ n, Leads (I n) (body.matcher groups flags) (I (n + 1))) :
    Leads (I 0) ((Node.repetition style least most body).matcher groups flags)
      fun d => ∃ n, least ≤ n ∧ I n d := by
  intro c k r hc h
  cases style with
  | greedy =>
    rw [Node.matcher] at h
    exact leads_greedy hround _ 0 none c k r hc h
  | reluctant =>
    rw [Node.matcher] at h
    exact leads_reluctant hround _ 0 none c k r hc h
  | possessive =>
    rw [Node.matcher] at h
    split at h
    · rename_i d hd
      exact ⟨d, leads_possessive hround _ 0 hc hd, h⟩
    · cases h

theorem leads_conditional {g' : Nat} (hyes : Leads A (yes.matcher groups flags) B)
    (hno : Leads A (no.matcher groups flags) B) :
    Leads A ((Node.conditional g' yes no).matcher groups flags) B := by
  intro c k r hc h
  rw [Node.matcher] at h
  split at h
  · exact hyes c k r hc h
  · exact hno c k r hc h

/-- Looking ahead or behind keeps the captures made there, if it has to match. -/
theorem leads_look {behind negated : Bool}
    (hbody : Leads (At g 0 slots P) (body.matcher groups flags) (At g 0 slots Q))
    (hnegated : negated = true → ∀ capture, P capture → Q capture) :
    Leads (At g start slots P) ((Node.look behind negated body).matcher groups flags)
      (At g start slots Q) := by
  intro c k r hc h
  rw [Node.matcher] at h
  unfold lookFrom at h
  split at h
  · rename_i found hfound
    obtain ⟨d, hd, hfound⟩ := Option.bind_eq_some_iff.mp hfound
    have hback : At g 0 slots P d := by
      split at hd
      · exact hc.back hd
      · cases hd
        exact ⟨Nat.zero_le _, hc.slots, hc.capture⟩
    have hplace := hbody.apply hback hfound
    -- The captures made there are taken over, the place is not.
    split at h
    · cases h
    · exact ⟨{ c with captures := found.captures },
        ⟨hc.position, hplace.slots, hplace.capture⟩, h⟩
  · split at h
    · rename_i hneg
      exact ⟨c, ⟨hc.position, hc.slots, hnegated hneg _ hc.capture⟩, h⟩
    · cases h

/-- Opening or closing another group leaves the capture of this one alone. -/
theorem At.set {g' : Nat} (hne : g' ≠ g) {c : Cursor} (hc : At g start slots P c)
    (capture : Capture) : At g start slots P { c with captures := c.captures.set g' capture } := by
  refine ⟨hc.position, by simpa using hc.slots, ?_⟩
  have hsame : Cursor.capture { c with captures := c.captures.set g' capture } g = c.capture g := by
    simp [Cursor.capture, List.getElem?_set_ne hne]
  rw [hsame]
  exact hc.capture

theorem leads_group_of_ne {capture : Option Nat} (hne : capture ≠ some g) {on off : Flags}
    (hbody : Leads (At g start slots P) (body.matcher groups (flags.within on off))
      (At g start slots Q)) :
    Leads (At g start slots P) ((Node.group capture on off body).matcher groups flags)
      (At g start slots Q) := by
  intro c k r hc h
  cases capture with
  | none =>
    rw [Node.matcher] at h
    exact hbody c k r hc h
  | some g' =>
    rw [Node.matcher] at h
    have hg' : g' ≠ g := fun heq => hne (congrArg some heq)
    obtain ⟨d, hd, hrest⟩ := hbody _ _ r (hc.set hg' _) h
    exact ⟨_, hd.set hg' _, hrest⟩

/-- A group that its body does not open again has matched when it is closed. -/
theorem leads_group_self (hslots : g < slots) {on off : Flags}
    (hbody : ∀ start capture, Leads (At g start slots (· = capture))
      (body.matcher groups (flags.within on off)) (At g start slots (· = capture))) :
    Leads (At g start slots P) ((Node.group (some g) on off body).matcher groups flags)
      (At g start slots Capture.Taken) := by
  intro c k r hc h
  rw [Node.matcher] at h
  have hopened : At g c.position slots (· = { c.capture g with start := some c.position })
      (c.openGroup g) := by
    refine ⟨Nat.le_refl _, by simpa [Cursor.openGroup] using hc.slots, ?_⟩
    simp [Cursor.openGroup, Cursor.capture, hc.slots, hslots]
  -- The body leaves the start alone, so the end is not set before it.
  obtain ⟨d, hd, hrest⟩ := hbody _ _ _ _ r hopened h
  refine ⟨d.closeGroup g, ⟨Nat.le_trans hc.position hd.position, ?_, ?_⟩, hrest⟩
  · simpa [Cursor.closeGroup] using hd.slots
  · have hstart : (d.capture g).start = some c.position := by rw [hd.capture]
    have hclosed : (d.closeGroup g).capture g = ⟨some c.position, some d.position⟩ := by
      simp [Cursor.closeGroup, Cursor.capture, hd.slots, hslots, ← hstart]
    rw [hclosed]
    simp [Capture.Taken, Capture.span?, hd.position]

end Combinations

/-! ### Expressions without a group -/

mutual

/-- Whether an expression has a capture group. -/
def Node.opens (g : Nat) : Node → Bool
  | .char _ | .notChar _ | .any | .set .. | .anchor _ | .reference _ => false
  | .sequence parts => anyOpens g parts
  | .alternatives branches => anyOpens g branches
  | .group capture _ _ body => capture == some g || body.opens g
  | .atomic body => body.opens g
  | .repetition _ _ _ body => body.opens g
  | .conditional _ yes no => yes.opens g || no.opens g
  | .look _ _ body => body.opens g
termination_by structural n => n

/-- Whether one of some expressions has it. -/
def anyOpens (g : Nat) : List Node → Bool
  | [] => false
  | n :: rest => n.opens g || anyOpens g rest
termination_by structural n => n

end

variable {groups : List (Option Width)}

mutual

/-- An expression without the group leaves its capture alone. -/
theorem Node.leads_of_not_opens (n : Node) (hfree : n.opens g = false) (flags : Flags)
    (start : Nat) :
    Leads (At g start slots P) (n.matcher groups flags) (At g start slots P) := by
  match n with
  | .char code => exact leads_single _
  | .notChar code => exact leads_single _
  | .any => exact leads_single _
  | .set negated items => exact leads_single _
  | .anchor place =>
    intro c k r hc h
    rw [Node.matcher] at h
    split at h
    · exact ⟨c, hc, h⟩
    · cases h
  | .sequence parts =>
    rw [Node.opens] at hfree
    exact sequence_leads_of_not_opens parts hfree flags start
  | .alternatives branches =>
    rw [Node.opens] at hfree
    exact branch_leads_of_not_opens branches hfree flags start
  | .group capture on off body =>
    rw [Node.opens, Bool.or_eq_false_iff] at hfree
    exact leads_group_of_ne (by simpa using hfree.1) (body.leads_of_not_opens hfree.2 _ start)
  | .atomic body =>
    rw [Node.opens] at hfree
    exact leads_atomic (body.leads_of_not_opens hfree flags start)
  | .repetition style least most body =>
    rw [Node.opens] at hfree
    intro c k r hc h
    obtain ⟨d, ⟨_, _, hd⟩, hrest⟩ :=
      leads_repetition (fun _ => body.leads_of_not_opens hfree flags start) c k r hc h
    exact ⟨d, hd, hrest⟩
  | .reference g' =>
    intro c k r hc h
    rw [Node.matcher] at h
    split at h
    · exact leads_literally _ _ c k r hc h
    · cases h
  | .conditional g' yes no =>
    rw [Node.opens, Bool.or_eq_false_iff] at hfree
    exact leads_conditional (yes.leads_of_not_opens hfree.1 flags start)
      (no.leads_of_not_opens hfree.2 flags start)
  | .look behind negated body =>
    rw [Node.opens] at hfree
    exact leads_look (body.leads_of_not_opens hfree flags 0) fun _ _ h => h
termination_by structural n

/-- Nor do several, one after another, do anything to it. -/
theorem sequence_leads_of_not_opens (parts : List Node) (hfree : anyOpens g parts = false)
    (flags : Flags) (start : Nat) :
    Leads (At g start slots P) (sequenceMatcher groups flags parts) (At g start slots P) := by
  match parts with
  | [] => exact fun c k r hc h => ⟨c, hc, h⟩
  | n :: rest =>
    rw [anyOpens, Bool.or_eq_false_iff] at hfree
    exact leads_sequence (n.leads_of_not_opens hfree.1 flags start)
      (sequence_leads_of_not_opens rest hfree.2 flags start)
termination_by structural parts

/-- Nor does one of several. -/
theorem branch_leads_of_not_opens (branches : List Node) (hfree : anyOpens g branches = false)
    (flags : Flags) (start : Nat) :
    Leads (At g start slots P) (branchMatcher groups flags branches) (At g start slots P) := by
  match branches with
  | [] => exact fun c k r hc h => by cases h
  | n :: rest =>
    rw [anyOpens, Bool.or_eq_false_iff] at hfree
    exact leads_branch (n.leads_of_not_opens hfree.1 flags start)
      (branch_leads_of_not_opens rest hfree.2 flags start)
termination_by structural branches

end

/-! ### Expressions that secure a group -/

mutual

/-- Whether a group stands on every way through an expression, and is opened once on each. -/
def Node.secures (g : Nat) : Node → Bool
  | .char _ | .notChar _ | .any | .set .. | .anchor _ | .reference _ => false
  | .sequence parts => anySecures g parts
  | .alternatives branches => allSecure g branches
  | .group capture _ _ body => if capture = some g then !body.opens g else body.secures g
  | .atomic body => body.secures g
  | .repetition _ least _ body => 0 < least && body.secures g
  | .conditional _ yes no => yes.secures g && no.secures g
  | .look _ negated body => !negated && body.secures g
termination_by structural n => n

/-- Whether one of some expressions secures it, and no other has the group. -/
def anySecures (g : Nat) : List Node → Bool
  | [] => false
  | n :: rest =>
    (n.secures g && !anyOpens g rest) || (!n.opens g && anySecures g rest)
termination_by structural n => n

/-- Whether each of some expressions secures it. -/
def allSecure (g : Nat) : List Node → Bool
  | [] => true
  | n :: rest => n.secures g && allSecure g rest
termination_by structural n => n

end

mutual

/-- Where an expression that secures a group has matched, the group has. -/
theorem Node.leads_of_secures (n : Node) (hsecure : n.secures g = true) (hslots : g < slots)
    (flags : Flags) (start : Nat) :
    Leads (At g start slots fun _ => True) (n.matcher groups flags)
      (At g start slots Capture.Taken) := by
  match n with
  | .sequence parts =>
    rw [Node.secures] at hsecure
    exact sequence_leads_of_secures parts hsecure hslots flags start
  | .alternatives branches =>
    rw [Node.secures] at hsecure
    exact branch_leads_of_secures branches hsecure hslots flags start
  | .group capture on off body =>
    rw [Node.secures] at hsecure
    split at hsecure
    · rename_i hself
      subst hself
      rw [Bool.not_eq_true'] at hsecure
      -- The body does not open the group again, so the capture made at its end stays.
      exact leads_group_self hslots fun start capture => body.leads_of_not_opens hsecure _ start
    · rename_i hne
      exact leads_group_of_ne hne (body.leads_of_secures hsecure hslots _ start)
  | .atomic body =>
    rw [Node.secures] at hsecure
    exact leads_atomic (body.leads_of_secures hsecure hslots flags start)
  | .repetition style least most body =>
    rw [Node.secures, Bool.and_eq_true, decide_eq_true_eq] at hsecure
    -- After any round the group has matched; before the first one nothing is known.
    let I (n : Nat) : Cursor → Prop := At g start slots fun capture => 0 < n → capture.Taken
    have hround : ∀ n, Leads (I n) (body.matcher groups flags) (I (n + 1)) := by
      intro n c k r hc h
      obtain ⟨d, hd, hrest⟩ := body.leads_of_secures hsecure.2 hslots flags start c k r
        ⟨hc.position, hc.slots, trivial⟩ h
      exact ⟨d, ⟨hd.position, hd.slots, fun _ => hd.capture⟩, hrest⟩
    intro c k r hc h
    obtain ⟨d, ⟨n, hn, hd⟩, hrest⟩ := leads_repetition hround c k r
      ⟨hc.position, hc.slots, fun h => absurd h (Nat.lt_irrefl 0)⟩ h
    exact ⟨d, ⟨hd.position, hd.slots, hd.capture (Nat.lt_of_lt_of_le hsecure.1 hn)⟩, hrest⟩
  | .conditional g' yes no =>
    rw [Node.secures, Bool.and_eq_true] at hsecure
    exact leads_conditional (yes.leads_of_secures hsecure.1 hslots flags start)
      (no.leads_of_secures hsecure.2 hslots flags start)
  | .look behind negated body =>
    rw [Node.secures, Bool.and_eq_true, Bool.not_eq_true'] at hsecure
    refine leads_look (body.leads_of_secures hsecure.2 hslots flags 0) fun hnegated => ?_
    rw [hsecure.1] at hnegated
    cases hnegated
  | .char _ | .notChar _ | .any | .set .. | .anchor _ | .reference _ =>
    cases hsecure
termination_by structural n

/-- One of several, one after another, is enough. -/
theorem sequence_leads_of_secures (parts : List Node) (hsecure : anySecures g parts = true)
    (hslots : g < slots) (flags : Flags) (start : Nat) :
    Leads (At g start slots fun _ => True) (sequenceMatcher groups flags parts)
      (At g start slots Capture.Taken) := by
  match parts with
  | [] => cases hsecure
  | n :: rest =>
    simp only [anySecures, Bool.or_eq_true, Bool.and_eq_true, Bool.not_eq_true'] at hsecure
    rcases hsecure with ⟨hn, hfree⟩ | ⟨hfree, hrest⟩
    · exact leads_sequence (n.leads_of_secures hn hslots flags start)
        (sequence_leads_of_not_opens rest hfree flags start)
    · exact leads_sequence (n.leads_of_not_opens hfree flags start)
        (sequence_leads_of_secures rest hrest hslots flags start)
termination_by structural parts

/-- Of several branches, all have to. -/
theorem branch_leads_of_secures (branches : List Node) (hsecure : allSecure g branches = true)
    (hslots : g < slots) (flags : Flags) (start : Nat) :
    Leads (At g start slots fun _ => True) (branchMatcher groups flags branches)
      (At g start slots Capture.Taken) := by
  match branches with
  | [] => exact fun c k r hc h => by cases h
  | n :: rest =>
    rw [allSecure, Bool.and_eq_true] at hsecure
    exact leads_branch (n.leads_of_secures hsecure.1 hslots flags start)
      (branch_leads_of_secures rest hsecure.2 hslots flags start)
termination_by structural branches

end

/-! ### Matches in a text -/

/-- What is found at a place or after it is where a matcher has gone on. -/
theorem taken_of_findFrom (h : Leads (At g 0 slots fun _ => True) m (At g 0 slots Capture.Taken))
    (text : List Char) (advance : Bool) {c : Cursor} (hc : At g 0 slots (fun _ => True) c)
    {s d : Cursor} (hfound : findFrom m advance c text = some (s, d)) :
    At g 0 slots Capture.Taken d := by
  -- The place that the matcher goes on at is the end of the match itself.
  have hmatch : ∀ {c' : Cursor} {advance' : Bool}, At g 0 slots (fun _ => True) c' →
      (m c' fun d => if advance' && d.position == c'.position then none else some d) = some d →
        At g 0 slots Capture.Taken d := by
    intro c' advance' hc' hm
    obtain ⟨e, he, hend⟩ := h c' _ d hc' hm
    split at hend
    · cases hend
    · exact Option.some.inj hend ▸ he
  induction text generalizing c advance with
  | nil =>
    rw [findFrom] at hfound
    obtain ⟨e, he, heq⟩ := Option.map_eq_some_iff.mp hfound
    cases heq
    exact hmatch hc he
  | cons x rest ih =>
    rw [findFrom] at hfound
    split at hfound
    · rename_i e he
      cases hfound
      exact hmatch hc he
    · split at hfound
      · rename_i next hstep
        exact ih false (hc.step hstep) hfound
      · cases hfound

/-- So are all matches from a place on. -/
theorem taken_of_mem_findAll
    (h : Leads (At g 0 slots fun _ => True) m (At g 0 slots Capture.Taken))
    {fresh : List Capture} (hfresh : fresh.length = slots) (fuel : Nat) (advance : Bool)
    (c : Cursor) : ∀ d ∈ findAll m fresh fuel advance c, At g 0 slots Capture.Taken d := by
  induction fuel generalizing advance c with
  | zero =>
    intro d hd
    cases hd
  | succ fuel ih =>
    intro d hd
    rw [findAll] at hd
    split at hd
    · cases hd
    · rename_i s finish hfound
      rcases List.mem_cons.mp hd with rfl | hd
      · exact taken_of_findFrom h _ _ ⟨Nat.zero_le _, hfresh, trivial⟩ hfound
      · exact ih _ _ d hd

/-- **A pattern that secures its group captures something in every match.** -/
theorem isSome_of_mem_captures {p : Pattern} (hgroups : p.groups = 1)
    (hsecure : p.root.secures 1 = true) {text : List Char} :
    ∀ capture ∈ p.captures text, capture.isSome = true := by
  intro capture hcapture
  unfold captures at hcapture
  obtain ⟨d, hd, rfl⟩ := List.mem_map.mp hcapture
  have hleads : Leads (At 1 0 (p.groups + 1) fun _ => True) (p.root.matcher p.widths p.flags)
      (At 1 0 (p.groups + 1) Capture.Taken) :=
    p.root.leads_of_secures hsecure (by omega) p.flags 0
  have htaken := (taken_of_mem_findAll hleads (List.length_replicate ..) _ _ _ d hd).capture
  unfold Cursor.captured?
  rw [Option.isSome_map]
  exact htaken

/-- The built-in pattern secures its group. -/
theorem secures_of_read_builtIn {p : Pattern}
    (h : Pattern.read "%\\\x7b([^\x7d]+)\\\x7d".toList = .ok p) : p.root.secures 1 = true := by
  have hall : (Pattern.read "%\\\x7b([^\x7d]+)\\\x7d".toList).toOption.all
      (·.root.secures 1) = true := by decide +kernel
  rw [h] at hall
  exact hall

/-- A group in one of two branches is not secured. -/
example : (Pattern.read "a|(b)".toList).toOption.any (·.root.secures 1) = false := by
  decide +kernel

end Phrasebook.Pattern
