import Phrasebook.Proofs.Yaml.HandOut
import Phrasebook.Proofs.Yaml.Places
import Phrasebook.Yaml.Node

namespace Phrasebook.Yaml

/-!
# The stream of tokens

The lexer reads ahead as far as it must, to find out whether a token becomes a key.  To whoever asks
for tokens this does not show: they get the tokens that are there when all of the text has been
read, in order.

* `Lexer.Steady` — candidates for keys are optional and belong to tokens not handed out yet;
* `Lexer.Yields` — the tokens that are there in the end;
* `Lexer.Yields.exists_prepare` — reading ahead ends, and the first token is the first of those;
* `Reader.Reads`, `Reader.reads_peek`, `Reader.reads_skip` — so is the token that a reader of nodes
  sees, and goes past.
-/

namespace Lexer

open Cursor

/-- The next token is reached by going on. -/
theorem reaches_toNextToken (x : Lexer) : Reaches x.cursor x.toNextToken.cursor := by
  have hmark : Reaches x.cursor
      (if x.cursor.index == 0 && x.cursor.head? == some '\uFEFF' then x.cursor.step
        else x.cursor) := by
    split
    · exact reaches_step _
    · exact .refl _
  refine hmark.trans ?_
  unfold toNextToken
  exact reaches_skipBlanks _ _ _

/-! ### Candidates -/

/-- Candidates for keys are optional, start at tokens that have not been handed out, and are on no
    later line than the cursor. -/
def Steady (x : Lexer) : Prop :=
  ∀ e ∈ x.candidates,
    e.2.required = false ∧ x.taken ≤ e.2.number ∧ e.2.line ≤ x.cursor.line

/-- The lexer without the candidates that are over. -/
def fresh (x : Lexer) : Lexer :=
  { x with candidates := x.candidates.filter fun e => !x.isStale e.2 }

/-- Optional candidates are dropped without a fault. -/
theorem Steady.dropStale_eq {x : Lexer} (hx : Steady x) : x.dropStale = .ok x.fresh := by
  unfold dropStale
  refine if_neg ?_
  rw [List.any_eq_true]
  rintro ⟨e, he, hstale⟩
  rw [(hx e he).1, Bool.and_false] at hstale
  cases hstale

theorem Steady.fresh {x : Lexer} (hx : Steady x) : Steady x.fresh :=
  fun e he => hx e (List.mem_filter.mp he).1

/-- A candidate that is over stays so. -/
theorem isStale_of_reaches {x y : Lexer} (h : Reaches x.cursor y.cursor) {k : Candidate}
    (hline : k.line ≤ x.cursor.line) (hstale : x.isStale k = true) : y.isStale k = true := by
  obtain ⟨n, hn⟩ := h
  have hlines := line_le_skip n x.cursor
  have hindices := index_le_skip n x.cursor
  unfold isStale at hstale ⊢
  rw [hn]
  simp only [Bool.or_eq_true, bne_iff_ne, decide_eq_true_eq] at hstale ⊢
  omega

/-- Going to the next token keeps a lexer steady. -/
theorem Steady.toNextToken {x : Lexer} (hx : Steady x) : Steady x.toNextToken := by
  intro e he
  obtain ⟨hrequired, hnumber, hline⟩ := hx e he
  obtain ⟨n, hn⟩ := reaches_toNextToken x
  refine ⟨hrequired, hnumber, ?_⟩
  rw [hn]
  exact Nat.le_trans hline (line_le_skip n x.cursor)

/-- Dropping candidates early makes no difference to the next token. -/
theorem Steady.advance_fresh {x : Lexer} (hx : Steady x) : x.fresh.advance = x.advance := by
  have hsame : x.fresh.toNextToken.fresh = x.toNextToken.fresh := by
    show { x.toNextToken with
        candidates := (x.candidates.filter fun e => !x.isStale e.2).filter fun e =>
          !x.toNextToken.isStale e.2 } = x.toNextToken.fresh
    have hfilter : ((x.candidates.filter fun e => !x.isStale e.2).filter fun e =>
        !x.toNextToken.isStale e.2) =
        x.candidates.filter fun e => !x.toNextToken.isStale e.2 := by
      rw [List.filter_filter]
      refine List.filter_congr fun e he => ?_
      cases hstale : x.isStale e.2 with
      | true => simp [isStale_of_reaches (reaches_toNextToken x) (hx e he).2.2 hstale]
      | false => simp
    rw [hfilter]
    rfl
  rw [advance_eq, advance_eq, hx.fresh.toNextToken.dropStale_eq, hx.toNextToken.dropStale_eq,
    hsame]

/-! ### What is there in the end -/

/-- A bound on the number of tokens still to be read. -/
def left (x : Lexer) : Nat := if x.finished then 0 else x.cursor.ahead.length + 1

/-- A token is read, and what is left gets less. -/
structure Moves (x y : Lexer) : Prop where
  unfinished : x.finished = false
  advance : x.advance = .ok y
  steady : Steady y
  shorter : y.left < x.left

/-- The tokens that are pending when all of the text has been read. -/
inductive Yields : Lexer → List Token → Prop where
  | done {x : Lexer} {ts : List Token} (hfinished : x.finished = true)
      (hcandidates : x.candidates = []) (hpending : x.pending = ts) : Yields x ts
  | move {x y : Lexer} {ts : List Token} (hmove : Moves x y) (hy : Yields y ts) : Yields x ts

/-- A lexer yields the same without the candidates that are over. -/
theorem Yields.fresh {x : Lexer} {ts : List Token} (h : Yields x ts) (hx : Steady x)
    (hunfinished : x.finished = false) : Yields x.fresh ts := by
  cases h with
  | done hfinished =>
    rw [hfinished] at hunfinished
    cases hunfinished
  | move hmove hy =>
    exact .move ⟨hunfinished, hx.advance_fresh.trans hmove.advance, hmove.steady, hmove.shorter⟩ hy

/-- A token that is final is the first, and the others are yielded after it. -/
theorem Yields.pop {x : Lexer} {ts : List Token} (h : Yields x ts) (hx : Releases x) :
    x.pending.head? = ts.head? ∧ Yields x.pop (ts.drop 1) := by
  induction h with
  | done hfinished hcandidates hpending =>
    exact ⟨by rw [hpending], .done hfinished hcandidates (congrArg (·.drop 1) hpending)⟩
  | move hmove hy ih =>
    obtain ⟨hreleases, hhead, hpop⟩ := indifferent_advance hx hmove.advance
    obtain ⟨hfirst, hothers⟩ := ih hreleases
    refine ⟨hhead.symm.trans hfirst, .move ⟨hmove.unfinished, hpop, ?_, hmove.shorter⟩ hothers⟩
    intro e he
    obtain ⟨hrequired, -, hline⟩ := hmove.steady e he
    exact ⟨hrequired, hreleases.later e he, hline⟩

/-- Once it is decided what the first token is, no candidate stands for it. -/
theorem Steady.releases_of_decided {x : Lexer} (hx : Steady x) (h : x.isUndecided = false) :
    Releases x := by
  obtain ⟨hempty, hnot⟩ := Bool.or_eq_false_iff.mp h
  refine ⟨fun hnil => ?_, fun e he => ?_⟩
  · rw [hnil] at hempty
    cases hempty
  · rw [List.any_eq_false] at hnot
    have hne := hnot e he
    have hle := (hx e he).2.1
    rw [beq_iff_eq] at hne
    omega

/-- Reading ahead ends with a token that is final, if there is one, and changes nothing in what is
    yielded. -/
theorem Yields.exists_prepareWith {fuel : Nat} {x : Lexer} {ts : List Token} (h : Yields x ts)
    (hx : Steady x) (hfuel : x.left < fuel) :
    ∃ y, prepareWith fuel x = .ok y ∧ Steady y ∧ Yields y ts ∧
      (y.finished = true ∨ Releases y) := by
  induction fuel generalizing x with
  | zero => exact absurd hfuel (Nat.not_lt_zero _)
  | succ fuel ih =>
    unfold prepareWith
    cases hfinished : x.finished with
    | true => exact ⟨x, rfl, hx, h, .inl hfinished⟩
    | false =>
      rw [if_neg Bool.false_ne_true]
      cases hempty : x.pending.isEmpty with
      | true =>
        cases h with
        | done hdone =>
          rw [hdone] at hfinished
          cases hfinished
        | move hmove hy =>
          rw [if_pos rfl, hmove.advance]
          exact ih hy hmove.steady (by have := hmove.shorter; omega)
      | false =>
        rw [if_neg Bool.false_ne_true, hx.dropStale_eq]
        show ∃ y, (if x.fresh.isUndecided then x.fresh.advance >>= prepareWith fuel
          else pure x.fresh) = .ok y ∧ _
        have hfresh := h.fresh hx hfinished
        cases hundecided : x.fresh.isUndecided with
        | true =>
          cases hfresh with
          | done hdone =>
            rw [show x.fresh.finished = x.finished from rfl, hfinished] at hdone
            cases hdone
          | move hmove hy =>
            rw [if_pos rfl, hmove.advance]
            exact ih hy hmove.steady (by
              have := hmove.shorter
              have hleft : x.fresh.left = x.left := rfl
              omega)
        | false =>
          rw [if_neg Bool.false_ne_true]
          exact ⟨x.fresh, rfl, hx.fresh, hfresh, .inr (hx.fresh.releases_of_decided hundecided)⟩

/-- The same with the fuel that is there. -/
theorem Yields.exists_prepare {x : Lexer} {t : Token} {ts : List Token} (h : Yields x (t :: ts))
    (hx : Steady x) :
    ∃ y, x.prepare = .ok y ∧ Steady y ∧ Yields y (t :: ts) ∧ y.head = t ∧ Steady y.pop ∧
      Yields y.pop ts := by
  have hfuel : x.left < x.cursor.ahead.length + 2 := by
    unfold left
    split <;> omega
  obtain ⟨y, hprepare, hsteady, hyields, hend⟩ := h.exists_prepareWith hx hfuel
  refine ⟨y, hprepare, hsteady, hyields, ?_⟩
  rcases hend with hfinished | hreleases
  · cases hyields with
    | done _ hcandidates hpending =>
      refine ⟨?_, ?_, .done hfinished hcandidates (congrArg (·.drop 1) hpending)⟩
      · unfold head
        rw [hpending]
        rfl
      · intro e he
        rw [show y.pop.candidates = [] from hcandidates] at he
        cases he
    | move hmove _ =>
      rw [hmove.unfinished] at hfinished
      cases hfinished
  · obtain ⟨hfirst, hothers⟩ := hyields.pop hreleases
    refine ⟨?_, fun e he => ?_, hothers⟩
    · unfold head
      rw [hfirst]
      rfl
    · obtain ⟨hrequired, -, hline⟩ := hsteady e he
      exact ⟨hrequired, hreleases.later e he, hline⟩

end Lexer

/-! ### Readers of nodes -/

namespace Reader

/-- The tokens ahead of a reader that has met no anchors. -/
def Delivers (r : Reading) (ts : List Token) : Prop :=
  r.lexer.Steady ∧ r.lexer.Yields ts ∧ r.anchors = []

/-- A reader gives a result, and goes from some tokens to those after them. -/
def Reads {α : Type} (m : Reader α) (ts : List Token) (a : α) (after : List Token) : Prop :=
  ∀ r, Delivers r ts → ∃ r', m.run r = .ok (a, r') ∧ Delivers r' after

/-- A result without reading. -/
theorem reads_pure {α : Type} (a : α) (ts : List Token) : Reads (pure a) ts a ts :=
  fun r hr => ⟨r, rfl, hr⟩

/-- Readers one after the other. -/
theorem Reads.bind {α β : Type} {m : Reader α} {f : α → Reader β} {ts us vs : List Token} {a : α}
    {b : β} (hm : Reads m ts a us) (hf : Reads (f a) us b vs) : Reads (m >>= f) ts b vs := by
  intro r hr
  obtain ⟨r', hrun, hr'⟩ := hm r hr
  obtain ⟨r'', hrun', hr''⟩ := hf r' hr'
  refine ⟨r'', ?_, hr''⟩
  rw [StateT.run_bind, hrun]
  exact hrun'

/-- The next token is the first one. -/
theorem reads_peek (t : Token) (ts : List Token) : Reads peek (t :: ts) t (t :: ts) := by
  intro r ⟨hsteady, hyields, hanchors⟩
  obtain ⟨y, hprepare, hy, hyields', hhead, -, -⟩ := hyields.exists_prepare hsteady
  refine ⟨{ r with lexer := y }, ?_, hy, hyields', hanchors⟩
  simp only [peek, StateT.run_bind, StateT.run_get, pure_bind, StateT.run_monadLift, hprepare]
  rw [← hhead]
  rfl

/-- Going past it leaves the others. -/
theorem reads_skip (t : Token) (ts : List Token) : Reads skip (t :: ts) () ts := by
  intro r ⟨hsteady, hyields, hanchors⟩
  obtain ⟨y, hprepare, -, -, -, hy, hothers⟩ := hyields.exists_prepare hsteady
  refine ⟨{ r with lexer := y.pop }, ?_, hy, hothers, hanchors⟩
  simp only [skip, peek, StateT.run_bind, StateT.run_get, pure_bind, StateT.run_monadLift, hprepare]
  rfl

/-- Handles of tags have nothing to do with the tokens ahead. -/
theorem reads_setHandles (handles : List (List Char × List Char)) (ts : List Token) :
    Reads (modify fun r => { r with handles := handles }) ts () ts :=
  fun r hr => ⟨{ r with handles := handles }, rfl, hr⟩

end Reader

end Phrasebook.Yaml
