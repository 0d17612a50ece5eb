import Mathlib.Logic.Relation
import Phrasebook.Proofs.Yaml.Numbers
import Phrasebook.Proofs.Yaml.Scalars
import Phrasebook.Proofs.Yaml.Stream

namespace Phrasebook.Yaml

/-!
# The tokens of a text in JSON

Brackets and braces, commas and colons are the indicators of flow collections, so a text in JSON is
cut into tokens as one expects, if its names are short enough and on one line with their colons.

* `portable` — the ways to write JSON that mean the same here;
* `Lexer.Before` — a lexer in front of a text inside flow collections;
* `tokens` — the tokens of a form.
-/

open Cursor
open Json (Piece Numeral Name Form Items Members)

/-- The rules for what means the same here: spaces and line feeds are the only blanks, names are
    short and stand before their colons, and there are no numbers that are not finite. -/
def portable : Json.Rules where
  blank := isPlainBlank
  name := fun pieces after =>
    Piece.areSound pieces && pieces.all isPortable && after.all (· == ' ') &&
      decide ((Piece.writtenAll pieces).length + 2 + after.length ≤ 1024)
  word := fun i => i.val < 3
  number := isPortableNumber
  text := fun pieces => Piece.areSound pieces && pieces.all isPortable

/-- They allow no more than JSON does. -/
theorem portable_within_sound : portable.Within .sound where
  blank := by
    intro c h
    rcases isPlainBlank_iff.mp h with rfl | rfl <;> rfl
  name := by
    intro pieces after h
    simp only [portable, Bool.and_eq_true] at h
    have hblanks : after.all Json.isBlank = true := by
      have hspaces := h.1.2
      rw [List.all_eq_true] at hspaces ⊢
      intro b hb
      rw [beq_iff_eq.mp (hspaces b hb)]
      rfl
    simp only [Json.Rules.sound, h.1.1.1, hblanks, Bool.and_self]
  word := fun _ _ => rfl
  number := fun _ h => (Bool.and_eq_true_iff.mp h).1
  text := fun _ h => (Bool.and_eq_true_iff.mp h).1

namespace Lexer

/-! ### In front of a text -/

/-- A lexer that is in front of a text, but for blanks, and inside of no block. -/
structure Before (x : Lexer) (flow : Nat) (pending : List Token) (text : List Char) : Prop where
  unfinished : x.finished = false
  steady : Steady x
  indent : x.indent = -1
  outer : x.outer = []
  flow : x.flow = flow
  pending : x.pending = pending
  ahead : ∃ blanks, blanks.all isPlainBlank = true ∧ x.cursor.ahead = blanks ++ text

/-- Blanks that come first do not matter. -/
theorem Before.of_blanks {x : Lexer} {flow : Nat} {pending : List Token} {blanks text : List Char}
    (hx : Before x flow pending (blanks ++ text)) (h : blanks.all isPlainBlank = true) :
    Before x flow pending text := by
  obtain ⟨more, hmore, hahead⟩ := hx.ahead
  refine { hx with ahead := ⟨more ++ blanks, ?_, ?_⟩ }
  · rw [List.all_append, hmore, h]
    rfl
  · rw [hahead, List.append_assoc]

/-- The lexer at its next token, without the candidates that are over. -/
def atToken (x : Lexer) : Lexer := x.toNextToken.fresh

/-- Without a byte order mark blanks alone are passed over. -/
theorem cursor_toNextToken {x : Lexer} (h : (x.cursor.head? == some '\uFEFF') = false) :
    x.toNextToken.cursor = (skipBlanks (x.cursor.ahead.length + 1) x.cursor false).1 := by
  unfold toNextToken
  rw [h, Bool.and_false]
  rfl

/-- No byte order mark is at blanks before a text that does not start with one. -/
theorem head?_ne_mark {p : Cursor} {blanks text : List Char} (h : blanks.all isPlainBlank = true)
    (htext : text.head? ≠ some '\uFEFF') (hahead : p.ahead = blanks ++ text) :
    (p.head? == some '\uFEFF') = false := by
  unfold head?
  rw [hahead, beq_eq_false_iff_ne]
  cases blanks with
  | nil => exact htext
  | cons b blanks =>
    rw [List.all_cons, Bool.and_eq_true] at h
    rcases isPlainBlank_iff.mp h.1 with rfl | rfl <;>
      exact fun h => absurd (Option.some.inj h) (by decide)

/-- Whether a token starts right here, or the text is over, and there is no byte order mark. -/
def opensToken (text : List Char) : Bool := startsToken text && text.head? != some '\uFEFF'

section

variable {x : Lexer} {flow : Nat} {pending : List Token} {text : List Char}

/-- There the text is right ahead. -/
theorem Before.atToken (hx : Before x flow pending text) (htext : opensToken text = true) :
    Before x.atToken flow pending text ∧ x.atToken.cursor.ahead = text := by
  obtain ⟨blanks, hblanks, hahead⟩ := hx.ahead
  rw [opensToken, Bool.and_eq_true, bne_iff_ne] at htext
  have hplace : x.atToken.cursor.ahead = text := by
    show x.toNextToken.cursor.ahead = _
    rw [cursor_toNextToken (head?_ne_mark hblanks htext.2 hahead)]
    refine ahead_skipBlanks hblanks hahead htext.1 ?_ false
    rw [hahead, List.length_append]
    omega
  exact ⟨{ hx with
    steady := hx.steady.toNextToken.fresh
    ahead := ⟨[], rfl, hplace⟩ }, hplace⟩

/-- The next token is read there. -/
theorem Before.advance_eq (hx : Before x flow pending text) (htext : opensToken text = true) :
    x.advance = x.atToken.readAhead := by
  obtain ⟨hat, hahead⟩ := hx.atToken htext
  have hunwind : x.atToken.unwind x.atToken.column = x.atToken := by
    unfold unwind
    rw [hat.outer]
    split <;> rfl
  rw [Lexer.advance_eq, hx.steady.toNextToken.dropStale_eq]
  show (x.atToken.unwind x.atToken.column).readAhead = _
  rw [hunwind]

/-- A lexer that reads the next token moves if what is ahead gets less. -/
theorem Before.moves {c : Char} {rest : List Char} (hx : Before x flow pending (c :: rest))
    (hc : opensToken (c :: rest) = true) {y : Lexer} (hread : x.atToken.readToken c rest = .ok y)
    {flow' : Nat} {pending' : List Token} (hy : Before y flow' pending' text)
    (hlength : y.cursor.ahead.length ≤ rest.length) : Moves x y := by
  have hadvance : x.advance = .ok y := by
    rw [hx.advance_eq hc, readAhead, (hx.atToken hc).2]
    exact hread
  refine ⟨hx.unfinished, hadvance, hy.steady, ?_⟩
  obtain ⟨blanks, -, hahead⟩ := hx.ahead
  unfold left
  rw [hx.unfinished, hy.unfinished, hahead, List.length_append, List.length_cons]
  simp only [Bool.false_eq_true, if_false]
  omega

end

/-! ### Candidates -/

/-- Going on keeps a lexer steady, and so does dropping candidates. -/
theorem Steady.of_subset {x y : Lexer} (hx : Steady x) (hcandidates : y.candidates ⊆ x.candidates)
    (htaken : y.taken = x.taken) (hcursor : Reaches x.cursor y.cursor) : Steady y := by
  intro e he
  obtain ⟨hrequired, hnumber, hline⟩ := hx e (hcandidates he)
  obtain ⟨n, hn⟩ := hcursor
  refine ⟨hrequired, by rwa [htaken], ?_⟩
  rw [hn]
  exact Nat.le_trans hline (line_le_skip n x.cursor)

/-- Candidates that are optional can be dropped. -/
theorem Steady.exists_dropCandidate {x : Lexer} (hx : Steady x) :
    ∃ l, l ⊆ x.candidates ∧ x.dropCandidate = .ok { x with candidates := l } := by
  unfold dropCandidate
  cases hk : x.candidates.lookup x.flow with
  | none => exact ⟨x.candidates, List.Subset.refl _, rfl⟩
  | some k =>
    obtain ⟨before, after, hmem, -⟩ := List.lookup_eq_some_iff.mp hk
    have hrequired : k.required = false :=
      (hx (x.flow, k) (by rw [hmem]; exact List.mem_append_right _ List.mem_cons_self)).1
    refine ⟨x.candidates.filter (·.1 != x.flow), fun _ he => (List.mem_filter.mp he).1, ?_⟩
    dsimp only
    rw [hrequired, if_neg Bool.false_ne_true]

/-- The candidate at the cursor. -/
def here (x : Lexer) : Candidate where
  number := x.taken + x.pending.length
  required := false
  index := x.cursor.index
  line := x.cursor.line
  column := x.cursor.column

/-- Outside of all blocks the next token may be made an optional candidate. -/
theorem Steady.exists_saveCandidate {x : Lexer} (hx : Steady x) (hindent : x.indent = -1) :
    ∃ l, x.saveCandidate = .ok { x with candidates := l } ∧
      Steady { x with candidates := l } ∧
      (x.mayStartKey = true → l.lookup x.flow = some x.here) := by
  by_cases hkey : x.mayStartKey = true
  · obtain ⟨l, hsub, hdrop⟩ := hx.exists_dropCandidate
    have hrequired : (!x.inFlow && x.indent == x.column) = false := by
      have hne : (x.indent == x.column) = false := by
        rw [beq_eq_false_iff_ne, hindent]
        unfold column
        omega
      rw [hne, Bool.and_false]
    refine ⟨(x.flow, x.here) :: l, ?_, ?_, fun _ => ?_⟩
    · unfold saveCandidate
      rw [if_neg (by rw [hkey]; decide), hdrop]
      show Except.ok { x with
        candidates := (x.flow, ⟨x.taken + x.pending.length, !x.inFlow && x.indent == x.column,
          x.cursor.index, x.cursor.line, x.cursor.column⟩) :: l } = _
      rw [hrequired]
      rfl
    · intro e he
      rcases List.mem_cons.mp he with rfl | he
      · exact ⟨rfl, Nat.le_add_right _ _, Nat.le_refl _⟩
      · exact hx e (hsub he)
    · rw [List.lookup_cons, beq_self_eq_true]
  · refine ⟨x.candidates, ?_, hx, fun h => absurd h hkey⟩
    rw [Bool.not_eq_true] at hkey
    exact if_pos (by rw [hkey]; rfl)

/-! ### Indicators -/

section

variable {x : Lexer} {flow : Nat} {pending : List Token} {rest : List Char}

/-- A bracket or brace opens a collection, and a key may start in it. -/
theorem Before.exists_open {c : Char} {t : Token} (hx : Before x flow pending (c :: rest))
    (hc : (c, t) = ('[', .flowSequence) ∨ (c, t) = ('\x7b', .flowMapping)) :
    ∃ y, Moves x y ∧ Before y (flow + 1) (pending ++ [t]) rest ∧ y.mayStartKey = true := by
  have hopens : opensToken (c :: rest) = true := by
    rcases hc with hc | hc <;> cases hc <;> rfl
  obtain ⟨hat, hahead⟩ := hx.atToken hopens
  have hread : x.atToken.readToken c rest = x.atToken.openFlow t := by
    unfold readToken
    rw [hahead]
    rcases hc with hc | hc <;> cases hc <;> simp [isSeparator]
  obtain ⟨l, hsave, hsteady, -⟩ := hat.steady.exists_saveCandidate hat.indent
  let y : Lexer :=
    { ({ x.atToken with candidates := l }).pushIndicator 1 t with
      flow := x.atToken.flow + 1, mayStartKey := true }
  have hopen : x.atToken.openFlow t = .ok y := by
    unfold openFlow
    rw [hsave]
    rfl
  have hplace : y.cursor.ahead = rest := ahead_step hahead
  have hy : Before y (flow + 1) (pending ++ [t]) rest :=
    { unfinished := hat.unfinished
      steady := hsteady.of_subset (List.Subset.refl _) rfl (reaches_step _)
      indent := hat.indent
      outer := hat.outer
      flow := congrArg (· + 1) hat.flow
      pending := congrArg (· ++ [t]) hat.pending
      ahead := ⟨[], rfl, hplace⟩ }
  exact ⟨y, hx.moves hopens (hread.trans hopen) hy (by rw [hplace]), hy, rfl⟩

/-- Its counterpart closes it. -/
theorem Before.exists_close {c : Char} {t : Token} (hx : Before x (flow + 1) pending (c :: rest))
    (hc : (c, t) = (']', .flowSequenceEnd) ∨ (c, t) = ('\x7d', .flowMappingEnd)) :
    ∃ y, Moves x y ∧ Before y flow (pending ++ [t]) rest := by
  have hopens : opensToken (c :: rest) = true := by
    rcases hc with hc | hc <;> cases hc <;> rfl
  obtain ⟨hat, hahead⟩ := hx.atToken hopens
  have hread : x.atToken.readToken c rest = x.atToken.closeFlow t := by
    unfold readToken
    rw [hahead]
    rcases hc with hc | hc <;> cases hc <;> simp [isSeparator]
  obtain ⟨l, hsub, hdrop⟩ := hat.steady.exists_dropCandidate
  let y : Lexer :=
    { ({ x.atToken with candidates := l }).pushIndicator 1 t with
      flow := x.atToken.flow - 1, mayStartKey := false }
  have hclose : x.atToken.closeFlow t = .ok y := by
    unfold closeFlow
    rw [hdrop]
    rfl
  have hplace : y.cursor.ahead = rest := ahead_step hahead
  have hy : Before y flow (pending ++ [t]) rest :=
    { unfinished := hat.unfinished
      steady := hat.steady.of_subset hsub rfl (reaches_step _)
      indent := hat.indent
      outer := hat.outer
      flow := congrArg (· - 1) hat.flow
      pending := congrArg (· ++ [t]) hat.pending
      ahead := ⟨[], rfl, hplace⟩ }
  exact ⟨y, hx.moves hopens (hread.trans hclose) hy (by rw [hplace]), hy⟩

/-- After a comma a key may start. -/
theorem Before.exists_comma (hx : Before x flow pending (',' :: rest)) :
    ∃ y, Moves x y ∧ Before y flow (pending ++ [.flowEntry]) rest ∧ y.mayStartKey = true := by
  have hopens : opensToken (',' :: rest) = true := rfl
  obtain ⟨hat, hahead⟩ := hx.atToken hopens
  have hread : x.atToken.readToken ',' rest = x.atToken.readFlowEntry := by
    unfold readToken
    rw [hahead]
    simp [isSeparator]
  have hsteady : Steady { x.atToken with mayStartKey := true } := hat.steady
  obtain ⟨l, hsub, hdrop⟩ := hsteady.exists_dropCandidate
  let y : Lexer :=
    ({ x.atToken with mayStartKey := true, candidates := l }).pushIndicator 1 .flowEntry
  have hcomma : x.atToken.readFlowEntry = .ok y := by
    unfold readFlowEntry
    rw [hdrop]
    rfl
  have hplace : y.cursor.ahead = rest := ahead_step hahead
  have hy : Before y flow (pending ++ [.flowEntry]) rest :=
    { unfinished := hat.unfinished
      steady := hat.steady.of_subset hsub rfl (reaches_step _)
      indent := hat.indent
      outer := hat.outer
      flow := hat.flow
      pending := congrArg (· ++ [Token.flowEntry]) hat.pending
      ahead := ⟨[], rfl, hplace⟩ }
  exact ⟨y, hx.moves hopens (hread.trans hcomma) hy (by rw [hplace]), hy, rfl⟩

/-! ### Scalars -/

/-- A text in quotes is on one line, and has its quotes around what is written. -/
theorem skip_quoted {pieces : List Piece} (hsound : Piece.areSound pieces = true)
    (hportable : pieces.all isPortable = true) {c : Cursor}
    (hahead : c.ahead = '"' :: (Piece.writtenAll pieces ++ '"' :: rest)) :
    (c.skip ((Piece.writtenAll pieces).length + 2)).ahead = rest ∧
      (c.skip ((Piece.writtenAll pieces).length + 2)).line = c.line ∧
      (c.skip ((Piece.writtenAll pieces).length + 2)).index =
        c.index + ((Piece.writtenAll pieces).length + 2) := by
  have hwhole : c.ahead = ('"' :: (Piece.writtenAll pieces ++ ['"'])) ++ rest := by
    rw [hahead]
    simp
  have hwidth : ('"' :: (Piece.writtenAll pieces ++ ['"'])).length =
      (Piece.writtenAll pieces).length + 2 := by
    rw [List.length_cons, List.length_append]
    rfl
  have honLine : ('"' :: (Piece.writtenAll pieces ++ ['"'])).all (!isBreak ·) = true := by
    have hchars := all_isLineChar_writtenAll hsound hportable
    rw [List.all_eq_true] at hchars
    rw [List.all_cons, List.all_append, List.all_eq_true.mpr fun c hc =>
      (Bool.and_eq_true_iff.mp (hchars c hc)).2]
    rfl
  rw [← hwidth]
  exact ⟨ahead_skip hwhole, line_skip hwhole honLine, index_skip hwhole⟩

/-- A text in quotes becomes a scalar, and a candidate if a key may start there. -/
theorem Before.exists_quoted {pieces : List Piece} (hsound : Piece.areSound pieces = true)
    (hportable : pieces.all isPortable = true)
    (hx : Before x flow pending ('"' :: (Piece.writtenAll pieces ++ '"' :: rest))) :
    ∃ y, Moves x y ∧ Before y flow (pending ++ [.scalar (pieces.map Piece.meaning) false]) rest ∧
      y.cursor.ahead = rest ∧
      (x.mayStartKey = true → ∃ k, y.candidates.lookup flow = some k ∧
        k.number = y.taken + pending.length ∧ k.line = y.cursor.line ∧
        y.cursor.index = k.index + ((Piece.writtenAll pieces).length + 2)) := by
  have hopens : opensToken ('"' :: (Piece.writtenAll pieces ++ '"' :: rest)) = true := rfl
  obtain ⟨hat, hahead⟩ := hx.atToken hopens
  have hread : x.atToken.readToken '"' (Piece.writtenAll pieces ++ '"' :: rest) =
      x.atToken.readKeyStart readQuoted := by
    unfold readToken
    rw [hahead]
    simp [isSeparator]
  obtain ⟨l, hsave, hsteady, hkey⟩ := hat.steady.exists_saveCandidate hat.indent
  obtain ⟨hplace, hline, hindex⟩ := skip_quoted hsound hportable hahead
  let y : Lexer :=
    { ({ x.atToken with candidates := l }).push (.scalar (pieces.map Piece.meaning) false) with
      cursor := x.atToken.cursor.skip ((Piece.writtenAll pieces).length + 2), mayStartKey := false }
  have hstart : x.atToken.readKeyStart readQuoted = .ok y := by
    unfold readKeyStart readQuoted
    rw [hsave]
    show (Scalar.quotedText x.atToken.cursor >>= fun r => pure (Token.scalar r.1 false, r.2)) >>=
      _ = _
    rw [Scalar.quotedText_written hsound hportable hahead]
    rfl
  have hy : Before y flow (pending ++ [.scalar (pieces.map Piece.meaning) false]) rest :=
    { unfinished := hat.unfinished
      steady := hsteady.of_subset (List.Subset.refl _) rfl ⟨_, rfl⟩
      indent := hat.indent
      outer := hat.outer
      flow := hat.flow
      pending := congrArg (· ++ [Token.scalar (pieces.map Piece.meaning) false]) hat.pending
      ahead := ⟨[], rfl, hplace⟩ }
  have hlength : y.cursor.ahead.length ≤ (Piece.writtenAll pieces ++ '"' :: rest).length := by
    rw [hplace, List.length_append, List.length_cons]
    omega
  refine ⟨y, hx.moves hopens (hread.trans hstart) hy hlength, hy, hplace, fun hmay => ?_⟩
  have hmayAt : x.atToken.mayStartKey = true := by
    show (x.mayStartKey || _) = true
    rw [hmay]
    rfl
  refine ⟨x.atToken.here, ?_, ?_, hline.symm, hindex⟩
  · rw [← hat.flow]
    exact hkey hmayAt
  · rw [← hat.pending]
    rfl

/-- Inside a flow collection the lexer knows that it is. -/
theorem Before.inFlow (hx : Before x (flow + 1) pending rest) : x.inFlow = true := by
  unfold Lexer.inFlow
  rw [hx.flow]
  rfl

/-- Spaces alone are passed over one by one. -/
theorem cursor_toNextToken_of_spaces {blanks : List Char} (h : blanks.all (· == ' ') = true)
    (hahead : x.cursor.ahead = blanks ++ ':' :: rest) :
    x.toNextToken.cursor = x.cursor.skip blanks.length := by
  have hspaces : ∀ b ∈ blanks, (b == ' ') = true := List.all_eq_true.mp h
  have hcolon : (':' :: rest).head? ≠ some '\uFEFF' := by
    rw [List.head?_cons]
    decide
  have hmark := head?_ne_mark (all_isPlainBlank_of_spaces h) hcolon hahead
  have hdrop : x.cursor.dropWhile (· == ' ') = x.cursor.skip blanks.length := by
    unfold Cursor.dropWhile span
    rw [hahead, List.takeWhile_append_of_pos hspaces,
      List.takeWhile_cons_of_neg (by decide), List.append_nil]
  have hplace := ahead_skip hahead
  have hcomment : (x.cursor.skip blanks.length).dropComment = x.cursor.skip blanks.length := by
    unfold dropComment head?
    rw [hplace]
    rfl
  rw [cursor_toNextToken hmark, skipBlanks, hdrop, hcomment]
  unfold head?
  rw [hplace]
  rfl

/-- A candidate that is not over is still there at the next token. -/
theorem lookup_atToken {k : Candidate} (h : x.candidates.lookup flow = some k)
    (hstale : x.toNextToken.isStale k = false) : x.atToken.candidates.lookup flow = some k := by
  obtain ⟨before, after, hmem, hbefore⟩ := List.lookup_eq_some_iff.mp h
  refine List.lookup_eq_some_iff.mpr
    ⟨before.filter fun e => !x.toNextToken.isStale e.2,
      after.filter fun e => !x.toNextToken.isStale e.2, ?_, fun e he => ?_⟩
  · show x.candidates.filter (fun e => !x.toNextToken.isStale e.2) = _
    rw [hmem, List.filter_append, List.filter_cons_of_pos (by rw [hstale]; rfl)]
  · exact hbefore e (List.mem_filter.mp he).1

/-- A candidate is not over at a colon that only spaces keep from it, if that is near enough. -/
theorem isStale_of_spaces {k : Candidate} {blanks : List Char}
    (hblanks : blanks.all (· == ' ') = true) (hahead : x.cursor.ahead = blanks ++ ':' :: rest)
    (hline : k.line = x.cursor.line) (hnear : x.cursor.index + blanks.length ≤ k.index + 1024) :
    x.toNextToken.isStale k = false := by
  have hskip := cursor_toNextToken_of_spaces hblanks hahead
  have hsameLine : x.toNextToken.cursor.line = x.cursor.line := by
    rw [hskip]
    refine line_skip hahead ?_
    rw [List.all_eq_true] at hblanks ⊢
    intro b hb
    rw [beq_iff_eq.mp (hblanks b hb)]
    rfl
  have hindex : x.toNextToken.cursor.index = x.cursor.index + blanks.length := by
    rw [hskip]
    exact index_skip hahead
  unfold isStale
  rw [hsameLine, hindex, hline, bne_self_eq_false, Bool.false_or, decide_eq_false_iff_not]
  omega

/-- A colon makes a key of the token that is the candidate. -/
theorem Before.exists_colon {done : List Token} {t : Token} {k : Candidate}
    (hx : Before x (flow + 1) (done ++ [t]) (':' :: rest))
    (hk : x.candidates.lookup (flow + 1) = some k) (hfresh : x.toNextToken.isStale k = false)
    (hnumber : k.number = x.taken + done.length) :
    ∃ y, Moves x y ∧ Before y (flow + 1) (done ++ [.key, t, .value]) rest := by
  have hopens : opensToken (':' :: rest) = true := rfl
  obtain ⟨hat, hahead⟩ := hx.atToken hopens
  have hlookup : x.atToken.candidates.lookup x.atToken.flow = some k := by
    rw [hat.flow]
    exact lookup_atToken hk hfresh
  have hread : x.atToken.readToken ':' rest = .ok (x.atToken.withKey k) := by
    rw [← readValue_of_candidate hlookup]
    unfold readToken
    rw [hahead, hat.inFlow]
    simp [isSeparator]
  -- In a flow collection no block starts with the key.
  have hstarts : x.atToken.startsMapping k = false := by
    unfold startsMapping
    rw [hat.inFlow]
    rfl
  have hplace : (x.atToken.withKey k).cursor.ahead = rest := ahead_step hahead
  have hpending : (x.atToken.withKey k).pending = done ++ [.key, t, .value] := by
    have hposition : k.number - x.atToken.taken = done.length := by
      show k.number - x.taken = _
      omega
    unfold withKey
    rw [hstarts]
    show x.atToken.pending.take (k.number - x.atToken.taken) ++ [Token.key] ++
      x.atToken.pending.drop (k.number - x.atToken.taken) ++ [Token.value] = _
    rw [hposition, hat.pending, List.take_left, List.drop_left]
    simp
  have hy : Before (x.atToken.withKey k) (flow + 1) (done ++ [.key, t, .value]) rest :=
    { unfinished := hat.unfinished
      steady := hat.steady.of_subset (fun _ he => (List.mem_filter.mp he).1) rfl (reaches_step _)
      indent := by
        show (if x.atToken.startsMapping k then (k.column : Int) else x.atToken.indent) = -1
        rw [hstarts]
        exact hat.indent
      outer := by
        show (if x.atToken.startsMapping k then x.atToken.indent :: x.atToken.outer
          else x.atToken.outer) = []
        rw [hstarts]
        exact hat.outer
      flow := hat.flow
      pending := hpending
      ahead := ⟨[], rfl, hplace⟩ }
  exact ⟨x.atToken.withKey k, hx.moves hopens hread hy (by rw [hplace]), hy⟩

/-- A name with its colon becomes a key. -/
theorem Before.exists_name {pieces : List Piece} {after : List Char}
    (hname : portable.name pieces after = true)
    (hx : Before x (flow + 1) pending
      ('"' :: (Piece.writtenAll pieces ++ '"' :: (after ++ ':' :: rest))))
    (hkey : x.mayStartKey = true) :
    ∃ y, Relation.ReflTransGen Moves x y ∧
      Before y (flow + 1)
        (pending ++ [.key, .scalar (pieces.map Piece.meaning) false, .value]) rest := by
  simp only [portable, Bool.and_eq_true, decide_eq_true_eq] at hname
  obtain ⟨⟨⟨hsound, hportable⟩, hspaces⟩, hwidth⟩ := hname
  obtain ⟨z, hxz, hz, hahead, hcandidate⟩ := hx.exists_quoted hsound hportable
  obtain ⟨k, hk, hnumber, hline, hindex⟩ := hcandidate hkey
  have hblanks := all_isPlainBlank_of_spaces hspaces
  -- The colon is on the line of the name and near enough to it.
  have hfresh : z.toNextToken.isStale k = false :=
    isStale_of_spaces hspaces hahead hline (by omega)
  obtain ⟨y, hzy, hy⟩ := (hz.of_blanks hblanks).exists_colon hk hfresh hnumber
  exact ⟨y, .tail (.single hxz) hzy, hy⟩

/-- Whether a number or a word starts here. -/
def startsWord : List Char → Bool
  | '-' :: d :: _ => d.isAlphanum
  | c :: _ => c.isAlphanum
  | [] => false

/-- That is a letter, a digit, or a minus sign before one. -/
theorem cases_startsWord {c : Char} {text : List Char} (h : startsWord (c :: text) = true) :
    c.isAlphanum = true ∨ c = '-' ∧ ∃ d more, text = d :: more ∧ d.isAlphanum = true := by
  by_cases hminus : c = '-'
  · subst hminus
    cases text with
    | nil => exact absurd h (by decide)
    | cons d more => exact .inr ⟨rfl, d, more, rfl, h⟩
  · refine .inl ?_
    rw [startsWord] at h
    · exact h
    · rintro _ _ hd _
      exact hminus hd

/-- Letters and digits are not other characters. -/
theorem beq_eq_false_of_isAlphanum {c d : Char} (hc : c.isAlphanum = true)
    (hd : d.isAlphanum = false) : (c == d) = false := by
  rw [beq_eq_false_iff_ne]
  rintro rfl
  exact Bool.false_ne_true (hd.symm.trans hc)

/-- Nor do numbers and words start with others, but for the minus sign. -/
theorem beq_eq_false_of_startsWord {c : Char} {text : List Char}
    (h : startsWord (c :: text) = true) {d : Char} (hd : d.isAlphanum = false) (hne : d ≠ '-') :
    (c == d) = false := by
  rcases cases_startsWord h with hc | ⟨rfl, -⟩
  · exact beq_eq_false_of_isAlphanum hc hd
  · exact beq_eq_false_iff_ne.mpr hne.symm

/-- Letters and digits are not blanks. -/
theorem endsWord_of_isAlphanum {c : Char} (hc : c.isAlphanum = true) (rest : List Char) :
    endsWord (c :: rest) = false := by
  have hne : ∀ d : Char, d.isAlphanum = false → (c == d) = false :=
    fun _ hd => beq_eq_false_of_isAlphanum hc hd
  simp only [endsWord, isSpaceOrTab, isBreak, hne ' ' rfl, hne '\t' rfl, hne '\n' rfl,
    hne '\x85' rfl, hne '\u2028' rfl, hne '\u2029' rfl, Bool.or_self]

/-- A minus sign before one is no bullet. -/
theorem minus_of_startsWord {c : Char} {text : List Char} (h : startsWord (c :: text) = true)
    (more : List Char) : (c == '-' && endsWord (text ++ more)) = false := by
  rcases cases_startsWord h with hc | ⟨-, d, text, rfl, hd⟩
  · rw [beq_eq_false_of_isAlphanum hc (show '-'.isAlphanum = false from rfl), Bool.false_and]
  · rw [List.cons_append, endsWord_of_isAlphanum hd, Bool.and_false]

/-- A document ends with three dots, or with three minus signs. -/
theorem isSeparator_of_startsWord {c : Char} {text : List Char}
    (h : startsWord (c :: text) = true) (more : List Char) :
    isSeparator (c :: (text ++ more)) = false := by
  unfold isSeparator
  split
  · rename_i heq
    obtain ⟨rfl, htext⟩ := List.cons.inj heq
    rcases cases_startsWord h with hc | ⟨-, d, text, rfl, hd⟩
    · exact absurd hc (by decide)
    · rw [(List.cons.inj htext).1] at hd
      exact absurd hd (by decide)
  · rename_i heq
    have hdot := beq_eq_false_of_startsWord h (show '.'.isAlphanum = false from rfl) (by decide)
    rw [(List.cons.inj heq).1] at hdot
    exact absurd hdot (by decide)
  · rfl

/-- The characters that start something other than a plain scalar, but for the minus sign. -/
def indicators : List Char :=
  [' ', '\t', '\n', '\x85', '\u2028', '\u2029', '?', ':', ',', '[', ']', '\x7b', '\x7d', '#',
    '&', '*', '!', '|', '>', '\'', '"', '%', '@', '\x60']

/-- Numbers and words do not start with them. -/
theorem indicators_of_startsWord {c : Char} {text : List Char}
    (h : startsWord (c :: text) = true) : ∀ d ∈ indicators, (c == d) = false := by
  have hall : indicators.all (fun d => !d.isAlphanum && d != '-') = true := by decide
  intro d hd
  have hboth := List.all_eq_true.mp hall d hd
  rw [Bool.and_eq_true, Bool.not_eq_true', bne_iff_ne] at hboth
  exact beq_eq_false_of_startsWord h hboth.1 hboth.2

/-- A plain scalar may start there. -/
theorem startsPlain_of_startsWord {c : Char} {text : List Char}
    (h : startsWord (c :: text) = true) (inFlow : Bool) (more : List Char) :
    Scalar.startsPlain inFlow (c :: (text ++ more)) = true := by
  rcases cases_startsWord h with hc | ⟨rfl, d, text, rfl, hd⟩
  · have hall : "-?:,[]\x7b\x7d#&*!|>'\"%@\x60".toList.contains c = false := by
      rw [Bool.eq_false_iff, ne_eq, List.contains_iff_mem]
      intro hmem
      have hother : "-?:,[]\x7b\x7d#&*!|>'\"%@\x60".toList.all (!·.isAlphanum) = true := by decide
      have hnot := List.all_eq_true.mp hother c hmem
      rw [hc] at hnot
      exact Bool.false_ne_true hnot
    have hblank := endsWord_of_isAlphanum hc []
    rw [endsWord] at hblank
    rw [Scalar.startsPlain, hblank, hall]
    rfl
  · rw [List.cons_append, Scalar.startsPlain, endsWord_of_isAlphanum hd]
    exact Bool.or_true _

/-- It is read as a plain scalar. -/
theorem readToken_of_startsWord {c : Char} {text more : List Char}
    (hword : startsWord (c :: text) = true) (hahead : x.cursor.ahead = c :: (text ++ more)) :
    x.readToken c (text ++ more) = x.readPlain := by
  have hne := indicators_of_startsWord hword
  simp only [indicators, List.forall_mem_cons] at hne
  unfold readToken
  simp only [hahead, hne, minus_of_startsWord hword, isSeparator_of_startsWord hword,
    startsPlain_of_startsWord hword, Bool.false_and, Bool.and_false, Bool.or_self,
    Bool.false_eq_true, if_false, if_true]

/-- Nothing is passed over before it. -/
theorem opensToken_of_startsWord {text : List Char} (h : startsWord text = true)
    (more : List Char) : opensToken (text ++ more) = true := by
  cases text with
  | nil => cases h
  | cons c text =>
    have hne := indicators_of_startsWord h
    simp only [indicators, List.forall_mem_cons] at hne
    have hmark : c ≠ '\uFEFF' :=
      beq_eq_false_iff_ne.mp (beq_eq_false_of_startsWord h rfl (by decide))
    have hhead : ((c :: (text ++ more)).head? != some '\uFEFF') = true :=
      bne_iff_ne.mpr fun heq => hmark (Option.some.inj heq)
    rw [List.cons_append, opensToken, hhead]
    simp only [startsToken, isBreak, hne, Bool.or_self, Bool.not_false, Bool.and_self]

/-- A plain scalar is read as far as it goes. -/
theorem readPlain_of_plainText {y : Lexer} (hsave : x.saveCandidate = .ok y) {text : List Char}
    {q : Cursor} {broken : Bool}
    (h : Scalar.plainText y.inFlow (y.indent + 1) y.cursor = (text, q, broken)) :
    x.readPlain =
      .ok { y.push (.scalar text true) with cursor := q, mayStartKey := broken } := by
  unfold readPlain
  rw [hsave]
  simp only [bind, Except.bind, h]
  rfl

/-- A number or a word becomes a scalar. -/
theorem Before.exists_plain {text blanks : List Char} {c : Char}
    (htext : text.all Scalar.isWordChar = true) (hword : startsWord text = true)
    (hblanks : blanks.all isPlainBlank = true) (hc : Scalar.endsEntry c = true)
    (hx : Before x (flow + 1) pending (text ++ (blanks ++ c :: rest))) :
    ∃ y, Moves x y ∧ Before y (flow + 1) (pending ++ [.scalar text true]) (c :: rest) := by
  have hopens := opensToken_of_startsWord hword (blanks ++ c :: rest)
  obtain ⟨hat, hahead⟩ := hx.atToken hopens
  obtain ⟨l, hsave, hsteady, -⟩ := hat.steady.exists_saveCandidate hat.indent
  obtain ⟨q, broken, hplain, hreaches, hplace⟩ :=
    Scalar.plainText_append htext hblanks hc hahead (x.atToken.indent + 1)
  let y : Lexer :=
    { ({ x.atToken with candidates := l }).push (.scalar text true) with
      cursor := q, mayStartKey := broken }
  have hread : x.atToken.readPlain = .ok y := by
    refine readPlain_of_plainText hsave ?_
    rw [← hplain, ← hat.inFlow]
    rfl
  have hy : Before y (flow + 1) (pending ++ [.scalar text true]) (c :: rest) :=
    { unfinished := hat.unfinished
      steady := hsteady.of_subset (List.Subset.refl _) rfl hreaches
      indent := hat.indent
      outer := hat.outer
      flow := hat.flow
      pending := congrArg (· ++ [Token.scalar text true]) hat.pending
      ahead := ⟨[], rfl, hplace⟩ }
  cases text with
  | nil => cases hword
  | cons d text =>
    have hlength : y.cursor.ahead.length ≤ (text ++ (blanks ++ c :: rest)).length := by
      rw [show y.cursor.ahead = c :: rest from hplace, List.length_append, List.length_append]
      omega
    exact ⟨y, hx.moves hopens ((readToken_of_startsWord hword hahead).trans hread) hy
      hlength, hy⟩

end

end Lexer

/-! ### Forms -/

mutual

/-- The tokens of a form. -/
def tokensOf : Form → List Token
  | .word i => [.scalar (Json.words.get i).1 true]
  | .number n => [.scalar n.written true]
  | .text pieces => [.scalar (pieces.map Piece.meaning) false]
  | .emptyArray _ => [.flowSequence, .flowSequenceEnd]
  | .array items => .flowSequence :: (tokensOfItems items ++ [.flowSequenceEnd])
  | .emptyObject _ => [.flowMapping, .flowMappingEnd]
  | .object members => .flowMapping :: (tokensOfMembers members ++ [.flowMappingEnd])
termination_by structural f => f

/-- The tokens of items, with the commas between them. -/
def tokensOfItems : Items → List Token
  | .last _ f _ => tokensOf f
  | .cons _ f _ rest => tokensOf f ++ .flowEntry :: tokensOfItems rest
termination_by structural items => items

/-- The tokens of entries. -/
def tokensOfMembers : Members → List Token
  | .last name _ f _ =>
    .key :: .scalar (name.pieces.map Piece.meaning) false :: .value :: tokensOf f
  | .cons name _ f _ rest =>
    .key :: .scalar (name.pieces.map Piece.meaning) false :: .value ::
      (tokensOf f ++ .flowEntry :: tokensOfMembers rest)
termination_by structural members => members

end

/-- A number has the characters of a plain scalar. -/
theorem isWord_number {n : Numeral} (h : isPortableNumber n = true) :
    n.written.all Scalar.isWordChar = true ∧ Lexer.startsWord n.written = true := by
  have hsound : n.isSound = true := (Bool.and_eq_true_iff.mp h).1
  have hdigit : ∀ {d : Char}, d.isDigit = true → d.isAlphanum = true := by
    intro d hd
    unfold Char.isAlphanum
    rw [hd, Bool.or_true]
  constructor
  · have hchars := Json.all_isNumberChar_written hsound
    rw [List.all_eq_true] at hchars ⊢
    intro c hc
    have hnumber := hchars c hc
    simp only [Json.isNumberChar, Bool.or_eq_true, beq_iff_eq] at hnumber
    rcases hnumber with ((((hd | rfl) | rfl) | rfl) | rfl) | rfl
    · unfold Scalar.isWordChar
      rw [hdigit hd]
      rfl
    all_goals rfl
  · obtain ⟨d, rest, hd, hwritten | hwritten⟩ := Json.exists_written_cons hsound
    · rw [hwritten, Lexer.startsWord]
      · exact hdigit hd
      · rintro d' more rfl -
        exact absurd hd (by decide)
    · rw [hwritten]
      exact hdigit hd

/-- So has a word. -/
theorem isWord_word : ∀ i : Fin Json.words.length, i.val < 3 →
    (Json.words.get i).1.all Scalar.isWordChar = true ∧
      Lexer.startsWord (Json.words.get i).1 = true := by
  decide

namespace Lexer

open Relation (ReflTransGen)

/-- A collection is cut as what stands in it is. -/
theorem Before.exists_between {x : Lexer} {flow : Nat} {pending : List Token} {o c : Char}
    {t u : Token} {inner rest : List Char} (ts : List Token)
    (hpair : (o, t, c, u) = ('[', .flowSequence, ']', .flowSequenceEnd) ∨
      (o, t, c, u) = ('\x7b', .flowMapping, '\x7d', .flowMappingEnd))
    (hx : Before x flow pending (o :: (inner ++ c :: rest)))
    (hinner : ∀ y, Before y (flow + 1) (pending ++ [t]) (inner ++ c :: rest) →
      y.mayStartKey = true → ∃ z, ReflTransGen Moves y z ∧
        Before z (flow + 1) (pending ++ [t] ++ ts) (c :: rest)) :
    ∃ z, ReflTransGen Moves x z ∧ Before z flow (pending ++ t :: (ts ++ [u])) rest := by
  have hopen : (o, t) = ('[', .flowSequence) ∨ (o, t) = ('\x7b', .flowMapping) := by
    rcases hpair with hpair | hpair <;> cases hpair
    · exact .inl rfl
    · exact .inr rfl
  have hclose : (c, u) = (']', .flowSequenceEnd) ∨ (c, u) = ('\x7d', .flowMappingEnd) := by
    rcases hpair with hpair | hpair <;> cases hpair
    · exact .inl rfl
    · exact .inr rfl
  obtain ⟨y, hxy, hy, hkey⟩ := hx.exists_open hopen
  obtain ⟨z, hyz, hz⟩ := hinner y hy hkey
  obtain ⟨w, hzw, hw⟩ := hz.exists_close hclose
  simp only [List.append_assoc] at hw
  exact ⟨w, (ReflTransGen.head hxy hyz).tail hzw, hw⟩

mutual

/-- A form is cut into its tokens, up to what ends its entry. -/
theorem Before.exists_form {x : Lexer} {flow : Nat} {pending : List Token}
    {after rest : List Char} {c : Char} : (f : Form) → f.keeps portable = true →
    Before x (flow + 1) pending (f.written ++ (after ++ c :: rest)) →
    after.all isPlainBlank = true → Scalar.endsEntry c = true →
    ∃ y, ReflTransGen Moves x y ∧ Before y (flow + 1) (pending ++ tokensOf f) (c :: rest)
  | .word i, h, hx, hafter, hc => by
    have hword := isWord_word i (of_decide_eq_true h)
    obtain ⟨y, hxy, hy⟩ := hx.exists_plain hword.1 hword.2 hafter hc
    exact ⟨y, .single hxy, hy⟩
  | .number n, h, hx, hafter, hc => by
    have hword := isWord_number h
    obtain ⟨y, hxy, hy⟩ := hx.exists_plain hword.1 hword.2 hafter hc
    exact ⟨y, .single hxy, hy⟩
  | .text pieces, h, hx, hafter, hc => by
    have hboth : Piece.areSound pieces = true ∧ pieces.all isPortable = true :=
      Bool.and_eq_true_iff.mp h
    rw [Form.written_text_append] at hx
    obtain ⟨y, hxy, hy, -⟩ := hx.exists_quoted hboth.1 hboth.2
    exact ⟨y, .single hxy, hy.of_blanks hafter⟩
  | .emptyArray blanks, h, hx, hafter, hc => by
    rw [Form.written_emptyArray_append] at hx
    obtain ⟨y, hxy, hy⟩ := hx.exists_between [] (.inl rfl) fun z hz _ =>
      ⟨z, .refl, by simpa using hz.of_blanks h⟩
    exact ⟨y, hxy, hy.of_blanks hafter⟩
  | .array items, h, hx, hafter, hc => by
    rw [Form.written_array_append] at hx
    obtain ⟨y, hxy, hy⟩ := hx.exists_between _ (.inl rfl) fun _ hz _ => hz.exists_items items h rfl
    exact ⟨y, hxy, hy.of_blanks hafter⟩
  | .emptyObject blanks, h, hx, hafter, hc => by
    rw [Form.written_emptyObject_append] at hx
    obtain ⟨y, hxy, hy⟩ := hx.exists_between [] (.inr rfl) fun z hz _ =>
      ⟨z, .refl, by simpa using hz.of_blanks h⟩
    exact ⟨y, hxy, hy.of_blanks hafter⟩
  | .object members, h, hx, hafter, hc => by
    rw [Form.written_object_append] at hx
    obtain ⟨y, hxy, hy⟩ := hx.exists_between _ (.inr rfl) fun _ hz hkey =>
      hz.exists_members members h hkey rfl
    exact ⟨y, hxy, hy.of_blanks hafter⟩

/-- So are items. -/
theorem Before.exists_items {x : Lexer} {flow : Nat} {pending : List Token} {rest : List Char}
    {c : Char} : (items : Items) → items.keeps portable = true →
    Before x (flow + 1) pending (items.written ++ c :: rest) → Scalar.endsEntry c = true →
    ∃ y, ReflTransGen Moves x y ∧ Before y (flow + 1) (pending ++ tokensOfItems items) (c :: rest)
  | .last before f after, h, hx, hc => by
    simp only [Items.keeps, Bool.and_eq_true] at h
    rw [Items.written, List.append_assoc, List.append_assoc] at hx
    exact (hx.of_blanks h.1.1).exists_form f h.1.2 h.2 hc
  | .cons before f after more, h, hx, hc => by
    simp only [Items.keeps, Bool.and_eq_true] at h
    rw [Items.written, List.append_assoc, List.append_assoc, List.append_assoc,
      List.cons_append] at hx
    obtain ⟨y, hxy, hy⟩ := (hx.of_blanks h.1.1.1).exists_form f h.1.1.2 h.1.2 rfl
    obtain ⟨z, hyz, hz, -⟩ := hy.exists_comma
    obtain ⟨w, hzw, hw⟩ := hz.exists_items more h.2 hc
    simp only [List.append_assoc] at hw
    exact ⟨w, (hxy.tail hyz).trans hzw, hw⟩

/-- So are entries. -/
theorem Before.exists_members {x : Lexer} {flow : Nat} {pending : List Token} {rest : List Char}
    {c : Char} : (members : Members) → members.keeps portable = true →
    Before x (flow + 1) pending (members.written ++ c :: rest) → x.mayStartKey = true →
    Scalar.endsEntry c = true →
    ∃ y, ReflTransGen Moves x y ∧
      Before y (flow + 1) (pending ++ tokensOfMembers members) (c :: rest)
  | .last name before f after, h, hx, hkey, hc => by
    simp only [Members.keeps, Json.Name.keeps, Bool.and_eq_true] at h
    rw [Members.written_last_append] at hx
    obtain ⟨y, hxy, hy⟩ := (hx.of_blanks h.1.1.1.1).exists_name h.1.1.1.2 hkey
    obtain ⟨z, hyz, hz⟩ := (hy.of_blanks h.1.1.2).exists_form f h.1.2 h.2 hc
    simp only [List.append_assoc] at hz
    exact ⟨z, hxy.trans hyz, hz⟩
  | .cons name before f after more, h, hx, hkey, hc => by
    simp only [Members.keeps, Json.Name.keeps, Bool.and_eq_true] at h
    rw [Members.written_cons_append] at hx
    obtain ⟨y, hxy, hy⟩ := (hx.of_blanks h.1.1.1.1.1).exists_name h.1.1.1.1.2 hkey
    obtain ⟨z, hyz, hz⟩ := (hy.of_blanks h.1.1.1.2).exists_form f h.1.1.2 h.1.2 rfl
    obtain ⟨v, hzv, hv, hkeyAgain⟩ := hz.exists_comma
    obtain ⟨w, hvw, hw⟩ := hv.exists_members more h.2 hkeyAgain hc
    simp only [List.append_assoc] at hw
    exact ⟨w, ((hxy.trans hyz).tail hzv).trans hvw, hw⟩

end

/-- A document that is one object is cut into its tokens. -/
theorem Before.exists_object {x : Lexer} {pending : List Token} {rest : List Char} {f : Form}
    {entries : Entries} (h : f.keeps portable = true) (hobject : f.value = .map entries)
    (hx : Before x 0 pending (f.written ++ rest)) :
    ∃ y, ReflTransGen Moves x y ∧ Before y 0 (pending ++ tokensOf f) rest := by
  rcases Form.cases_of_value_eq_map hobject with ⟨blanks, rfl⟩ | ⟨members, rfl⟩
  · rw [Form.written_emptyObject_append] at hx
    exact hx.exists_between [] (.inr rfl) fun z hz _ =>
      ⟨z, .refl, by simpa using hz.of_blanks h⟩
  · rw [Form.written_object_append] at hx
    exact hx.exists_between _ (.inr rfl) fun _ hz hkey => hz.exists_members members h hkey rfl

/-- At the end of the text nothing is left. -/
theorem Before.yields_nil {x : Lexer} {pending : List Token} (hx : Before x 0 pending []) :
    Yields x (pending ++ [.textEnd]) := by
  obtain ⟨hat, hahead⟩ := hx.atToken rfl
  obtain ⟨l, hsub, hdrop⟩ := hat.steady.exists_dropCandidate
  let y : Lexer :=
    { ({ x.atToken with candidates := l }).push .textEnd with
      mayStartKey := false, candidates := [], finished := true }
  have hread : x.atToken.readEnd = .ok y := by
    have hunwind : x.atToken.unwind (-1) = x.atToken := by
      unfold unwind
      rw [hat.outer]
      split <;> rfl
    unfold readEnd
    rw [hunwind, hdrop]
    rfl
  have hadvance : x.advance = .ok y := by
    rw [hx.advance_eq rfl, readAhead, hahead]
    exact hread
  have hleft : y.left < x.left := by
    show 0 < x.left
    unfold left
    rw [hx.unfinished]
    exact Nat.succ_pos _
  have hdone : Yields y (pending ++ [.textEnd]) :=
    .done rfl rfl (congrArg (· ++ [Token.textEnd]) hat.pending)
  exact .move ⟨hx.unfinished, hadvance, nofun, hleft⟩ hdone

/-- What is yielded after some moves is yielded before them. -/
theorem Yields.of_moves {x y : Lexer} {ts : List Token} (hxy : ReflTransGen Moves x y)
    (hy : Yields y ts) : Yields x ts := by
  induction hxy using ReflTransGen.head_induction_on with
  | refl => exact hy
  | head hmove _ ih => exact .move hmove ih

/-- **A document that is one object yields its tokens**, whatever blanks stand around it. -/
theorem yields_object {f : Form} {entries : Entries} (h : f.keeps portable = true)
    (hobject : f.value = .map entries) {before after : List Char}
    (hbefore : before.all isPlainBlank = true) (hafter : after.all isPlainBlank = true) :
    Yields (ofText (before ++ (f.written ++ after))) (tokensOf f ++ [.textEnd]) := by
  have hstart : Before (ofText (before ++ (f.written ++ after))) 0 [] (f.written ++ after) :=
    { unfinished := rfl
      steady := nofun
      indent := rfl
      outer := rfl
      flow := rfl
      pending := rfl
      ahead := ⟨before, hbefore, rfl⟩ }
  obtain ⟨y, hmoves, hy⟩ := hstart.exists_object h hobject
  have hblanks : Before y 0 ([] ++ tokensOf f) (after ++ []) := by rwa [List.append_nil]
  exact Yields.of_moves hmoves (hblanks.of_blanks hafter).yields_nil

end Lexer

end Phrasebook.Yaml
