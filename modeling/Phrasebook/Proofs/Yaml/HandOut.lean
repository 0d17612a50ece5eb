import Phrasebook.Yaml.Lexer

namespace Phrasebook.Yaml.Lexer

/-!
# Handing out tokens

A token may be handed out while others are still being read: as long as it cannot become a key any
more, that makes no difference to what is read.

* `Releases` — the first pending token is final;
* `Harmless`, `Indifferent` — a change, or a step that may fail, which comes to the same whether or
  not that token has been handed out;
* `indifferent_advance` — reading a token is such a step.
-/

/-- There is a first pending token, and no candidate for a key starts with it. -/
structure Releases (x : Lexer) : Prop where
  pending : x.pending ≠ []
  later : ∀ e ∈ x.candidates, x.taken < e.2.number

/-- A change keeps the first pending token and its release, and comes to the same if the token is
    handed out before. -/
def Harmless (f : Lexer → Lexer) : Prop :=
  ∀ ⦃x⦄, Releases x →
    Releases (f x) ∧ (f x).pending.head? = x.pending.head? ∧ f x.pop = (f x).pop

/-- The same for a step that may fail, if it does not. -/
def Indifferent (f : Lexer → Except Stop Lexer) : Prop :=
  ∀ ⦃x y⦄, Releases x → f x = .ok y →
    Releases y ∧ y.pending.head? = x.pending.head? ∧ f x.pop = .ok y.pop

/-! ### Composition -/

/-- A step after a change. -/
theorem Indifferent.after {g : Lexer → Except Stop Lexer} {f : Lexer → Lexer}
    (hg : Indifferent g) (hf : Harmless f) : Indifferent fun x => g (f x) := by
  intro x z hx success
  obtain ⟨hr, hhead, hpop⟩ := hf hx
  obtain ⟨hzr, hzhead, hzpop⟩ := hg hr success
  refine ⟨hzr, hzhead.trans hhead, ?_⟩
  show g (f x.pop) = _
  rw [hpop, hzpop]

/-- A step and then one that depends on nothing else. -/
theorem Indifferent.bind {f g : Lexer → Except Stop Lexer} (hf : Indifferent f)
    (hg : Indifferent g) : Indifferent fun x => f x >>= g := by
  intro x z hx success
  dsimp only at success ⊢
  cases hy : f x with
  | error fault =>
    rw [hy] at success
    cases success
  | ok y =>
    rw [hy] at success
    obtain ⟨hyr, hyhead, hypop⟩ := hf hx hy
    obtain ⟨hzr, hzhead, hzpop⟩ := hg hyr success
    refine ⟨hzr, hzhead.trans hyhead, ?_⟩
    rw [hypop]
    exact hzpop

/-- A change is a step. -/
theorem Harmless.pure {f : Lexer → Lexer} (hf : Harmless f) :
    Indifferent fun x => Pure.pure (f x) := by
  intro x y hx success
  cases success
  obtain ⟨hr, hhead, hpop⟩ := hf hx
  exact ⟨hr, hhead, congrArg Except.ok hpop⟩

/-- A step that reads something at the cursor, which stays ahead of the tokens. -/
theorem indifferent_read {α : Type} (read : Lexer → Except Stop α)
    {f : α → Lexer → Except Stop Lexer} (hread : ∀ x, read x.pop = read x)
    (hf : ∀ a, Indifferent (f a)) : Indifferent fun x => read x >>= fun a => f a x := by
  intro x y hx success
  dsimp only at success ⊢
  rw [hread]
  cases ha : read x with
  | error fault =>
    rw [ha] at success
    cases success
  | ok a =>
    rw [ha] at success
    exact hf a hx success

/-- A choice that has nothing to do with tokens. -/
theorem Indifferent.ite {c : Lexer → Prop} [DecidablePred c] (hc : ∀ x, c x.pop ↔ c x)
    {f g : Lexer → Except Stop Lexer} (hf : Indifferent f) (hg : Indifferent g) :
    Indifferent fun x => if c x then f x else g x := by
  intro x y hx success
  dsimp only at success ⊢
  by_cases h : c x
  · rw [if_pos h] at success
    rw [if_pos ((hc x).mpr h)]
    exact hf hx success
  · rw [if_neg h] at success
    rw [if_neg (mt (hc x).mp h)]
    exact hg hx success

/-- The same for changes. -/
theorem Harmless.ite {c : Lexer → Prop} [DecidablePred c] (hc : ∀ x, c x.pop ↔ c x)
    {f g : Lexer → Lexer} (hf : Harmless f) (hg : Harmless g) :
    Harmless fun x => if c x then f x else g x := by
  intro x hx
  dsimp only
  by_cases h : c x
  · rw [if_pos h, if_pos ((hc x).mpr h)]
    exact hf hx
  · rw [if_neg h, if_neg (mt (hc x).mp h)]
    exact hg hx

/-- Giving up is a step that never succeeds. -/
theorem indifferent_refuse (rule : Malformed) : Indifferent fun x => x.cursor.refuse rule :=
  fun _ _ _ success => nomatch success

/-- A change that adds tokens at the end and no candidates. -/
theorem harmless_of_append {f : Lexer → Lexer}
    (hpending : ∀ x, ∃ ts, (f x).pending = x.pending ++ ts) (htaken : ∀ x, (f x).taken = x.taken)
    (hcandidates : ∀ x, (f x).candidates ⊆ x.candidates)
    (hpop : ∀ x t rest, x.pending = t :: rest → f x.pop = (f x).pop) : Harmless f := by
  intro x hx
  obtain ⟨t, rest, hcons⟩ := List.exists_cons_of_ne_nil hx.pending
  obtain ⟨ts, hts⟩ := hpending x
  rw [hcons] at hts
  refine ⟨⟨?_, fun e he => ?_⟩, ?_, hpop x t rest hcons⟩
  · rw [hts]
    exact List.cons_ne_nil _ _
  · rw [htaken]
    exact hx.later e (hcandidates x he)
  · rw [hts, hcons]
    rfl

/-! ### Parts of a step -/

/-- Doing nothing. -/
theorem harmless_id : Harmless id := fun _ hx => ⟨hx, rfl, rfl⟩

/-- Leaving out some candidates. -/
theorem Releases.filter {x : Lexer} (hx : Releases x) (keep : Nat × Candidate → Bool) :
    Releases { x with candidates := x.candidates.filter keep } :=
  ⟨hx.pending, fun e he => hx.later e (List.mem_filter.mp he).1⟩

/-- Dropping the candidates that are over. -/
theorem indifferent_dropStale : Indifferent dropStale := by
  intro x y hx success
  unfold dropStale at success ⊢
  split at success
  · cases success
  · rename_i hnone
    cases success
    exact ⟨hx.filter _, rfl, if_neg hnone⟩

/-- Dropping the candidate at the number of open flow collections. -/
theorem indifferent_dropCandidate : Indifferent dropCandidate := by
  intro x y hx success
  have hlookup : x.pop.candidates.lookup x.pop.flow = x.candidates.lookup x.flow := rfl
  unfold dropCandidate at success ⊢
  rw [hlookup]
  cases hk : x.candidates.lookup x.flow with
  | none =>
    rw [hk] at success
    cases success
    exact ⟨hx, rfl, rfl⟩
  | some k =>
    rw [hk] at success
    dsimp only at success ⊢
    split at success
    · cases success
    · rename_i hrequired
      cases success
      exact ⟨hx.filter _, rfl, if_neg hrequired⟩

/-- The number of the next token does not depend on how many have been handed out. -/
theorem number_pop {x : Lexer} (h : x.pending ≠ []) :
    x.pop.taken + x.pop.pending.length = x.taken + x.pending.length := by
  have hlength := List.length_pos_iff.mpr h
  show x.taken + 1 + (x.pending.drop 1).length = _
  rw [List.length_drop]
  omega

/-- Making the next token a candidate. -/
theorem indifferent_saveCandidate : Indifferent saveCandidate := by
  have hadd : Harmless fun x : Lexer =>
      { x with
        candidates := (x.flow,
          { number := x.taken + x.pending.length
            required := !x.inFlow && x.indent == x.column
            index := x.cursor.index, line := x.cursor.line, column := x.cursor.column }) ::
          x.candidates } := by
    intro x hx
    refine ⟨⟨hx.pending, ?_⟩, rfl, ?_⟩
    · intro e he
      rcases List.mem_cons.mp he with rfl | he
      · have hlength := List.length_pos_iff.mpr hx.pending
        show x.taken < x.taken + x.pending.length
        omega
      · exact hx.later e he
    · dsimp only
      rw [number_pop hx.pending]
      rfl
  exact Indifferent.ite (fun _ => Iff.rfl) (Harmless.pure harmless_id)
    (indifferent_dropCandidate.bind hadd.pure)

/-- A change of what has nothing to do with tokens. -/
theorem harmless_of_same {f : Lexer → Lexer} (hpending : ∀ x, (f x).pending = x.pending)
    (htaken : ∀ x, (f x).taken = x.taken) (hcandidates : ∀ x, (f x).candidates = x.candidates)
    (hpop : ∀ x, f x.pop = (f x).pop) : Harmless f :=
  harmless_of_append (fun x => ⟨[], (hpending x).trans (List.append_nil _).symm⟩) htaken
    (fun x => by rw [hcandidates]; exact List.Subset.refl _) fun x _ _ _ => hpop x

/-- Changes one after the other. -/
theorem Harmless.comp {g f : Lexer → Lexer} (hg : Harmless g) (hf : Harmless f) :
    Harmless fun x => g (f x) := by
  intro x hx
  obtain ⟨hr, hhead, hpop⟩ := hf hx
  obtain ⟨hgr, hghead, hgpop⟩ := hg hr
  exact ⟨hgr, hghead.trans hhead, (congrArg g hpop).trans hgpop⟩

/-- Ending block collections. -/
theorem harmless_unwindFrom (column : Int) (outer : List Int) :
    Harmless fun x => unwindFrom column outer x := by
  induction outer with
  | nil => exact harmless_id
  | cons previous rest ih =>
    have hend : Harmless fun x : Lexer =>
        { x.push .blockEnd with indent := previous, outer := rest } :=
      harmless_of_append (fun _ => ⟨[.blockEnd], rfl⟩) (fun _ => rfl) (fun _ _ h => h)
        (by rintro ⟨⟩ t more rfl; rfl)
    exact Harmless.ite (fun _ => Iff.rfl) (ih.comp hend) harmless_id

/-- Ending block collections outside flow collections. -/
theorem harmless_unwind (column : Int) : Harmless fun x => x.unwind column := by
  intro x hx
  unfold unwind
  exact Harmless.ite (c := fun x => x.inFlow = true) (fun _ => Iff.rfl) harmless_id
    (harmless_unwindFrom column x.outer) hx

/-- Going to the next token. -/
theorem harmless_toNextToken : Harmless toNextToken :=
  harmless_of_same (fun _ => rfl) (fun _ => rfl) (fun _ => rfl) fun _ => rfl

/-- Starting a block collection. -/
theorem harmless_openBlock (t : Token) : Harmless fun x => x.openBlock t := by
  have hopen : Harmless fun x : Lexer =>
      { x with indent := x.column, outer := x.indent :: x.outer }.push t :=
    harmless_of_append (fun _ => ⟨[t], rfl⟩) (fun _ => rfl) (fun _ _ h => h)
      (by rintro ⟨⟩ u more rfl; rfl)
  have heq : (fun x => openBlock x t) = fun x : Lexer =>
      if x.indent < x.column then
        { x with indent := x.column, outer := x.indent :: x.outer }.push t
      else x := by
    funext x
    unfold openBlock indentTo
    by_cases h : x.indent < x.column
    · rw [if_pos h, if_pos h]
    · rw [if_neg h, if_neg h]
  rw [heq]
  exact Harmless.ite (fun _ => Iff.rfl) hopen harmless_id

/-! ### Readers of tokens -/

/-- Allowing or forbidding a key. -/
theorem harmless_mayStartKey (b : Lexer → Bool) (hb : ∀ x, b x.pop = b x) :
    Harmless fun x => { x with mayStartKey := b x } :=
  harmless_of_same (fun _ => rfl) (fun _ => rfl) (fun _ => rfl) fun x => by rw [hb]; rfl

/-- The end of the text. -/
theorem indifferent_readEnd : Indifferent readEnd := by
  have hend : Harmless fun x : Lexer =>
      { x.push .textEnd with mayStartKey := false, candidates := [], finished := true } :=
    harmless_of_append (fun _ => ⟨[.textEnd], rfl⟩) (fun _ => rfl) (fun _ => List.nil_subset _)
      (by rintro ⟨⟩ t rest rfl; rfl)
  exact (indifferent_dropCandidate.after (harmless_unwind (-1))).bind hend.pure

/-- The start of a flow collection. -/
theorem indifferent_openFlow (t : Token) : Indifferent fun x => x.openFlow t := by
  have hopen : Harmless fun x : Lexer =>
      { x.pushIndicator 1 t with flow := x.flow + 1, mayStartKey := true } :=
    harmless_of_append (fun _ => ⟨[t], rfl⟩) (fun _ => rfl) (fun _ _ h => h)
      (by rintro ⟨⟩ u rest rfl; rfl)
  exact indifferent_saveCandidate.bind hopen.pure

/-- The end of a flow collection. -/
theorem indifferent_closeFlow (t : Token) : Indifferent fun x => x.closeFlow t := by
  have hclose : Harmless fun x : Lexer =>
      { x.pushIndicator 1 t with flow := x.flow - 1, mayStartKey := false } :=
    harmless_of_append (fun _ => ⟨[t], rfl⟩) (fun _ => rfl) (fun _ _ h => h)
      (by rintro ⟨⟩ u rest rfl; rfl)
  exact indifferent_dropCandidate.bind hclose.pure

/-- An indicator. -/
theorem harmless_pushIndicator (width : Nat) (t : Token) :
    Harmless fun x => x.pushIndicator width t :=
  harmless_of_append (fun _ => ⟨[t], rfl⟩) (fun _ => rfl) (fun _ _ h => h)
    (by rintro ⟨⟩ u rest rfl; rfl)

/-- A comma. -/
theorem indifferent_readFlowEntry : Indifferent readFlowEntry :=
  (indifferent_dropCandidate.after (harmless_mayStartKey (fun _ => true) fun _ => rfl)).bind
    (harmless_pushIndicator 1 .flowEntry).pure

/-- A token and the place after it. -/
theorem harmless_pushAt (t : Token) (p : Cursor) (b : Bool) :
    Harmless fun x => { x.push t with cursor := p, mayStartKey := b } :=
  harmless_of_append (fun _ => ⟨[t], rfl⟩) (fun _ => rfl) (fun _ _ h => h)
    (by rintro ⟨⟩ u rest rfl; rfl)

/-- A token that may be a key. -/
theorem indifferent_readKeyStart (read : Cursor → Except Stop (Token × Cursor)) :
    Indifferent fun x => x.readKeyStart read :=
  indifferent_saveCandidate.bind <|
    indifferent_read (fun x => read x.cursor) (fun _ => rfl) fun r =>
      (harmless_pushAt r.1 r.2 false).pure

/-- A plain scalar. -/
theorem indifferent_readPlain : Indifferent readPlain := by
  have hadd : Harmless fun x : Lexer =>
      { x.push (.scalar (Scalar.plainText x.inFlow (x.indent + 1) x.cursor).1 true) with
        cursor := (Scalar.plainText x.inFlow (x.indent + 1) x.cursor).2.1
        mayStartKey := (Scalar.plainText x.inFlow (x.indent + 1) x.cursor).2.2 } :=
    harmless_of_append (fun _ => ⟨_, rfl⟩) (fun _ => rfl) (fun _ _ h => h)
      (by rintro ⟨⟩ u rest rfl; rfl)
  exact indifferent_saveCandidate.bind hadd.pure

/-- A directive. -/
theorem indifferent_readDirective : Indifferent readDirective :=
  (indifferent_dropCandidate.after (harmless_unwind (-1))).bind <|
    indifferent_read (fun x => Token.readDirective x.cursor) (fun _ => rfl) fun r =>
      (harmless_pushAt r.1 r.2 false).pure

/-- A separator of documents. -/
theorem indifferent_readSeparator (t : Token) : Indifferent fun x => x.readSeparator t := by
  have hadd : Harmless fun x : Lexer => { x.pushIndicator 3 t with mayStartKey := false } :=
    harmless_of_append (fun _ => ⟨[t], rfl⟩) (fun _ => rfl) (fun _ _ h => h)
      (by rintro ⟨⟩ u rest rfl; rfl)
  exact (indifferent_dropCandidate.after (harmless_unwind (-1))).bind hadd.pure

/-- A block scalar. -/
theorem indifferent_readBlock : Indifferent readBlock := by
  have hadd : ∀ r : List Char × Cursor, Harmless fun x : Lexer =>
      { x.push (.scalar r.1 false) with cursor := r.2 } := fun r =>
    harmless_of_append (fun _ => ⟨_, rfl⟩) (fun _ => rfl) (fun _ _ h => h)
      (by rintro ⟨⟩ u rest rfl; rfl)
  exact (indifferent_dropCandidate.after (harmless_mayStartKey (fun _ => true) fun _ => rfl)).bind <|
    indifferent_read (fun x => Scalar.blockText x.indent x.cursor) (fun _ => rfl) fun r =>
      (hadd r).pure

/-- A block collection that starts here unless a flow collection is open. -/
theorem harmless_openBlock_of_not_inFlow (t : Token) :
    Harmless fun x => if x.inFlow then x else x.openBlock t :=
  Harmless.ite (fun _ => Iff.rfl) harmless_id (harmless_openBlock t)

/-- The dash of an entry. -/
theorem indifferent_readBlockEntry : Indifferent readBlockEntry :=
  Indifferent.ite (c := fun x => (!x.inFlow && !x.mayStartKey) = true) (fun _ => Iff.rfl)
    (indifferent_refuse _) <|
    ((indifferent_dropCandidate.after (harmless_mayStartKey (fun _ => true) fun _ => rfl)).after
      (harmless_openBlock_of_not_inFlow _)).bind (harmless_pushIndicator 1 .blockEntry).pure

/-- The question mark of a key. -/
theorem indifferent_readKey : Indifferent readKey :=
  Indifferent.ite (c := fun x => (!x.inFlow && !x.mayStartKey) = true) (fun _ => Iff.rfl)
    (indifferent_refuse _) <|
    ((indifferent_dropCandidate.after
        (harmless_mayStartKey (fun x => !x.inFlow) fun _ => rfl)).after
      (harmless_openBlock_of_not_inFlow _)).bind (harmless_pushIndicator 1 .key).pure

/-- Tokens may be put before one that comes after the first pending one. -/
theorem Releases.insertAt {x : Lexer} (hx : Releases x) {number : Nat} (hnumber : x.taken < number)
    (ts : List Token) :
    Releases (x.insertAt number ts) ∧
      (x.insertAt number ts).pending.head? = x.pending.head? ∧
      x.pop.insertAt number ts = (x.insertAt number ts).pop := by
  obtain ⟨t, rest, hcons⟩ := List.exists_cons_of_ne_nil hx.pending
  obtain ⟨n, rfl⟩ : ∃ n, number = x.taken + 1 + n := ⟨_, (Nat.add_sub_of_le hnumber).symm⟩
  -- The place is counted from the first pending token, so it is one less when that is handed out.
  have hbefore : x.taken + 1 + n - x.taken = n + 1 := by omega
  have hafter : x.taken + 1 + n - (x.taken + 1) = n := by omega
  have hpending : (x.insertAt (x.taken + 1 + n) ts).pending =
      t :: (rest.take n ++ ts ++ rest.drop n) := by
    show x.pending.take (x.taken + 1 + n - x.taken) ++ ts ++
      x.pending.drop (x.taken + 1 + n - x.taken) = _
    rw [hbefore, hcons]
    rfl
  refine ⟨⟨?_, hx.later⟩, ?_, ?_⟩
  · rw [hpending]
    exact List.cons_ne_nil _ _
  · rw [hpending, hcons]
    rfl
  · have hpop : (x.pop.insertAt (x.taken + 1 + n) ts).pending =
        rest.take n ++ ts ++ rest.drop n := by
      show (x.pending.drop 1).take (x.taken + 1 + n - (x.taken + 1)) ++ ts ++
        (x.pending.drop 1).drop (x.taken + 1 + n - (x.taken + 1)) = _
      rw [hafter, hcons]
      rfl
    show { x.pop with pending := (x.pop.insertAt (x.taken + 1 + n) ts).pending } =
      { x.pop with pending := (x.insertAt (x.taken + 1 + n) ts).pending.drop 1 }
    rw [hpop, hpending]
    rfl

/-- Whether a key starts a block mapping. -/
def startsMapping (x : Lexer) (k : Candidate) : Bool :=
  !x.inFlow && decide (x.indent < (k.column : Int))

/-- The lexer inside the mapping of a key. -/
def atKey (k : Candidate) (x : Lexer) : Lexer :=
  { x with
    candidates := x.candidates.filter (·.1 != x.flow)
    mayStartKey := false
    indent := if x.startsMapping k then k.column else x.indent
    outer := if x.startsMapping k then x.indent :: x.outer else x.outer }

/-- The lexer after the colon of a key. -/
def withKey (k : Candidate) (x : Lexer) : Lexer :=
  ((x.atKey k).insertAt k.number (if x.startsMapping k then [.blockMapping, .key] else [.key]))
    |>.pushIndicator 1 .value

/-- A colon makes the candidate a key. -/
theorem readValue_of_candidate {x : Lexer} {k : Candidate}
    (h : x.candidates.lookup x.flow = some k) : x.readValue = .ok (x.withKey k) := by
  have hflow : ∀ (l : List (Nat × Candidate)),
      Lexer.inFlow { x with candidates := l, mayStartKey := false } = x.inFlow := fun _ => rfl
  unfold readValue withKey atKey startsMapping indentTo
  rw [h]
  dsimp only
  rw [hflow]
  cases x.inFlow with
  | true => rfl
  | false =>
    by_cases hindent : x.indent < (k.column : Int)
    · simp [hindent]
    · simp [hindent]

/-- A key that is found is put in all the same. -/
theorem Releases.withKey {x : Lexer} (hx : Releases x) {k : Candidate} (hk : x.taken < k.number) :
    Releases (x.withKey k) ∧ (x.withKey k).pending.head? = x.pending.head? ∧
      x.pop.withKey k = (x.withKey k).pop := by
  have hat : Harmless (atKey k) :=
    harmless_of_append (fun _ => ⟨[], (List.append_nil _).symm⟩) (fun _ => rfl)
      (fun _ _ h => (List.mem_filter.mp h).1) fun _ _ _ _ => rfl
  obtain ⟨hr, hhead, hpop⟩ := hat hx
  obtain ⟨hput, hputhead, hputpop⟩ :=
    hr.insertAt hk (if x.startsMapping k then [.blockMapping, .key] else [.key])
  obtain ⟨hlast, hlasthead, hlastpop⟩ := harmless_pushIndicator 1 .value hput
  refine ⟨hlast, hlasthead.trans (hputhead.trans hhead), ?_⟩
  have hstarts : x.pop.startsMapping k = x.startsMapping k := rfl
  show ((x.pop.atKey k).insertAt k.number _).pushIndicator 1 .value = _
  rw [hstarts, hpop, hputpop]
  exact hlastpop

/-- The lexer inside the mapping that a colon without a key may start. -/
def atValue (x : Lexer) : Lexer :=
  let x := if x.inFlow then x else x.openBlock .blockMapping
  { x with mayStartKey := !x.inFlow }

/-- A colon without a candidate has no key. -/
theorem readValue_of_no_candidate {x : Lexer} (h : x.candidates.lookup x.flow = none) :
    x.readValue =
      if (!x.inFlow && !x.mayStartKey) = true then x.cursor.refuse .misplacedValue
      else x.atValue.dropCandidate >>= fun y => pure (y.pushIndicator 1 .value) := by
  unfold readValue
  rw [h]
  rfl

/-- The colon of a value. -/
theorem indifferent_readValue : Indifferent readValue := by
  have hwithout : Indifferent fun x =>
      if (!x.inFlow && !x.mayStartKey) = true then x.cursor.refuse .misplacedValue
      else x.atValue.dropCandidate >>= fun y => pure (y.pushIndicator 1 .value) :=
    Indifferent.ite (fun _ => Iff.rfl) (indifferent_refuse _) <|
      ((indifferent_dropCandidate.after
          (harmless_mayStartKey (fun x => !x.inFlow) fun _ => rfl)).after
        (harmless_openBlock_of_not_inFlow _)).bind (harmless_pushIndicator 1 .value).pure
  intro x y hx success
  cases hk : x.candidates.lookup x.flow with
  | none =>
    rw [readValue_of_no_candidate hk] at success
    rw [readValue_of_no_candidate (x := x.pop) hk]
    exact hwithout hx success
  | some k =>
    obtain ⟨before, after, hmem, -⟩ := List.lookup_eq_some_iff.mp hk
    have hnumber : x.taken < k.number :=
      hx.later (x.flow, k) (by rw [hmem]; exact List.mem_append_right _ List.mem_cons_self)
    rw [readValue_of_candidate hk] at success
    rw [readValue_of_candidate (x := x.pop) hk]
    cases success
    obtain ⟨hr, hhead, hpop⟩ := hx.withKey hnumber
    exact ⟨hr, hhead, congrArg Except.ok hpop⟩

/-- Reads the token that starts with a character. -/
def readToken (c : Char) (rest : List Char) (x : Lexer) : Except Stop Lexer :=
  let alone := x.inFlow || endsWord rest
  if c == '%' && x.cursor.column == 0 then x.readDirective
  else if x.cursor.column == 0 && isSeparator x.cursor.ahead then
    x.readSeparator (if c == '-' then .documentStart else .documentEnd)
  else if c == '[' then x.openFlow .flowSequence
  else if c == '\x7b' then x.openFlow .flowMapping
  else if c == ']' then x.closeFlow .flowSequenceEnd
  else if c == '\x7d' then x.closeFlow .flowMappingEnd
  else if c == ',' then x.readFlowEntry
  else if c == '-' && endsWord rest then x.readBlockEntry
  else if c == '?' && alone then x.readKey
  else if c == ':' && alone then x.readValue
  else if c == '*' then x.readKeyStart (readName .reference)
  else if c == '&' then x.readKeyStart (readName .anchor)
  else if c == '!' then x.readKeyStart Token.readTag
  else if (c == '|' || c == '>') && !x.inFlow then x.readBlock
  else if c == '\'' || c == '"' then x.readKeyStart readQuoted
  else if Scalar.startsPlain x.inFlow x.cursor.ahead then x.readPlain
  else x.cursor.refuse .unexpectedCharacter

/-- Reads the token at the cursor. -/
def readAhead (x : Lexer) : Except Stop Lexer :=
  match x.cursor.ahead with
  | [] => x.readEnd
  | c :: rest => x.readToken c rest

/-- A token is read where the blanks before it end. -/
theorem advance_eq (x : Lexer) :
    x.advance = x.toNextToken.dropStale >>= fun y => (y.unwind y.column).readAhead := rfl

/-- The token at the cursor. -/
theorem indifferent_readAhead : Indifferent readAhead := by
  have htoken : ∀ c rest, Indifferent (readToken c rest) := by
    intro c rest
    -- Which token is read does not depend on those that are pending.
    refine .ite (fun _ => Iff.rfl) indifferent_readDirective ?_
    refine .ite (fun _ => Iff.rfl) (indifferent_readSeparator _) ?_
    refine .ite (fun _ => Iff.rfl) (indifferent_openFlow _) ?_
    refine .ite (fun _ => Iff.rfl) (indifferent_openFlow _) ?_
    refine .ite (fun _ => Iff.rfl) (indifferent_closeFlow _) ?_
    refine .ite (fun _ => Iff.rfl) (indifferent_closeFlow _) ?_
    refine .ite (fun _ => Iff.rfl) indifferent_readFlowEntry ?_
    refine .ite (fun _ => Iff.rfl) indifferent_readBlockEntry ?_
    refine .ite (fun _ => Iff.rfl) indifferent_readKey ?_
    refine .ite (fun _ => Iff.rfl) indifferent_readValue ?_
    refine .ite (fun _ => Iff.rfl) (indifferent_readKeyStart _) ?_
    refine .ite (fun _ => Iff.rfl) (indifferent_readKeyStart _) ?_
    refine .ite (fun _ => Iff.rfl) (indifferent_readKeyStart _) ?_
    refine .ite (fun _ => Iff.rfl) indifferent_readBlock ?_
    refine .ite (fun _ => Iff.rfl) (indifferent_readKeyStart _) ?_
    exact .ite (fun _ => Iff.rfl) indifferent_readPlain (indifferent_refuse _)
  intro x y hx success
  have hahead : x.pop.cursor.ahead = x.cursor.ahead := rfl
  unfold readAhead at success ⊢
  rw [hahead]
  cases hc : x.cursor.ahead with
  | nil =>
    rw [hc] at success
    exact indifferent_readEnd hx success
  | cons c rest =>
    rw [hc] at success
    exact htoken c rest hx success

/-- **Reading a token comes to the same** whether or not a token that is final has been handed
    out. -/
theorem indifferent_advance : Indifferent advance := by
  have hunwind : Harmless fun y => y.unwind y.column :=
    fun y hy => harmless_unwind y.column hy
  exact (indifferent_dropStale.after harmless_toNextToken).bind
    (indifferent_readAhead.after hunwind)

end Phrasebook.Yaml.Lexer
