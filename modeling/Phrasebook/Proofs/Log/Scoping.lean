import Phrasebook.Proofs.Project.Failures

namespace Phrasebook

/-!
# Scoping of the context

A journal has one context, which scopes change when they are entered and change back when they are
left.  Code that keeps to blocks sees no more of this than an environment handed down from block to
block:

* `Log.Nest` — code in blocks that are nested by construction, each left with a result or with an
  error; `Nest.run` works on a journal;
* `Nest.lexical` — the same code on an environment, which a block extends for its body alone;
* `Scope.overlay` — the environment inside a block;
* `fields_enter`, `fields_leave` — what a scope makes of a context, and that leaving it undoes that;
* `Nest.run_eq_lexical` — both ways of running code come to the same;
* `Log.Neutral` — activities that leave the context as it was, among them loading a project;
* `Nest.run_scoped` — all of it together.
-/

namespace Entries

/-- There is nothing under a text that is no key. -/
theorem get?_text_eq_none {entries : Entries} {s : String}
    (h : ∀ v, (Value.text s, v) ∉ entries) : entries.get? (.text s) = none := by
  rw [Option.eq_none_iff_forall_ne_some]
  intro v hv
  exact h v (mem_of_get?_text hv)

/-- Leaving out keys takes away what is under them, and nothing else. -/
theorem get?_text_filter_keys (keep : Value → Bool) (s : String) (entries : Entries) :
    Entries.get? (.text s) (entries.filter fun e => keep e.1) =
      if keep (.text s) then entries.get? (.text s) else none := by
  cases hkeep : keep (.text s) with
  | true => exact get?_text_filter (fun _ => hkeep) entries
  | false =>
    rw [if_neg Bool.false_ne_true]
    refine get?_text_eq_none fun v hv => ?_
    have hmem := (List.mem_filter.mp hv).2
    rw [hkeep] at hmem
    cases hmem

/-- Erasing several keys takes away what is under them. -/
theorem get?_text_foldl_erase (names : List Value) (s : String) (entries : Entries) :
    Entries.get? (.text s) (names.foldl (fun acc k => acc.erase k) entries) =
      if Value.text s ∈ names then none else entries.get? (.text s) := by
  induction names generalizing entries with
  | nil => rfl
  | cons k rest ih =>
    rw [List.foldl_cons, ih]
    unfold erase
    rw [get?_text_filter_keys fun key => !key.sameKey k]
    cases hk : (Value.text s).sameKey k with
    | true => simp [Value.text_sameKey_iff.mp hk]
    | false =>
      have hne : k ≠ .text s := by
        rintro rfl
        rw [Value.text_sameKey_iff.mpr rfl] at hk
        cases hk
      simp [Ne.symm hne]

end Entries

namespace Log

open Entries

/-- An environment: what is bound to each name. -/
abbrev Fields := String → Option Value

/-- What the context of a journal binds to each name. -/
def Journal.fields (j : Journal) : Fields := fun name => j.context.get? (.text name)

/-! ### Single scopes -/

namespace Scope

/-- The extra fields of a scope have names of their own, distinct from each other and from those of
    the identifier and the file. -/
structure Proper (s : Scope) : Prop where
  distinct : s.extra.Distinct
  scanId : s.extra.contains (.text "scan_id") = false
  file : s.extra.contains (.text "file") = false

/-- The identifier that a scope finds: its own if it has one that is not empty, else the one around
    it if that is not empty. -/
def foundId? (s : Scope) (outside : Fields) : Option Value :=
  (s.scanId.filter Value.isPresent).or ((outside "scan_id").filter Value.isPresent)

/-- The identifier of a block, and the number of fresh ones issued with it; where none is found, the
    next fresh one is issued. -/
def blockId (s : Scope) (supply : Nat → String) (outside : Fields) (issued : Nat) : Value × Nat :=
  match s.foundId? outside with
  | some id => (id, issued)
  | none => (.text (supply issued), issued + 1)

/-- The environment inside a block: that outside, overlaid with the identifier, the file if there is
    one, and the extra fields. -/
def overlay (s : Scope) (id : Value) (outside : Fields) : Fields := fun name =>
  if name = "scan_id" then some id
  else if name = "file" then s.file.or (outside name)
  else (s.extra.get? (.text name)).or (outside name)

end Scope

/-- The fields of a scope are a dictionary. -/
theorem distinct_scopeFields (s : Scope) (id : Value) : (Journal.scopeFields s id).Distinct := by
  refine Distinct.merge ?_ s.extra
  cases s.file with
  | none => exact List.pairwise_singleton _ _
  | some file => exact List.pairwise_pair.mpr rfl

/-- Around them there is the environment outside. -/
theorem get?_scopeFields_or {s : Scope} (hs : s.Proper) (id : Value) (outside : Fields)
    (name : String) :
    ((Journal.scopeFields s id).get? (.text name)).or (outside name) =
      s.overlay id outside name := by
  have hnone : ∀ n, s.extra.contains (.text n) = false → s.extra.get? (.text n) = none := by
    intro n hn
    refine get?_text_eq_none fun v hv => ?_
    rw [contains_text_iff.mpr ⟨v, hv⟩] at hn
    cases hn
  unfold Journal.scopeFields Scope.overlay
  rw [hs.distinct.get?_text_merge]
  -- The extra fields come last and would win, but they have neither of the two names.
  by_cases hid : name = "scan_id"
  · subst hid
    rw [hnone _ hs.scanId, if_pos rfl]
    rfl
  · rw [if_neg hid]
    have hscan : scanKey.sameKey (.text name) = false :=
      Value.sameKey_text_eq_false_iff.mpr fun h => hid (Value.text.inj h).symm
    rw [get?, hscan, if_neg Bool.false_ne_true]
    by_cases hfile : name = "file"
    · subst hfile
      rw [hnone _ hs.file, if_pos rfl]
      cases s.file <;> rfl
    · have hother : fileKey.sameKey (.text name) = false :=
        Value.sameKey_text_eq_false_iff.mpr fun h => hfile (Value.text.inj h).symm
      rw [if_neg hfile, Option.or_assoc]
      cases s.file with
      | none => rfl
      | some file => simp [get?, hother]

/-- The identifier that a scope gives its events is that of a block in the environment. -/
theorem identify_eq (j : Journal) (s : Scope) :
    j.identify s =
      ((s.blockId j.supply j.fields j.issued).1,
        { j with issued := (s.blockId j.supply j.fields j.issued).2 }) := by
  unfold Journal.identify Scope.blockId
  show (match s.foundId? j.fields with
    | some id => (id, j)
    | none => (.text (j.supply j.issued), { j with issued := j.issued + 1 })) = _
  cases s.foundId? j.fields <;> rfl

/-- Inside a scope the context is overlaid. -/
theorem fields_enter (j : Journal) {s : Scope} (hs : s.Proper) :
    (j.enter s).1.fields = s.overlay (s.blockId j.supply j.fields j.issued).1 j.fields := by
  funext name
  show Entries.get? _ (j.context.merge (Journal.scopeFields s (j.identify s).1)) = _
  rw [identify_eq, (distinct_scopeFields s _).get?_text_merge]
  exact get?_scopeFields_or hs _ j.fields name

/-- **Leaving a scope undoes entering it.**  If what was done inside has left the context as it was
    there, every name is bound to what it was bound to outside. -/
theorem fields_leave {j inside : Journal} (hj : j.context.Distinct) {s : Scope}
    (hinside : inside.fields = (j.enter s).1.fields) :
    (inside.leave (j.enter s).2).fields = j.fields := by
  funext name
  have hnames : (j.enter s).2.names = (Journal.scopeFields s (j.identify s).1).keys := rfl
  have hrestored : Entries.Distinct
      (j.context.filter fun e => (j.enter s).2.names.any e.1.sameKey) := hj.filter _
  have hany : (j.enter s).2.names.any (Value.text name).sameKey =
      decide (Value.text name ∈ (j.enter s).2.names) := by
    rw [Bool.eq_iff_iff, decide_eq_true_iff, List.any_eq_true]
    constructor
    · rintro ⟨k, hk, hsame⟩
      exact Value.text_sameKey_iff.mp hsame ▸ hk
    · exact fun hk => ⟨_, hk, Value.text_sameKey_iff.mpr rfl⟩
  -- Leaving erases the names that the scope has bound, then puts back what was under them outside.
  show Entries.get? (.text name) (Entries.merge
    ((j.enter s).2.names.foldl (fun acc k => acc.erase k) inside.context)
    (j.context.filter fun e => (j.enter s).2.names.any e.1.sameKey)) = j.context.get? (.text name)
  rw [hrestored.get?_text_merge, get?_text_foldl_erase,
    get?_text_filter_keys fun key => (j.enter s).2.names.any key.sameKey, hany]
  by_cases hbound : Value.text name ∈ (j.enter s).2.names
  · simp [hbound]
  · -- A name that the scope does not bind is bound inside to what it is bound to outside.
    have hnone : (Journal.scopeFields s (j.identify s).1).get? (.text name) = none := by
      refine get?_text_eq_none fun v hv => hbound ?_
      exact hnames ▸ List.mem_map_of_mem (f := fun e => e.1) hv
    have houtside : inside.context.get? (.text name) = j.context.get? (.text name) := by
      have hmerge := (distinct_scopeFields s (j.identify s).1).get?_text_merge name j.context
      rw [hnone, Option.none_or] at hmerge
      exact (congrFun hinside name).trans hmerge
    simp [hbound, houtside]

/-- A block without an identifier of its own has that of the block around it. -/
theorem blockId_overlay {supply : Nat → String} (hsupply : ∀ n, supply n ≠ "") {s t : Scope}
    (ht : t.scanId.filter Value.isPresent = none) (outside : Fields) (issued later : Nat) :
    t.blockId supply (s.overlay (s.blockId supply outside issued).1 outside) later =
      ((s.blockId supply outside issued).1, later) := by
  have hpresent : (s.blockId supply outside issued).1.isPresent = true := by
    unfold Scope.blockId
    cases hfound : s.foundId? outside with
    | none => simp [Value.isPresent, hsupply]
    | some id =>
      rcases Option.or_eq_some_iff.mp hfound with h | ⟨_, h⟩
      · exact (Option.filter_eq_some_iff.mp h).2
      · exact (Option.filter_eq_some_iff.mp h).2
  have hfound : t.foundId? (s.overlay (s.blockId supply outside issued).1 outside) =
      some (s.blockId supply outside issued).1 := by
    unfold Scope.foundId?
    rw [ht, Option.none_or]
    simp [Scope.overlay, hpresent]
  rw [Scope.blockId, hfound]

/-! ### Neutral activities -/

/-- An activity that leaves the context a dictionary, with every name bound as before. -/
def Neutral {α : Type} (x : Logged α) : Prop :=
  ∀ j : Journal, j.context.Distinct → (x j).2.context.Distinct ∧ (x j).2.fields = j.fields

/-- Neutral activities one after the other are neutral. -/
theorem Neutral.bind {α β : Type} {x : Logged α} {f : α → Logged β} (hx : Neutral x)
    (hf : ∀ a, Neutral (f a)) : Neutral (x >>= f) := by
  intro j hj
  obtain ⟨hdistinct, hfields⟩ := hx j hj
  obtain ⟨hdistinct', hfields'⟩ := hf (x j).1 _ hdistinct
  exact ⟨hdistinct', hfields'.trans hfields⟩

/-- Doing nothing is neutral. -/
theorem neutral_pure {α : Type} (a : α) : Neutral (pure a : Logged α) :=
  fun _ hj => ⟨hj, rfl⟩

/-- Reporting an event is neutral. -/
theorem neutral_report (e : Event) : Neutral (report e) :=
  fun _ hj => ⟨hj, rfl⟩

/-- A neutral activity inside a scope is neutral, whatever the scope binds. -/
theorem Neutral.inScope {α : Type} {activity : Logged α} (h : Neutral activity) (s : Scope) :
    Neutral (inScope s activity) := by
  intro j hj
  obtain ⟨hdistinct, hfields⟩ := h (j.enter s).1 (distinct_enter hj s)
  exact ⟨distinct_leave hdistinct _, fields_leave hj hfields⟩

end Log

namespace Project

open Log

/-- Reading a file is neutral. -/
theorem neutral_readReported (s : Site) (file : ConfigFile) (content : FileContent) :
    Neutral (readReported s file content) := by
  refine Neutral.inScope ?_ _
  cases s.read file content with
  | ok v => exact neutral_pure _
  | error fault =>
    dsimp only
    split
    · exact (neutral_report _).bind fun _ => neutral_pure _
    · exact (neutral_pure _).bind fun _ => neutral_pure _

/-- So is getting its entries from `package.json`. -/
theorem neutral_loadPackage (s : Site) (content : FileContent) :
    Neutral (loadPackage s content) := by
  refine (neutral_readReported s .package content).bind fun result => ?_
  split
  · exact neutral_pure _
  · split
    · exact neutral_pure _
    · exact (neutral_report _).bind fun _ => neutral_pure _

/-- And from `.i18nrc`. -/
theorem neutral_loadRc (s : Site) (content : FileContent) : Neutral (loadRc s content) := by
  refine (neutral_readReported s .rc content).bind fun result => ?_
  split
  · exact neutral_pure _
  · split
    · exact (neutral_report _).bind fun _ => neutral_pure _
    · exact (neutral_report _).bind fun _ => neutral_pure _

/-- A file that is not there changes nothing. -/
theorem neutral_loadIfThere {load : FileContent → Logged (Except LoadError (Option Entries))}
    (h : ∀ content, Neutral (load content)) (content : Option FileContent) :
    Neutral (loadIfThere content load) := by
  cases content with
  | none => exact neutral_pure _
  | some content => exact h content

/-- Loading a project is neutral, whether it gives a configuration or fails. -/
theorem neutral_loadAt (s : Site) (p : Project) : Neutral (p.loadAt s) := by
  refine (neutral_loadIfThere (neutral_loadPackage s) p.package).bind fun package => ?_
  split
  · exact neutral_pure _
  · refine (neutral_loadIfThere (neutral_loadRc s) p.rc).bind fun rc => ?_
    split
    · exact neutral_pure _
    · dsimp only
      split
      · exact (neutral_report _).bind fun _ => neutral_pure _
      · exact (neutral_pure _).bind fun _ => neutral_pure _

end Project

namespace Log

/-! ### Nested blocks -/

/-- Code that looks at its environment and runs blocks, which are nested by construction.  What
    follows a block is told how the block ended, so an error may be passed on, caught there, or
    caught anywhere further out. -/
inductive Nest (ε α : Type) where
  | done (outcome : Except ε α)
  | look (next : Fields → Nest ε α)
  | block (s : Scope) (proper : s.Proper) (body : Nest ε α) (next : Except ε α → Nest ε α)

/-- What comes of code: how it ends, and the environments that it has looked at on its way. -/
structure Course (ε α : Type) where
  outcome : Except ε α
  seen : List Fields

/-- A course with earlier looks put before its own. -/
def Course.after {ε α : Type} (earlier : List Fields) (c : Course ε α) : Course ε α :=
  { c with seen := earlier ++ c.seen }

namespace Nest

/-- Runs code on a journal, each block inside its scope. -/
def run {ε α : Type} : Nest ε α → Logged (Course ε α)
  | .done outcome => pure ⟨outcome, []⟩
  | .look next => do
    let fields := (← get).fields
    return (← (next fields).run).after [fields]
  | .block s _ body next => do
    let inner ← inScope s body.run
    return (← (next inner.outcome).run).after inner.seen

/-- Runs code in an environment, given the supply of fresh identifiers and the number of those
    issued.  A block has an environment of its own; what follows it goes on in the old one. -/
def lexical {ε α : Type} (supply : Nat → String) : Nest ε α → Fields → Nat → Course ε α × Nat
  | .done outcome, _, issued => (⟨outcome, []⟩, issued)
  | .look next, fields, issued =>
    let rest := (next fields).lexical supply fields issued
    (rest.1.after [fields], rest.2)
  | .block s _ body next, fields, issued =>
    let id := s.blockId supply fields issued
    let inner := body.lexical supply (s.overlay id.1 fields) id.2
    let rest := (next inner.1.outcome).lexical supply fields inner.2
    (rest.1.after inner.1.seen, rest.2)

/-- Code that has been run on a journal has come to what it comes to in the environment that the
    context is, and has left the context and the supply as they were. -/
theorem run_eq_lexical {ε α : Type} (t : Nest ε α) {j : Journal} (hj : j.context.Distinct) :
    (((t.run j).1, (t.run j).2.issued) = t.lexical j.supply j.fields j.issued ∧
      (t.run j).2.supply = j.supply) ∧
      (t.run j).2.context.Distinct ∧ (t.run j).2.fields = j.fields := by
  -- By induction on the code, for every journal: the body of a block starts in the journal that has
  -- been entered, and what follows the block in the one that has been left.
  induction t generalizing j with
  | done outcome => exact ⟨⟨rfl, rfl⟩, hj, rfl⟩
  | look next ih =>
    obtain ⟨⟨hcourse, hsupply⟩, hafter⟩ := ih j.fields hj
    refine ⟨⟨?_, hsupply⟩, hafter⟩
    rw [lexical, ← hcourse]
    rfl
  | block s proper body next ihbody ihnext =>
    obtain ⟨⟨hinner, hsupply⟩, hdistinct, hfields⟩ := ihbody (distinct_enter hj s)
    -- The journal after the block, in which the rest of the code starts.
    have hleft := distinct_leave hdistinct (j.enter s).2
    have hback := fields_leave hj hfields
    obtain ⟨⟨hrest, hsupply'⟩, hafter⟩ := ihnext (body.run (j.enter s).1).1.outcome hleft
    have hentered : (j.enter s).1.issued = (s.blockId j.supply j.fields j.issued).2 ∧
        (j.enter s).1.supply = j.supply := by
      show (j.identify s).2.issued = _ ∧ (j.identify s).2.supply = _
      rw [identify_eq]
      exact ⟨rfl, rfl⟩
    have hkept : ((body.run (j.enter s).1).2.leave (j.enter s).2).supply = j.supply :=
      hsupply.trans hentered.2
    rw [hentered.1, hentered.2, fields_enter j proper] at hinner
    rw [hkept, hback] at hrest
    refine ⟨⟨?_, hsupply'.trans hkept⟩, hafter.1, hafter.2.trans hback⟩
    rw [lexical, ← hinner]
    exact congrArg (fun rest => (rest.1.after (body.run (j.enter s).1).1.seen, rest.2)) hrest

/-- **Contexts are scoped lexically.**  Code in nested blocks, run on a journal, ends as it does when
    each block has an environment of its own, and looks at the same environments: inside a block,
    that around it overlaid with what the block binds.  After the code every name is bound to what it
    was bound to before, if to anything.  A block without an identifier of its own has that of the
    block around it, and none is issued for it.  And loading a project leaves every name bound as it
    was, whether it gives a configuration or fails. -/
theorem run_scoped {j : Journal} (hj : j.context.Distinct) (hsupply : ∀ n, j.supply n ≠ "") :
    (∀ (ε α : Type) (t : Nest ε α),
      (t.run j).1 = (t.lexical j.supply j.fields j.issued).1 ∧ (t.run j).2.fields = j.fields) ∧
    (∀ (s t : Scope) (outside : Fields) (issued later : Nat),
      t.scanId.filter Value.isPresent = none →
        t.blockId j.supply (s.overlay (s.blockId j.supply outside issued).1 outside) later =
          ((s.blockId j.supply outside issued).1, later)) ∧
    ∀ p : Project, (p.load j).2.fields = j.fields := by
  refine ⟨fun ε α t => ?_, fun s t outside issued later ht => ?_, fun p => ?_⟩
  · obtain ⟨⟨hcourse, _⟩, _, hfields⟩ := t.run_eq_lexical hj
    exact ⟨congrArg Prod.fst hcourse, hfields⟩
  · exact blockId_overlay hsupply ht outside issued later
  · exact (p.neutral_loadAt .here j hj).2

/-- A journal in a context with an empty identifier. -/
def namelessScan : Journal :=
  { Journal.empty fun n => String.ofList (List.replicate (n + 1) 'x') with
    context := [(.text "user", .int 1), (.text "scan_id", .text "")] }

/-- A block for a user, with a block for a file and the same user inside that is left by an error,
    looked at inside both, between them and after them. -/
def userAndFile : Nest String Nat :=
  .block ⟨none, none, [(.text "user", .null)]⟩ ⟨by decide, rfl, rfl⟩
    (.block ⟨some (.text "a.js"), some (.text ""), [(.text "user", .int 3)]⟩ ⟨by decide, rfl, rfl⟩
      (.look fun _ => .done (.error "broken"))
      fun outcome => .look fun _ => .done outcome)
    fun _ => .look fun _ => .done (.ok 0)

/-- Both blocks have the identifier that is issued for the outer one, and after each block the user
    is the one from before, and no file is bound. -/
theorem run_scoped_userAndFile :
    namelessScan.context.Distinct ∧ (∀ n, namelessScan.supply n ≠ "") ∧
      ((userAndFile.run namelessScan).1.seen.map fun fields =>
        (fields "scan_id", fields "file", fields "user")) =
          [(some (.text "x"), some (.text "a.js"), some (.int 3)),
            (some (.text "x"), none, some .null), (some (.text ""), none, some (.int 1))] ∧
      (userAndFile.run namelessScan).2.fields = namelessScan.fields := by
  have hdistinct : namelessScan.context.Distinct := by decide
  have hsupply : ∀ n, namelessScan.supply n ≠ "" := by
    intro n
    show String.ofList (List.replicate (n + 1) 'x') ≠ ""
    simp [List.replicate_succ]
  obtain ⟨hcourse, hfields⟩ := (run_scoped hdistinct hsupply).1 _ _ userAndFile
  refine ⟨hdistinct, hsupply, ?_, hfields⟩
  rw [hcourse]
  rfl

end Nest

end Log

end Phrasebook
