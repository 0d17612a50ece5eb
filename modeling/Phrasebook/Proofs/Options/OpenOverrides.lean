import Mathlib.Data.List.Induction
import Phrasebook.Proofs.Options.Layers

namespace Phrasebook

/-!
# Overrides left in any order

An override remembers how many were in force before it, and leaving it cuts the overrides back to
that number, whatever has happened in between.  Nothing makes overrides end in the order in which
they nest, so what is cut need not be what was put on top of it.

* `Override` — an override that has been entered: which one it was, its setting, its depth;
* `Ledger` — a resolver with the overrides entered and not yet left, and those of them that its
  stack holds;
* `Act`, `Ledger.step`, `Ledger.run` — writes, entries and exits, in any order;
* `Ledger.Sound` — the invariant: an override on the stack stands at its depth, and any override
  entered after it goes back to a greater one;
* `Ledger.run_stack_open` — the stack holds open overrides only, in order of entry, and one that is
  missing was dropped by a reset or by leaving an earlier one.
-/

/-- An override that has been entered. -/
structure Override where
  /-- Its place among all that have been entered, from 0. -/
  number : Nat
  /-- The number of overrides in force before it, which leaving it goes back to. -/
  depth : Nat
  setting : Setting
  deriving DecidableEq, Repr

/-- A resolver in use. -/
structure Ledger where
  resolver : Resolver
  /-- How many overrides have been entered. -/
  entered : Nat
  /-- The overrides that have been entered and not left, the latest first. -/
  opened : List Override
  /-- The overrides that the resolver holds, the innermost first. -/
  stack : List Override

/-- What is done next: a write, or an override entered or left. -/
inductive Act where
  | write (w : Write)
  | enter (name v : Value)
  /-- Leaves the override of a number, if it is open. -/
  | leave (number : Nat)
  deriving Inhabited

namespace Ledger

/-- A resolver that nothing has been done with. -/
def start (defaults : OptionValues) : Ledger := ⟨Resolver.ofDefaults defaults, 0, [], []⟩

/-- Goes on with a resolver that has dropped its innermost overrides, or none. -/
def follow (l : Ledger) (r : Resolver) : Ledger :=
  { l with resolver := r, stack := l.stack.drop (l.stack.length - r.depth) }

/-- The override that has led to a resolver. -/
def newOverride (l : Ledger) (s : Setting) : Override := ⟨l.entered, l.resolver.depth, s⟩

/-- Goes on with a resolver that has put a setting in force. -/
def extend (l : Ledger) (r : Resolver) (s : Setting) : Ledger :=
  { resolver := r
    entered := l.entered + 1
    opened := l.newOverride s :: l.opened
    stack := l.newOverride s :: l.stack }

/-- Does one thing; what fails changes nothing. -/
def step (l : Ledger) : Act → Ledger
  | .write w =>
    match l.resolver.perform w with
    | .ok r => l.follow r
    | .error _ => l
  | .enter name v =>
    match l.resolver.enter name v with
    | .ok r =>
      match r.overrides with
      | s :: _ => l.extend r s
      | [] => l
    | .error _ => l
  | .leave number =>
    match l.opened.find? (·.number == number) with
    | some o =>
      { l.follow (l.resolver.leave o.depth) with opened := l.opened.filter (·.number != number) }
    | none => l

/-- Does several things in order. -/
def run (l : Ledger) (acts : List Act) : Ledger := acts.foldl step l

/-- The invariant.  The first three say what is wanted of the stack; that an override stands at its
    depth, and that later ones go back to a greater depth, is what makes an exit keep them: it takes
    the override off if it is still there, and spares what was entered before it. -/
structure Sound (l : Ledger) : Prop where
  overrides : l.resolver.overrides = l.stack.map (·.setting)
  opened : ∀ o ∈ l.stack, o ∈ l.opened
  descending : l.stack.Pairwise fun o p => p.number < o.number
  numbers : ∀ o ∈ l.opened, o.number < l.entered
  distinct : ∀ o ∈ l.opened, ∀ p ∈ l.opened, o.number = p.number → o = p
  depths : ∀ o rest, (o :: rest) <:+ l.stack → o.depth = rest.length
  above : ∀ p ∈ l.opened, ∀ o ∈ l.stack, o.number < p.number → o.depth < p.depth

end Ledger

/-! ### What operations do to the overrides -/

namespace Resolver

/-- A resolver as it is without its overrides. -/
def bare (r : Resolver) : Resolver := { r with overrides := [] }

/-- A write keeps the overrides, unless it is a reset. -/
theorem overrides_of_perform {r r' : Resolver} {w : Write} (success : r.perform w = .ok r') :
    r'.overrides = r.overrides ∨ w = .reset ∧ r'.overrides = [] := by
  by_cases hw : w = .reset
  · subst hw
    cases success
    exact .inr ⟨rfl, rfl⟩
  · rw [r.perform_eq_update hw] at success
    unfold update updateWith at success
    repeat' split at success
    all_goals cases success
    exact .inl (written_foldl_write _ r).2.1

/-- An override that is entered comes before the others. -/
theorem exists_overrides_of_enter {r r' : Resolver} {name v : Value}
    (success : r.enter name v = .ok r') : ∃ s, r'.overrides = s :: r.overrides := by
  unfold enter check at success
  split at success
  · cases success
  · rename_i o ho
    split at success
    · rename_i settings hsettings
      split at hsettings
      · cases hsettings
        cases success
        exact ⟨_, rfl⟩
      · cases hsettings
    · cases success

end Resolver

namespace Ledger

variable {l : Ledger}

/-- The stack is as long as the overrides. -/
theorem Sound.length_stack (h : l.Sound) : l.stack.length = l.resolver.depth := by
  rw [Resolver.depth, h.overrides, List.length_map]

/-- An override on the stack has a place there. -/
theorem exists_suffix_of_mem {o : Override} {stack : List Override} (ho : o ∈ stack) :
    ∃ rest, (o :: rest) <:+ stack := by
  obtain ⟨before, after, rfl⟩ := List.append_of_mem ho
  exact ⟨after, before, rfl⟩

/-- It lies less deep than the stack is high. -/
theorem Sound.depth_lt (h : l.Sound) {o : Override} (ho : o ∈ l.stack) :
    o.depth < l.stack.length := by
  obtain ⟨rest, hrest⟩ := exists_suffix_of_mem ho
  rw [h.depths o rest hrest]
  exact hrest.length_le

/-- A lower part of the stack holds exactly what lies less deep than it is high. -/
theorem Sound.mem_of_suffix_iff (h : l.Sound) {rest : List Override} (hrest : rest <:+ l.stack)
    {o : Override} (ho : o ∈ l.stack) : o ∈ rest ↔ o.depth < rest.length := by
  constructor
  · intro hmem
    obtain ⟨below, hbelow⟩ := exists_suffix_of_mem hmem
    rw [h.depths o below (hbelow.trans hrest)]
    exact hbelow.length_le
  · intro hdepth
    obtain ⟨below, hbelow⟩ := exists_suffix_of_mem ho
    rw [h.depths o below hbelow] at hdepth
    -- Of two lower parts of one stack the shorter one lies in the longer one.
    have hsuffix : (o :: below) <:+ rest := List.suffix_of_suffix_length_le hbelow hrest hdepth
    exact hsuffix.subset List.mem_cons_self

/-! ### One step -/

/-- What a step can come to. -/
inductive Moves (l : Ledger) : Act → Ledger → Prop where
  | writeFailed {w : Write} {e : OptionError} (failure : l.resolver.perform w = .error e) :
      Moves l (.write w) l
  | write {w : Write} {r : Resolver} (success : l.resolver.perform w = .ok r) :
      Moves l (.write w) (l.follow r)
  | enterFailed {name v : Value} {e : OptionError}
      (failure : l.resolver.enter name v = .error e) : Moves l (.enter name v) l
  | enter {name v : Value} {r : Resolver} {s : Setting}
      (success : l.resolver.enter name v = .ok r)
      (hpush : r.overrides = s :: l.resolver.overrides) : Moves l (.enter name v) (l.extend r s)
  | notOpen {number : Nat} (hnone : ∀ o ∈ l.opened, o.number ≠ number) :
      Moves l (.leave number) l
  | leave {o : Override} (ho : o ∈ l.opened) :
      Moves l (.leave o.number)
        { l.follow (l.resolver.leave o.depth) with
          opened := l.opened.filter (·.number != o.number) }

/-- Every step comes to one of these. -/
theorem moves (l : Ledger) (a : Act) : l.Moves a (l.step a) := by
  cases a with
  | write w =>
    simp only [step]
    cases hw : l.resolver.perform w with
    | error e => exact .writeFailed hw
    | ok r => exact .write hw
  | enter name v =>
    simp only [step]
    cases henter : l.resolver.enter name v with
    | error e => exact .enterFailed henter
    | ok r =>
      obtain ⟨s, hs⟩ := Resolver.exists_overrides_of_enter henter
      simp only [hs]
      exact .enter henter hs
  | leave number =>
    simp only [step]
    cases hfind : l.opened.find? (·.number == number) with
    | none => exact .notOpen (by simpa using hfind)
    | some o =>
      obtain rfl : o.number = number := by simpa using List.find?_some hfind
      exact .leave (List.mem_of_find?_eq_some hfind)

theorem sound_start (defaults : OptionValues) : (start defaults).Sound where
  overrides := rfl
  opened := by simp [start]
  descending := .nil
  numbers := by simp [start]
  distinct := by simp [start]
  depths := by simp [start]
  above := by simp [start]

/-- Cutting the overrides keeps the invariant. -/
theorem Sound.follow (h : l.Sound) {r : Resolver}
    (hcut : r.overrides = l.resolver.overrides.drop (l.resolver.depth - r.depth)) :
    (l.follow r).Sound := by
  have hsuffix : (l.follow r).stack <:+ l.stack := List.drop_suffix _ _
  refine ⟨?_, ?_, ?_, h.numbers, h.distinct, ?_, ?_⟩
  · show r.overrides = (l.stack.drop (l.stack.length - r.depth)).map (·.setting)
    rw [hcut, h.overrides, h.length_stack, List.map_drop]
  · exact fun o ho => h.opened o (hsuffix.subset ho)
  · exact h.descending.sublist hsuffix.sublist
  · exact fun o rest hrest => h.depths o rest (hrest.trans hsuffix)
  · exact fun p hp o ho => h.above p hp o (hsuffix.subset ho)

/-- An override that is entered lies above all others. -/
theorem Sound.extend (h : l.Sound) {r : Resolver} {s : Setting}
    (hpush : r.overrides = s :: l.resolver.overrides) : (l.extend r s).Sound where
  overrides := by
    show r.overrides = s :: l.stack.map (·.setting)
    rw [hpush, h.overrides]
  opened := fun o ho => by
    rcases List.mem_cons.mp ho with rfl | ho
    · exact List.mem_cons_self
    · exact List.mem_cons_of_mem _ (h.opened o ho)
  descending := List.pairwise_cons.mpr ⟨fun o ho => h.numbers o (h.opened o ho), h.descending⟩
  numbers := fun o ho => by
    rcases List.mem_cons.mp ho with rfl | ho
    · exact Nat.lt_succ_self _
    · exact Nat.lt_succ_of_lt (h.numbers o ho)
  distinct := fun o ho p hp hnumber => by
    -- The number of the new override has not been given before.
    have hnew : ∀ q ∈ l.opened, q.number ≠ l.entered := fun q hq =>
      Nat.ne_of_lt (h.numbers q hq)
    rcases List.mem_cons.mp ho with rfl | ho
    · rcases List.mem_cons.mp hp with rfl | hp
      · rfl
      · exact absurd hnumber.symm (hnew p hp)
    · rcases List.mem_cons.mp hp with rfl | hp
      · exact absurd hnumber (hnew o ho)
      · exact h.distinct o ho p hp hnumber
  depths := fun o rest hrest => by
    rcases List.suffix_cons_iff.mp hrest with heq | hrest
    · obtain ⟨rfl, rfl⟩ := List.cons.inj heq
      exact h.length_stack.symm
    · exact h.depths o rest hrest
  above := fun p hp o ho hnumber => by
    rcases List.mem_cons.mp hp with rfl | hp
    · rcases List.mem_cons.mp ho with rfl | ho
      · exact absurd hnumber (Nat.lt_irrefl _)
      · exact Nat.lt_of_lt_of_eq (h.depth_lt ho) h.length_stack
    · rcases List.mem_cons.mp ho with rfl | ho
      · exact absurd (h.numbers p hp) (Nat.not_lt.mpr (Nat.le_of_lt hnumber))
      · exact h.above p hp o ho hnumber

/-- Leaving an override takes it off the stack, if it is still there. -/
theorem Sound.not_mem_leave (h : l.Sound) {o : Override} (ho : o ∈ l.opened) {q : Override}
    (hq : q ∈ (l.follow (l.resolver.leave o.depth)).stack) : q.number ≠ o.number := by
  have hsuffix : (l.follow (l.resolver.leave o.depth)).stack <:+ l.stack := List.drop_suffix _ _
  have hmem := hsuffix.subset hq
  intro hnumber
  obtain rfl := h.distinct q (h.opened q hmem) o ho hnumber
  have hlt := (h.mem_of_suffix_iff hsuffix hmem).mp hq
  have hlength : (l.follow (l.resolver.leave q.depth)).stack.length ≤ q.depth := by
    have := h.length_stack
    simp only [Ledger.follow, Resolver.leave, Resolver.depth, List.length_drop] at this ⊢
    omega
  exact absurd hlt (Nat.not_lt.mpr hlength)

/-- One step keeps the invariant. -/
theorem Sound.step (h : l.Sound) (a : Act) : (l.step a).Sound := by
  have hmoves := l.moves a
  generalize l.step a = l' at hmoves ⊢
  cases hmoves with
  | writeFailed => exact h
  | enterFailed => exact h
  | notOpen => exact h
  | write success =>
    refine h.follow ?_
    rcases Resolver.overrides_of_perform success with hsame | ⟨-, hnone⟩
    · simp [Resolver.depth, hsame]
    · simp [Resolver.depth, hnone]
  | enter _ hpush => exact h.extend hpush
  | @leave o ho =>
    -- First the stack is cut, then the override is taken from those that are open.
    have hcut : (l.follow (l.resolver.leave o.depth)).Sound := by
      refine h.follow ?_
      simp only [Resolver.leave, Resolver.depth, List.length_drop]
      congr 1
      omega
    refine ⟨hcut.overrides, ?_, hcut.descending, ?_, ?_, hcut.depths, ?_⟩
    · intro q hq
      exact List.mem_filter.mpr ⟨hcut.opened q hq, by simpa using h.not_mem_leave ho hq⟩
    · exact fun q hq => h.numbers q (List.mem_filter.mp hq).1
    · exact fun q hq p hp => h.distinct q (List.mem_filter.mp hq).1 p (List.mem_filter.mp hp).1
    · exact fun p hp q hq => hcut.above p (List.mem_filter.mp hp).1 q hq

/-- An override that a step takes off the stack, and that stays open, is dropped by a reset or by
    leaving an override entered before it. -/
theorem Sound.dropped (h : l.Sound) {a : Act} {o : Override} (ho : o ∈ l.stack)
    (hopened : o ∈ (l.step a).opened) (hdropped : o ∉ (l.step a).stack) :
    a = .write .reset ∨ ∃ p ∈ l.opened, a = .leave p.number ∧ p.number < o.number := by
  have hmoves := l.moves a
  generalize l.step a = l' at hmoves hopened hdropped
  cases hmoves with
  | writeFailed => exact absurd ho hdropped
  | enterFailed => exact absurd ho hdropped
  | notOpen => exact absurd ho hdropped
  | @write w r success =>
    rcases Resolver.overrides_of_perform success with hsame | ⟨rfl, -⟩
    · have hkept : (l.follow r).stack = l.stack := by
        simp [Ledger.follow, h.length_stack, Resolver.depth, hsame]
      exact absurd (hkept ▸ ho) hdropped
    · exact .inl rfl
  | enter => exact absurd (List.mem_cons_of_mem _ ho) hdropped
  | @leave p hp =>
    refine .inr ⟨p, hp, rfl, ?_⟩
    -- It was cut, so it lies no less deep than the other goes back to.
    have hdepth : p.depth ≤ o.depth := by
      have hsuffix : (l.follow (l.resolver.leave p.depth)).stack <:+ l.stack :=
        List.drop_suffix _ _
      have hlow := mt (h.mem_of_suffix_iff hsuffix ho).mpr hdropped
      have hlt := h.depth_lt ho
      have hlength := h.length_stack
      simp only [Ledger.follow, Resolver.leave, Resolver.depth, List.length_drop] at hlow hlength
      omega
    have hne : o.number ≠ p.number := by simpa using (List.mem_filter.mp hopened).2
    have hnot : ¬ o.number < p.number := fun hlt =>
      absurd (h.above p hp o ho hlt) (Nat.not_lt.mpr hdepth)
    omega

/-- An override that a step opens is on the stack. -/
theorem mem_stack_of_new {a : Act} {o : Override} (hnew : o ∉ l.opened)
    (hopened : o ∈ (l.step a).opened) : o ∈ (l.step a).stack := by
  have hmoves := l.moves a
  generalize l.step a = l' at hmoves hopened ⊢
  cases hmoves with
  | writeFailed => exact absurd hopened hnew
  | enterFailed => exact absurd hopened hnew
  | notOpen => exact absurd hopened hnew
  | write => exact absurd hopened hnew
  | enter =>
    rcases List.mem_cons.mp hopened with rfl | hold
    · exact List.mem_cons_self
    · exact absurd hold hnew
  | leave => exact absurd (List.mem_filter.mp hopened).1 hnew

/-- An override stays open until it is left. -/
theorem mem_opened_step {a : Act} {o : Override} (ho : o ∈ l.opened) (ha : a ≠ .leave o.number) :
    o ∈ (l.step a).opened := by
  have hmoves := l.moves a
  generalize l.step a = l' at hmoves ⊢
  cases hmoves with
  | writeFailed => exact ho
  | enterFailed => exact ho
  | notOpen => exact ho
  | write => exact ho
  | enter => exact List.mem_cons_of_mem _ ho
  | @leave p _ =>
    have hne : o.number ≠ p.number := fun h => ha (h ▸ rfl)
    exact List.mem_filter.mpr ⟨ho, by simpa using hne⟩

/-! ### Runs -/

/-- Any run keeps the invariant. -/
theorem Sound.run (h : l.Sound) (acts : List Act) : (l.run acts).Sound := by
  induction acts generalizing l with
  | nil => exact h
  | cons a rest ih => exact ih (h.step a)

/-- An override stays open in a run that does not leave it. -/
theorem mem_opened_run {o : Override} (ho : o ∈ l.opened) {acts : List Act}
    (hnot : .leave o.number ∉ acts) : o ∈ (l.run acts).opened := by
  induction acts generalizing l with
  | nil => exact ho
  | cons a rest ih =>
    obtain ⟨ha, hrest⟩ := not_or.mp (mt List.mem_cons.mpr hnot)
    exact ih (mem_opened_step ho (Ne.symm ha)) hrest

/-- The last step of a run is a step from where the others lead. -/
theorem run_append_singleton (l : Ledger) (acts : List Act) (a : Act) :
    l.run (acts ++ [a]) = (l.run acts).step a := by
  simp [run, List.foldl_append]

/-- An override that is entered in a run and not left after that. -/
def OpenAfter (l : Ledger) (acts : List Act) (o : Override) : Prop :=
  ∃ before name v after r s, acts = before ++ .enter name v :: after ∧
    (l.run before).resolver.enter name v = .ok r ∧
    r.overrides = s :: (l.run before).resolver.overrides ∧ o = (l.run before).newOverride s ∧
    .leave o.number ∉ after

/-- The overrides that are open are those entered in the run and not left. -/
theorem mem_opened_run_iff (hl : l.opened = []) (acts : List Act) (o : Override) :
    o ∈ (l.run acts).opened ↔ l.OpenAfter acts o := by
  constructor
  · intro ho
    -- The induction is on the run so far, so that its last step is the one to look at.
    induction acts using List.reverseRecOn with
    | nil => simp [run, hl] at ho
    | append_singleton acts a ih =>
      have hkept : o ∈ (l.run acts).opened → a ≠ .leave o.number →
          l.OpenAfter (acts ++ [a]) o := by
        intro hopened ha
        obtain ⟨before, name, v, after, r, s, rfl, hr, hs, hnew, hnot⟩ := ih hopened
        refine ⟨before, name, v, after ++ [a], r, s, by simp, hr, hs, hnew, ?_⟩
        simpa [hnot] using ha.symm
      rw [run_append_singleton] at ho
      have hmoves := (l.run acts).moves a
      generalize (l.run acts).step a = l' at hmoves ho
      cases hmoves with
      | writeFailed => exact hkept ho (by simp)
      | enterFailed => exact hkept ho (by simp)
      | notOpen hnone => exact hkept ho fun ha => hnone o ho (Act.leave.inj ha).symm
      | write => exact hkept ho (by simp)
      | enter success hpush =>
        rcases List.mem_cons.mp ho with rfl | hold
        · exact ⟨acts, _, _, [], _, _, rfl, success, hpush, rfl, by simp⟩
        · exact hkept hold (by simp)
      | leave _ =>
        obtain ⟨hold, hne⟩ := List.mem_filter.mp ho
        exact hkept hold fun ha => by simp [Act.leave.inj ha] at hne
  · rintro ⟨before, name, v, after, r, s, rfl, hr, hs, rfl, hnot⟩
    have hentered : (l.run before).newOverride s ∈ ((l.run before).step (.enter name v)).opened := by
      simp [step, hr, hs, extend]
    rw [run, List.foldl_append, List.foldl_cons]
    exact mem_opened_run hentered hnot

/-- Why an override may be missing from the stack: since it was entered, there was a reset, or an
    override entered before it was left. -/
def Excused (l : Ledger) (acts : List Act) (o : Override) : Prop :=
  ∃ before a after, acts = before ++ a :: after ∧ o ∈ (l.run before).opened ∧
    (a = .write .reset ∨
      ∃ p ∈ (l.run before).opened, a = .leave p.number ∧ p.number < o.number)

/-- An open override that the stack does not hold has an excuse. -/
theorem Sound.excused (hl : l.Sound) (hnone : l.opened = []) {acts : List Act} {o : Override}
    (ho : o ∈ (l.run acts).opened) (hnot : o ∉ (l.run acts).stack) : l.Excused acts o := by
  induction acts using List.reverseRecOn with
  | nil => simp [Ledger.run, hnone] at ho
  | append_singleton acts a ih =>
    rw [run_append_singleton] at ho hnot
    by_cases hopened : o ∈ (l.run acts).opened
    · by_cases hheld : o ∈ (l.run acts).stack
      · exact ⟨acts, a, [], rfl, hopened, (hl.run acts).dropped hheld ho hnot⟩
      · obtain ⟨before, b, after, rfl, hbefore, hcause⟩ := ih hopened hheld
        exact ⟨before, b, after ++ [a], by simp, hbefore, hcause⟩
    · exact absurd (mem_stack_of_new hopened ho) hnot

/-- What is read of an option is the innermost override of it on the stack, and without one what it
    is worth without overrides. -/
theorem Sound.setting_eq (h : l.Sound) (o : OptionName) :
    l.resolver.setting o =
      ((l.stack.find? (·.setting.option == o)).map (·.setting)).getD
        (l.resolver.bare.setting o) := by
  have hfind : l.resolver.overrides.find? (·.option == o) =
      (l.stack.find? (·.setting.option == o)).map (·.setting) := by
    rw [h.overrides, List.find?_map]
    rfl
  rw [Resolver.setting_eq, hfind, Resolver.setting_eq l.resolver.bare]
  cases l.stack.find? (·.setting.option == o) <;> rfl

/-- **Left in any order, no override outlives its end.**  Let a resolver be written to, and overrides
    of it be entered and left in any order.  What its stack holds are overrides that have been
    entered and not left, each once and the later ones further in, and what is read of an option is
    the innermost of those or what it is worth without overrides.  An open override is missing from
    the stack only if there was a reset since it was entered, or an override entered before it was
    left. -/
theorem run_stack_open (defaults : OptionValues) (acts : List Act) :
    ((start defaults).run acts).resolver.overrides =
        ((start defaults).run acts).stack.map (·.setting) ∧
      (∀ o ∈ ((start defaults).run acts).stack, (start defaults).OpenAfter acts o) ∧
      (((start defaults).run acts).stack.Pairwise fun o p => p.number < o.number) ∧
      (∀ name, ((start defaults).run acts).resolver.get name = (resolveName name).map fun o =>
        ((((start defaults).run acts).stack.find? (·.setting.option == o)).map (·.setting)).getD
          (((start defaults).run acts).resolver.bare.setting o)) ∧
      (∀ o, ((start defaults).run acts).resolver.values.setting o =
        ((((start defaults).run acts).stack.find? (·.setting.option == o)).map (·.setting)).getD
          (((start defaults).run acts).resolver.bare.setting o)) ∧
      ∀ o, (start defaults).OpenAfter acts o → o ∉ ((start defaults).run acts).stack →
        (start defaults).Excused acts o := by
  have hsound := (sound_start defaults).run acts
  have hstart : (start defaults).opened = [] := rfl
  have hopened := fun o => mem_opened_run_iff hstart acts o
  refine ⟨hsound.overrides, fun o ho => ?_, hsound.descending, fun name => ?_, fun o => ?_,
    fun o ho hnot => ?_⟩
  · exact (hopened o).mp (hsound.opened o ho)
  · unfold Resolver.get
    cases resolveName name with
    | error e => rfl
    | ok o => exact congrArg Except.ok (hsound.setting_eq o)
  · rw [Resolver.setting_values]
    exact hsound.setting_eq o
  · exact (sound_start defaults).excused rfl ((hopened o).mpr ho) hnot

end Ledger

end Phrasebook
