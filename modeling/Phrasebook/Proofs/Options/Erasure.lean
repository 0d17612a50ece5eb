import Phrasebook.Proofs.Options.Layers

namespace Phrasebook

/-!
# Overrides leave no trace

An override is there for what is read under it.  A block in which nothing depends on the values read
ends under an override as it ends without one, however it ends:

* `Program.Oblivious` — the programs that go on in the same way whatever values they read;
* `Resolver.Alike` — resolvers with valid settings, the same defaults and the same writes, whatever
  their overrides;
* `Alike.perform`, `Alike.enter`, `Alike.leave` — a step ends on two of them in the same way;
* `Program.Oblivious.run_paired` — so does a whole run, and it keeps the overrides of its start on
  both or has dropped them all on both;
* `Program.withOverride_erased` — so a block that is run under an override has the outcome, and leaves
  the resolver, that it has and leaves without it.
-/

namespace Program

variable {ε α : Type}

/-- A program whose course does not depend on the values that it reads.  Whether a step has failed, a
    read of an unknown option among them, may count. -/
inductive Oblivious : Program ε α → Prop where
  | done (outcome : Except (Failure ε) α) : Oblivious (.done outcome)
  | get {name : Value} {next : Except OptionError Setting → Program ε α}
      (hsame : ∀ s s', next (.ok s) = next (.ok s')) (hnext : ∀ x, Oblivious (next x)) :
      Oblivious (.get name next)
  | write {w : Write} {next : Except OptionError Unit → Program ε α}
      (hnext : ∀ x, Oblivious (next x)) : Oblivious (.write w next)
  | block {name v : Value} {body : Program ε α} {next : Except (Failure ε) α → Program ε α}
      (hbody : Oblivious body) (hnext : ∀ x, Oblivious (next x)) :
      Oblivious (.block name v body next)

/-- How a program ends on a resolver: its outcome, and the resolver that it leaves. -/
def ending (p : Program ε α) (r : Resolver) : Except (Failure ε) α × Resolver :=
  let run := p.run ⟨[], r⟩
  (run.outcome, run.last.resolver)

end Program

namespace Resolver

/-! ### Resolvers that differ in their overrides -/

/-- Resolvers with valid settings, the same defaults and the same writes. -/
structure Alike (r r' : Resolver) : Prop where
  valid : r.Valid
  valid' : r'.Valid
  defaults : r.defaults = r'.defaults
  written : r.written = r'.written

/-- The overrides that two resolvers come to from two others: those that there were, or on both sides
    none. -/
def KeepOverrides (start start' r r' : Resolver) : Prop :=
  (r.overrides = start.overrides ∧ r'.overrides = start'.overrides) ∨
    (r.overrides = [] ∧ r'.overrides = [])

variable {r r' : Resolver}

/-- Keeping the overrides twice is keeping them. -/
theorem KeepOverrides.trans {s s' t t' : Resolver} (h : KeepOverrides r r' s s')
    (h' : KeepOverrides s s' t t') : KeepOverrides r r' t t' := by
  rcases h' with ⟨ht, ht'⟩ | hnone
  · unfold KeepOverrides
    rw [ht, ht']
    exact h
  · exact .inr hnone

/-- Alike resolvers with the same overrides are the same. -/
theorem Alike.eq (h : Alike r r') (hoverrides : r.overrides = r'.overrides) : r = r' := by
  cases r
  cases r'
  cases h.defaults
  cases h.written
  cases hoverrides
  rfl

/-- Writes of the same settings leave alike resolvers alike. -/
theorem Alike.foldl_write (h : Alike r r') {settings : List Setting}
    (hsettings : ∀ s ∈ settings, s.Valid) :
    Alike (settings.foldl write r) (settings.foldl write r') := by
  induction settings generalizing r r' with
  | nil => exact h
  | cons s rest ih =>
    have hs := hsettings s List.mem_cons_self
    have hwrite : Alike (r.write s) (r'.write s) :=
      ⟨h.valid.write hs, h.valid'.write hs, h.defaults, by simp [Resolver.write, h.written]⟩
    exact ih hwrite fun t ht => hsettings t (List.mem_cons_of_mem s ht)

/-- An update fails on alike resolvers with the same error, or makes alike resolvers of them. -/
theorem Alike.update (h : Alike r r') (entries : Entries) :
    (∃ e, r.update entries = .error e ∧ r'.update entries = .error e) ∨
      ∃ s s', r.update entries = .ok s ∧ r'.update entries = .ok s' ∧ Alike s s' ∧
        KeepOverrides r r' s s' := by
  unfold Resolver.update
  cases Updates.ofEntries entries [] with
  | error e => exact .inl ⟨e, rfl, rfl⟩
  | ok updates =>
    simp only [updateWith, h.valid'.check_eq_check h.valid updates]
    cases hcheck : r.check updates with
    | error e => exact .inl ⟨e, rfl, rfl⟩
    | ok settings =>
      refine .inr ⟨_, _, rfl, rfl, h.foldl_write (valid_of_mem_check hcheck), .inl ⟨?_, ?_⟩⟩
      · exact (written_foldl_write settings r).2.1
      · exact (written_foldl_write settings r').2.1

/-- A lasting operation fails on alike resolvers with the same error, or makes alike resolvers of
    them. -/
theorem Alike.perform (h : Alike r r') (w : Write) :
    (∃ e, r.perform w = .error e ∧ r'.perform w = .error e) ∨
      ∃ s s', r.perform w = .ok s ∧ r'.perform w = .ok s' ∧ Alike s s' ∧
        KeepOverrides r r' s s' := by
  by_cases hw : w = .reset
  · subst hw
    have halike : Alike r.reset r'.reset :=
      ⟨h.valid.reset, h.valid'.reset, h.defaults, rfl⟩
    exact .inr ⟨_, _, rfl, rfl, halike, .inr ⟨rfl, rfl⟩⟩
  · rw [r.perform_eq_update hw, r'.perform_eq_update hw]
    exact h.update w.entries

/-- An override is refused by alike resolvers with the same error, or is the innermost one of both. -/
theorem Alike.enter (h : Alike r r') (name v : Value) :
    (∃ e, r.enter name v = .error e ∧ r'.enter name v = .error e) ∨
      ∃ s, r.enter name v = .ok (r.push s) ∧ r'.enter name v = .ok (r'.push s) ∧
        Alike (r.push s) (r'.push s) := by
  cases hs : verdict name v with
  | error e =>
    refine .inl ⟨e, ?_, ?_⟩
    · simp [h.valid.enter_eq, hs, Except.map]
    · simp [h.valid'.enter_eq, hs, Except.map]
  | ok s =>
    have henter : r.enter name v = .ok (r.push s) := by simp [h.valid.enter_eq, hs, Except.map]
    have henter' : r'.enter name v = .ok (r'.push s) := by
      simp [h.valid'.enter_eq, hs, Except.map]
    exact .inr ⟨s, henter, henter',
      ⟨h.valid.enter henter, h.valid'.enter henter', h.defaults, h.written⟩⟩

/-- Blocks that are left on alike resolvers leave alike resolvers, with the overrides from before the
    blocks or none. -/
theorem Alike.leave {start start' : Resolver} {s s' : Setting} (h : Alike r r')
    (hkept : KeepOverrides (start.push s) (start'.push s') r r') :
    Alike (r.leave start.depth) (r'.leave start'.depth) ∧
      KeepOverrides start start' (r.leave start.depth) (r'.leave start'.depth) := by
  refine ⟨⟨h.valid.leave _, h.valid'.leave _, h.defaults, h.written⟩, ?_⟩
  unfold KeepOverrides
  rcases hkept with ⟨hr, hr'⟩ | ⟨hr, hr'⟩
  · rw [overrides_leave (.inl hr), overrides_leave (.inl hr'), hr, hr']
    exact .inl ⟨rfl, rfl⟩
  · rw [overrides_leave (s := s) (.inr hr), overrides_leave (s := s') (.inr hr'), hr, hr']
    exact .inr ⟨rfl, rfl⟩

end Resolver

open Resolver

/-! ### Two runs -/

/-- Two runs that end with the same outcome, on alike resolvers, and keep the overrides that they
    started with on both sides or on none. -/
structure Run.Paired {ε α : Type} (start start' : Resolver) (run run' : Run ε α) : Prop where
  outcome : run.outcome = run'.outcome
  last : Alike run.last.resolver run'.last.resolver
  overrides : KeepOverrides start start' run.last.resolver run'.last.resolver

/-- Runs that go on from a later pair of resolvers are paired from the earlier one on. -/
theorem Run.Paired.after {ε α : Type} {start start' r r' : Resolver} {run run' : Run ε α}
    (h : run.Paired r r' run') (hkept : KeepOverrides start start' r r')
    (earlier earlier' : List Point) :
    (run.after earlier).Paired start start' (run'.after earlier') :=
  ⟨h.outcome, h.last, hkept.trans h.overrides⟩

/-- An oblivious program runs on alike resolvers to the same outcome. -/
theorem Program.Oblivious.run_paired {ε α : Type} {p : Program ε α} (hp : p.Oblivious)
    (point point' : Point) (h : Alike point.resolver point'.resolver) :
    (p.run point).Paired point.resolver point'.resolver (p.run point') := by
  -- The induction is on the program.  The histories of the two points do not matter, and the
  -- overrides only in that both runs keep them or both have dropped them.
  induction hp generalizing point point' with
  | done outcome => exact ⟨rfl, h, .inl ⟨rfl, rfl⟩⟩
  | @get name next hsame _ ih =>
    have hnext : next (point.resolver.get name) = next (point'.resolver.get name) := by
      unfold Resolver.get
      cases resolveName name with
      | error e => rfl
      | ok o => exact hsame _ _
    rw [run, run, hnext]
    exact (ih _ _ _ h).after (.inl ⟨rfl, rfl⟩) _ _
  | @write w next _ ih =>
    rw [run, run]
    rcases h.perform w with ⟨e, he, he'⟩ | ⟨r, r', hr, hr', halike, hkept⟩
    · rw [he, he']
      exact (ih (.error e) (point.next _ _) (point'.next _ _) h).after (.inl ⟨rfl, rfl⟩) _ _
    · rw [hr, hr']
      exact (ih (.ok ()) (point.next _ r) (point'.next _ r') halike).after hkept _ _
  | @block name v body next _ _ ihbody ihnext =>
    rw [run, run, withOverride, withOverride]
    rcases h.enter name v with ⟨e, he, he'⟩ | ⟨s, hs, hs', halike⟩
    · rw [he, he']
      exact (ihnext (.error (.option e)) (point.next _ _) (point'.next _ _) h).after
        (.inl ⟨rfl, rfl⟩) _ _
    · rw [hs, hs']
      have hbody := ihbody (point.next (.enter name v) (point.resolver.push s))
        (point'.next (.enter name v) (point'.resolver.push s)) halike
      obtain ⟨hleft, hkept⟩ := hbody.last.leave hbody.overrides
      dsimp only
      rw [hbody.outcome]
      exact (ihnext _ (Point.next _ .leave _) (Point.next _ .leave _) hleft).after hkept _ _

/-- **An override leaves no trace of a block that does not look at it.**  In every reachable resolver
    in which an override can be put in force, an oblivious block that is run under it ends as it ends
    without it: with the same result or the same failure, whether of a step or its own, and on a
    resolver with the same defaults, writes and overrides. -/
theorem Program.withOverride_erased {ε α : Type} {r inside : Resolver} (hr : r.Reachable)
    {name v : Value} (accepted : r.enter name v = .ok inside) {p : Program ε α}
    (hp : p.Oblivious) : r.withOverride name v p.ending = .ok (p.ending r) := by
  obtain ⟨s, rfl⟩ : ∃ s, inside = r.push s := by
    rw [hr.valid.enter_eq] at accepted
    cases hs : verdict name v with
    | error e => simp [hs, Except.map] at accepted
    | ok s => exact ⟨s, by simpa [hs, Except.map, eq_comm] using accepted⟩
  have halike : Alike (r.push s) r := ⟨hr.valid.enter accepted, hr.valid, rfl, rfl⟩
  have hpaired := hp.run_paired ⟨[], r.push s⟩ ⟨[], r⟩ halike
  -- What the block leaves on the override is cut off with it.
  have hoverrides : ((p.run ⟨[], r.push s⟩).last.resolver.leave r.depth).overrides =
      (p.run ⟨[], r⟩).last.resolver.overrides := by
    rcases hpaired.overrides with ⟨hkept, hkept'⟩ | ⟨hnone, hnone'⟩
    · rw [overrides_leave (.inl hkept), hkept, hkept']
      rfl
    · rw [overrides_leave (s := s) (.inr hnone), hnone, hnone']
      rfl
  have hleft : Alike ((p.run ⟨[], r.push s⟩).last.resolver.leave r.depth)
      (p.run ⟨[], r⟩).last.resolver :=
    ⟨hpaired.last.valid.leave _, hpaired.last.valid', hpaired.last.defaults,
      hpaired.last.written⟩
  unfold withOverride ending
  rw [accepted]
  dsimp only
  rw [hpaired.outcome, hleft.eq hoverrides]

/-- The program of two nested blocks and a reset does not look at any option. -/
theorem oblivious_resetInside : resetInside.Oblivious :=
  .write fun _ => .block (.block (.write fun _ => .write fun _ => .done _)
    fun _ => .write fun _ => .done _) fun _ => .done _

/-- So it ends under an override of the key length, which it resets and writes itself, as without
    one. -/
theorem withOverride_erased_resetInside :
    (ofDefaults builtInValues).Reachable ∧
      (ofDefaults builtInValues).enter (.text "max_key_length") (.int 200) =
        .ok ((ofDefaults builtInValues).push (.maxKeyLength 200)) ∧
      resetInside.Oblivious ∧
      (ofDefaults builtInValues).withOverride (.text "max_key_length") (.int 200)
        resetInside.ending = .ok (resetInside.ending (ofDefaults builtInValues)) :=
  have hr : (ofDefaults builtInValues).Reachable := .built build_builtIn
  have accepted : (ofDefaults builtInValues).enter (.text "max_key_length") (.int 200) =
      .ok ((ofDefaults builtInValues).push (.maxKeyLength 200)) :=
    eq_ok_of_toOption (by decide +kernel)
  ⟨hr, accepted, oblivious_resetInside,
    Program.withOverride_erased hr accepted oblivious_resetInside⟩

end Phrasebook
