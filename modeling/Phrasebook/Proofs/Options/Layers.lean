import Phrasebook.Proofs.Options.Program
import Phrasebook.Proofs.Options.Update

namespace Phrasebook

/-!
# The layers of an option

What an option is worth at a point of a run can be read off the attempts before it, without a
resolver:

* `History.openOverrides` — the overrides entered since the last reset and not left, innermost
  first;
* `History.lastWrite?` — the last setting of an option that a write since the last reset stored;
* `History.effective` — the innermost open override of the option, else the last write, else the
  default;
* `Program.run_layered` — at every point of every run, this is what the resolver answers.

Blocks are well bracketed, so a resolver that has been reset inside a block is as empty when the
block is left as the history says (`Tracks.leave`).
-/

/-- What a name and a value come to is a setting of the option that is named. -/
theorem option_of_verdict {name v : Value} {s : Setting} (h : verdict name v = .ok s) :
    OptionName.ofValue? name = some s.option := by
  obtain ⟨o, hname, hcheck⟩ := verdict_eq_ok_iff.mp h
  rw [(valid_of_check hcheck).1]
  exact hname

/-- Entries that do not name an option store nothing for it. -/
theorem Entries.stored?_eq_none {entries : Entries} {o : OptionName}
    (h : ∀ e ∈ entries, OptionName.ofValue? e.1 ≠ some o) : entries.stored? o = none := by
  have hwinner : entries.winner? o = none := by simpa [winner?] using h
  simp [stored?, hwinner]

namespace History

/-- The overrides that are open, innermost first, after as many more have been left as `closed`
    says.  An override that could not be entered was never open, and a reset closes all. -/
def overridesBelow (closed : Nat) : History → List Setting
  | [] => []
  | .write .reset :: _ => []
  | .write _ :: before => overridesBelow closed before
  | .leave :: before => overridesBelow (closed + 1) before
  | .enter name v :: before =>
    match verdict name v, closed with
    | .error _, closed => overridesBelow closed before
    | .ok s, 0 => s :: overridesBelow 0 before
    | .ok _, closed + 1 => overridesBelow closed before

/-- The overrides that are open, innermost first. -/
def openOverrides (history : History) : List Setting := overridesBelow 0 history

/-- The setting of an option that the last successful write since the last reset gave it. -/
def lastWrite? (o : OptionName) : History → Option Setting
  | [] => none
  | .write .reset :: _ => none
  | .write w :: before => (w.entries.stored? o).or (lastWrite? o before)
  | .enter _ _ :: before | .leave :: before => lastWrite? o before

/-- The setting of an option after a history: that of the innermost open override, else of the last
    write, else the default. -/
def effective (defaults : OptionValues) (history : History) (o : OptionName) : Setting :=
  ((history.openOverrides.find? (·.option == o)).or (history.lastWrite? o)).getD
    (defaults.setting o)

/-- Overrides are left from the innermost on. -/
theorem overridesBelow_eq_drop (history : History) (closed : Nat) :
    overridesBelow closed history = history.openOverrides.drop closed := by
  unfold openOverrides
  induction history generalizing closed with
  | nil => simp [overridesBelow]
  | cons d before ih =>
    cases d with
    | write w =>
      cases w with
      | reset => simp [overridesBelow]
      | _ => exact ih closed
    | leave =>
      -- One more block has been left, so one more override is to be dropped.
      show overridesBelow (closed + 1) before = (overridesBelow 1 before).drop closed
      rw [ih (closed + 1), ih 1, List.drop_drop, Nat.add_comm]
    | enter name v =>
      unfold overridesBelow
      cases verdict name v with
      | error e => exact ih closed
      | ok s =>
        cases closed with
        | zero => rfl
        | succ n => exact ih n

/-- An override that is entered is open. -/
theorem openOverrides_enter {name v : Value} {s : Setting} (h : verdict name v = .ok s)
    (before : History) :
    openOverrides (.enter name v :: before) = s :: before.openOverrides := by
  simp [openOverrides, overridesBelow, h]

/-- One that cannot be entered is not. -/
theorem openOverrides_enter_error {name v : Value} {e : OptionError}
    (h : verdict name v = .error e) (before : History) :
    openOverrides (.enter name v :: before) = before.openOverrides := by
  simp [openOverrides, overridesBelow, h]

/-- Leaving a block closes the innermost override, if a reset has not closed it before. -/
theorem openOverrides_leave (before : History) :
    openOverrides (.leave :: before) = before.openOverrides.drop 1 :=
  overridesBelow_eq_drop before 1

/-- Writes other than a reset close no override. -/
theorem openOverrides_write {w : Write} (hw : w ≠ .reset) (before : History) :
    openOverrides (.write w :: before) = before.openOverrides := by
  cases w with
  | reset => exact absurd rfl hw
  | _ => rfl

/-- A write hides the writes before it for the options that it stores. -/
theorem lastWrite?_write {w : Write} (hw : w ≠ .reset) (o : OptionName) (before : History) :
    lastWrite? o (.write w :: before) = (w.entries.stored? o).or (before.lastWrite? o) := by
  cases w with
  | reset => exact absurd rfl hw
  | _ => rfl

/-- Whether an attempt is about an option: a write or an override that names it, the end of a block
    whose override of it is in force, or a reset, which is about all options. -/
def Concerns (before : History) (o : OptionName) : Deed → Prop
  | .write .reset => True
  | .write w => ∃ e ∈ w.entries, OptionName.ofValue? e.1 = some o
  | .enter name _ => OptionName.ofValue? name = some o
  | .leave => ∃ s ∈ before.openOverrides.head?, s.option = o

/-- An attempt at one option leaves the others as they are. -/
theorem effective_of_not_concerns (defaults : OptionValues) {before : History} {o : OptionName}
    {d : Deed} (h : ¬ before.Concerns o d) :
    effective defaults (d :: before) o = effective defaults before o := by
  cases d with
  | write w =>
    have hw : w ≠ .reset := by
      rintro rfl
      exact h trivial
    have hnames : ∀ e ∈ w.entries, OptionName.ofValue? e.1 ≠ some o := by
      cases w with
      | reset => exact absurd rfl hw
      | _ => exact fun e he ho => h ⟨e, he, ho⟩
    unfold effective
    rw [openOverrides_write hw, lastWrite?_write hw, Entries.stored?_eq_none hnames]
    rfl
  | enter name v =>
    unfold effective
    cases hs : verdict name v with
    | error e =>
      rw [openOverrides_enter_error hs]
      rfl
    | ok s =>
      have ho : s.option ≠ o := fun ho => h (ho ▸ option_of_verdict hs)
      rw [openOverrides_enter hs, List.find?_cons, beq_false_of_ne ho]
      rfl
  | leave =>
    unfold effective
    rw [openOverrides_leave]
    cases hopen : before.openOverrides with
    | nil => simp [lastWrite?]
    | cons s rest =>
      have ho : s.option ≠ o := fun ho => h ⟨s, by simp [hopen], ho⟩
      rw [List.find?_cons, beq_false_of_ne ho]
      rfl

end History

/-! ### Single attempts -/

/-- A write other than a reset is the update of its entries. -/
theorem Resolver.perform_eq_update (r : Resolver) {w : Write} (hw : w ≠ .reset) :
    r.perform w = r.update w.entries := by
  cases w with
  | set name v => exact r.set_eq_update name v
  | update entries => rfl
  | apply config => rfl
  | reset => exact absurd rfl hw

/-- A write succeeds exactly when its entries are accepted. -/
theorem Resolver.Valid.perform_isOk_iff {r : Resolver} (hr : r.Valid) (w : Write) :
    (∃ r', r.perform w = .ok r') ↔ w.entries.accepted = true := by
  by_cases hw : w = .reset
  · subst hw
    exact iff_of_true ⟨_, rfl⟩ rfl
  · rw [r.perform_eq_update hw]
    exact hr.update_isOk_iff

/-- Cutting back to the depth before a block drops one override, or finds none to drop. -/
theorem Resolver.overrides_leave {r start : Resolver} {s : Setting}
    (h : r.overrides = s :: start.overrides ∨ r.overrides = []) :
    (r.leave start.depth).overrides = r.overrides.drop 1 := by
  unfold leave depth
  rcases h with h | h <;> simp [h]

/-- The resolver of a point holds what its history says: the open overrides are its overrides, and
    the last write of an option is the one it finds. -/
structure Tracks (defaults : OptionValues) (point : Point) : Prop where
  valid : point.resolver.Valid
  defaults_eq : point.resolver.defaults = defaults
  overrides : point.resolver.overrides = point.history.openOverrides
  written : ∀ o, point.resolver.written.find? (·.option == o) =
    point.history.lastWrite? o

namespace Tracks

variable {defaults : OptionValues} {point : Point}

/-- A resolver that holds what the history says answers what the history says. -/
theorem setting (ht : Tracks defaults point) (o : OptionName) :
    point.resolver.setting o = point.history.effective defaults o := by
  rw [Resolver.setting_eq, ht.overrides, ht.written, ht.defaults_eq]
  rfl

/-- A write that succeeds is the last one from then on; it keeps the overrides or drops them all. -/
theorem write (ht : Tracks defaults point) {w : Write} {r : Resolver}
    (success : point.resolver.perform w = .ok r) :
    Tracks defaults (point.next (.write w) r) ∧
      (r.overrides = point.resolver.overrides ∨ r.overrides = []) := by
  by_cases hw : w = .reset
  · -- A reset empties both lists, as it ends both readings of the history.
    subst hw
    cases success
    exact ⟨⟨ht.valid.reset, ht.defaults_eq, rfl, fun o => rfl⟩, .inr rfl⟩
  · have haccepted := (ht.valid.perform_isOk_iff w).mp ⟨r, success⟩
    rw [point.resolver.perform_eq_update hw] at success
    obtain ⟨r', hr', hdefaults, hoverrides, hwritten⟩ := ht.valid.update_of_accepted haccepted
    obtain rfl : r' = r := Except.ok.inj (hr'.symm.trans success)
    refine ⟨⟨ht.valid.update success, hdefaults.trans ht.defaults_eq, ?_, fun o => ?_⟩,
      .inl hoverrides⟩
    · exact hoverrides.trans (ht.overrides.trans (History.openOverrides_write hw _).symm)
    · exact (hwritten o).trans (ht.written o ▸ (History.lastWrite?_write hw o _).symm)

/-- A write that fails leaves no trace. -/
theorem write_failed (ht : Tracks defaults point) {w : Write} {e : OptionError}
    (failure : point.resolver.perform w = .error e) :
    Tracks defaults (point.next (.write w) point.resolver) := by
  have hw : w ≠ .reset := by
    rintro rfl
    cases failure
  have hrejected : ¬ w.entries.accepted = true := by
    intro haccepted
    obtain ⟨r, success⟩ := (ht.valid.perform_isOk_iff w).mpr haccepted
    rw [failure] at success
    cases success
  refine ⟨ht.valid, ht.defaults_eq, ?_, fun o => ?_⟩
  · exact ht.overrides.trans (History.openOverrides_write hw _).symm
  · show _ = History.lastWrite? o (.write w :: point.history)
    rw [History.lastWrite?_write hw, Entries.stored?, if_neg hrejected]
    exact ht.written o

/-- A block that is entered has its override in force, innermost. -/
theorem enter (ht : Tracks defaults point) {name v : Value} {r : Resolver}
    (success : point.resolver.enter name v = .ok r) :
    Tracks defaults (point.next (.enter name v) r) ∧
      ∃ s, r.overrides = s :: point.resolver.overrides := by
  have hvalid := ht.valid.enter success
  rw [ht.valid.enter_eq] at success
  cases hs : verdict name v with
  | error e => simp [hs, Except.map] at success
  | ok s =>
    obtain rfl : point.resolver.push s = r := by simpa [hs, Except.map] using success
    refine ⟨⟨hvalid, ht.defaults_eq, ?_, ht.written⟩, s, rfl⟩
    show s :: point.resolver.overrides = History.openOverrides (.enter name v :: point.history)
    rw [History.openOverrides_enter hs, ht.overrides]

/-- A block that cannot be entered leaves no trace. -/
theorem enter_failed (ht : Tracks defaults point) {name v : Value} {e : OptionError}
    (failure : point.resolver.enter name v = .error e) :
    Tracks defaults (point.next (.enter name v) point.resolver) := by
  rw [ht.valid.enter_eq] at failure
  cases hs : verdict name v with
  | ok s => simp [hs, Except.map] at failure
  | error e =>
    refine ⟨ht.valid, ht.defaults_eq, ?_, ht.written⟩
    exact ht.overrides.trans (History.openOverrides_enter_error hs _).symm

/-- A block that is left takes its override with it.  The overrides at its end are those that it
    was entered with, or none after a reset. -/
theorem leave (ht : Tracks defaults point) {r : Resolver} {s : Setting}
    (hkept : point.resolver.overrides = s :: r.overrides ∨ point.resolver.overrides = []) :
    Tracks defaults (point.next .leave (point.resolver.leave r.depth)) ∧
      ((point.resolver.leave r.depth).overrides = r.overrides ∨
        (point.resolver.leave r.depth).overrides = []) := by
  have hdrop := Resolver.overrides_leave hkept
  refine ⟨⟨ht.valid.leave _, ht.defaults_eq, ?_, ht.written⟩, ?_⟩
  · show _ = History.openOverrides (.leave :: point.history)
    rw [History.openOverrides_leave, ← ht.overrides]
    exact hdrop
  · rw [hdrop]
    rcases hkept with hkept | hkept <;> simp [hkept]

end Tracks

/-! ### Runs -/

/-- A run whose points hold what their histories say, and which ends with the overrides of its
    start, or with none after a reset. -/
structure Run.Layered {ε α : Type} (defaults : OptionValues) (start : Resolver) (run : Run ε α) :
    Prop where
  points : ∀ q ∈ run.points, Tracks defaults q
  last : Tracks defaults run.last
  overrides : run.last.resolver.overrides = start.overrides ∨ run.last.resolver.overrides = []

/-- A run may be put after points that hold what their histories say. -/
theorem Run.Layered.after {ε α : Type} {defaults : OptionValues} {start r : Resolver}
    {run : Run ε α} (hrun : run.Layered defaults r) {earlier : List Point}
    (hearlier : ∀ q ∈ earlier, Tracks defaults q)
    (hkept : r.overrides = start.overrides ∨ r.overrides = []) :
    (run.after earlier).Layered defaults start := by
  refine ⟨fun q hq => ?_, hrun.last, ?_⟩
  · rcases List.mem_append.mp hq with hq | hq
    · exact hearlier q hq
    · exact hrun.points q hq
  · rcases hrun.overrides with h | h
    · rw [← h] at hkept
      exact hkept
    · exact .inr h

/-- Every run from a point that holds what its history says is layered. -/
theorem Program.run_tracks {ε α : Type} {defaults : OptionValues} (p : Program ε α)
    {point : Point} (ht : Tracks defaults point) :
    (p.run point).Layered defaults point.resolver := by
  induction p generalizing point with
  | done outcome =>
    refine ⟨fun q hq => ?_, ht, .inl rfl⟩
    rw [List.mem_singleton.mp hq]
    exact ht
  | get name next ih =>
    exact (ih _ ht).after (by simpa using ht) (.inl rfl)
  | write w next ih =>
    rw [run]
    cases hw : point.resolver.perform w with
    | error e => exact (ih _ (ht.write_failed hw)).after (by simpa using ht) (.inl rfl)
    | ok r =>
      obtain ⟨hwritten, hkept⟩ := ht.write hw
      exact (ih _ hwritten).after (by simpa using ht) hkept
  | block name v body next ihbody ihnext =>
    rw [run, Resolver.withOverride]
    cases henter : point.resolver.enter name v with
    | error e => exact (ihnext _ (ht.enter_failed henter)).after (by simpa using ht) (.inl rfl)
    | ok inside =>
      obtain ⟨hinside, s, hs⟩ := ht.enter henter
      -- The body keeps the override of its block on top, unless a reset drops all of them.
      have hbody := ihbody hinside
      obtain ⟨hleft, hkept⟩ := hbody.last.leave (r := point.resolver) (s := s) (by
        simpa [Point.next, hs] using hbody.overrides)
      refine (ihnext _ hleft).after (fun q hq => ?_) hkept
      rcases List.mem_cons.mp hq with rfl | hq
      · exact ht
      · exact hbody.points q hq

/-- An option is found under both of its names. -/
theorem get_of_mem_names (r : Resolver) (o : OptionName) :
    ∀ name ∈ [o.canonical, o.inFiles], r.get (.text name) = .ok (r.setting o) := by
  have hnames : ∀ name ∈ [o.canonical, o.inFiles], OptionName.ofText? name = some o := by
    cases o <;> decide +kernel
  intro name hname
  have ho : resolveName (.text name) = .ok o := resolveName_eq_ok_iff.mpr (hnames name hname)
  simp [Resolver.get, ho]

/-- A resolver that was built starts out with the empty history. -/
theorem tracks_of_build {entries : Entries} {r : Resolver}
    (hbuilt : Resolver.build entries = .ok r) : Tracks r.defaults ⟨[], r⟩ := by
  have hvalid := Resolver.valid_of_build hbuilt
  unfold Resolver.build at hbuilt
  repeat' split at hbuilt
  all_goals cases hbuilt
  exact ⟨hvalid, rfl, rfl, fun o => rfl⟩

/-- **At every point of every run an option is what its layers say.**  From a resolver that was
    built, the value under either name of an option is that of the innermost override of it that is
    still open, else that of the last successful write of it since the last reset, else the
    default.  Which writes and which overrides succeed is said without the resolver too, and an
    attempt at one option leaves the values of the others as they are. -/
theorem Program.run_layered {ε α : Type} {entries : Entries} {r : Resolver}
    (hbuilt : Resolver.build entries = .ok r) (p : Program ε α) :
    (∀ point ∈ (p.run ⟨[], r⟩).points, ∀ o : OptionName, ∀ name ∈ [o.canonical, o.inFiles],
      point.resolver.get (.text name) = .ok (point.history.effective r.defaults o)) ∧
    (∀ point ∈ (p.run ⟨[], r⟩).points,
      (∀ w, (∃ r', point.resolver.perform w = .ok r') ↔ w.entries.accepted = true) ∧
      ∀ name v, (∃ r', point.resolver.enter name v = .ok r') ↔ ∃ s, verdict name v = .ok s) ∧
    ∀ before ∈ (p.run ⟨[], r⟩).points, ∀ after ∈ (p.run ⟨[], r⟩).points, ∀ d o,
      after.history = d :: before.history → ¬ before.history.Concerns o d →
        ∀ name ∈ [o.canonical, o.inFiles],
          after.resolver.get (.text name) = before.resolver.get (.text name) := by
  have hpoints := (p.run_tracks (tracks_of_build hbuilt)).points
  refine ⟨?_, ?_, ?_⟩
  · intro point hpoint o name hname
    rw [get_of_mem_names _ o name hname, (hpoints point hpoint).setting]
  · intro point hpoint
    have hvalid := (hpoints point hpoint).valid
    refine ⟨hvalid.perform_isOk_iff, fun name v => ?_⟩
    rw [hvalid.enter_eq]
    cases verdict name v <;> simp [Except.map]
  · intro before hbefore after hafter d o hnext hother name hname
    rw [get_of_mem_names _ o name hname, get_of_mem_names _ o name hname,
      (hpoints after hafter).setting, (hpoints before hbefore).setting, hnext,
      History.effective_of_not_concerns _ hother]

/-- Two nested blocks.  The inner one resets the resolver, writes a new limit and gives up; the
    outer one catches the failure, writes to an unknown option in vain and ends as usual. -/
def resetInside : Program String Nat :=
  .write (.set (.text "maxKeyLength") (.int 80)) fun _ =>
    .block (.text "max_key_length") (.int 100)
      (.block (.text "inferredKeyFormat") (.text "literal")
        (.write .reset fun _ =>
          .write (.update [(.text "max_key_length", .int 60)]) fun _ =>
            .done (.error (.own "gives up")))
        fun _ => .write (.set (.text "keyFormat") (.text "literal")) fun _ => .done (.ok 1))
      .done

/-- The limit that was written inside outlasts both blocks. -/
theorem run_layered_resetInside :
    Resolver.build Section.builtIn.toEntries = .ok (.ofDefaults builtInValues) ∧
      (resetInside.run ⟨[], .ofDefaults builtInValues⟩).last.resolver.get
        (.text "maxKeyLength") = .ok (.maxKeyLength 60) ∧
      ∀ point ∈ (resetInside.run ⟨[], .ofDefaults builtInValues⟩).points,
        ∀ o : OptionName, ∀ name ∈ [o.canonical, o.inFiles],
          point.resolver.get (.text name) =
            .ok (point.history.effective builtInValues o) :=
  ⟨Resolver.build_builtIn, eq_ok_of_toOption (by decide +kernel),
    (resetInside.run_layered Resolver.build_builtIn).1⟩

end Phrasebook
