import Phrasebook.Project.Load
import Phrasebook.Proofs.Log.Records
import Phrasebook.Proofs.Options.Reachable
import Phrasebook.Proofs.Value.Equality

namespace Phrasebook

/-!
# Failures of loading

Each stage of loading either gives a result or fails for the first file that cannot be read, and it
accounts for that in the journal.  A directory and a text that breaks the rules of its notation are
reported by one error, and the message names the file; octets that are no text, an integer of too
many digits and a scalar without a value of its type are neither.

* `Log.Leaves` — what an activity adds to a journal;
* `Project.firstError?` — the first file that is there and cannot be read, with its fault;
* `LoadError.Documented` — a message that names the file, and one error that does;
* `Project.Accounts` — a stage fails for a certain file, or not at all, and reports it;
* `Accounts.andThen` — stages one after the other;
* `Project.load_accounts` — loading as a whole.
-/

namespace Log

open Entries

/-- Whether a record is that of an error. -/
def isError (record : Entries) : Bool :=
  decide (record.get? (.text "level") = some (.text Level.error.name))

/-- The record of an event is that of an error if the event is one. -/
theorem isError_kept (context : Entries) (e : Event) :
    isError (e.kept context) = decide (e.level = .error) := by
  have hlevel : (e.kept context).get? (.text "level") = some (.text e.level.name) :=
    Event.get?_kept (e.get?_level_record context) (by cases e.level <;> decide)
  unfold isError
  rw [hlevel]
  cases e.level <;> decide

/-- An activity adds these records to a journal and leaves its context a dictionary. -/
def Leaves {α : Type} (x : Logged α) (j : Journal) (added : List Entries) : Prop :=
  (x j).2.records = j.records ++ added ∧ (x j).2.context.Distinct

/-- An activity adds what its parts add. -/
theorem Leaves.bind {α β : Type} {x : Logged α} {f : α → Logged β} {j : Journal}
    {first second : List Entries} (hx : Leaves x j first)
    (hf : Leaves (f (x j).1) (x j).2 second) : Leaves (x >>= f) j (first ++ second) := by
  refine ⟨?_, hf.2⟩
  rw [bind_apply, hf.1, hx.1, List.append_assoc]

/-- Nothing is added where nothing is done. -/
theorem leaves_pure {α : Type} (a : α) {j : Journal} (h : j.context.Distinct) :
    Leaves (pure a : Logged α) j [] :=
  ⟨(List.append_nil _).symm, h⟩

/-- An event adds its record. -/
theorem leaves_report (e : Event) {j : Journal} (h : j.context.Distinct) :
    Leaves (report e) j [e.kept j.context] :=
  ⟨rfl, h⟩

/-- A scope that is left leaves a dictionary. -/
theorem distinct_leave {j : Journal} (h : j.context.Distinct) (b : Binding) :
    (j.leave b).context.Distinct := by
  have hbare : ∀ (names : List Value) {context : Entries}, context.Distinct →
      (names.foldl (fun acc k => acc.erase k) context).Distinct := by
    intro names
    induction names with
    | nil => exact fun h => h
    | cons k rest ih => exact fun h => ih (h.filter _)
  exact (hbare b.names h).merge _

/-- A scope adds what is done inside. -/
theorem leaves_inScope {α : Type} {s : Scope} {activity : Logged α} {j : Journal}
    {added : List Entries} (h : Leaves activity (j.enter s).1 added) :
    Leaves (inScope s activity) j added := by
  refine ⟨?_, distinct_leave h.2 _⟩
  show (activity (j.enter s).1).2.records = _
  rw [h.1, records_enter]

end Log

open Log

namespace FileFault

/-- A fault is reported if it is none of octets, long integers and scalars. -/
theorem isNotation_iff {fault : FileFault} :
    fault.isNotation = true ↔
      (∀ cause, fault ≠ .undecodable cause) ∧ (∀ digits, fault ≠ .longInteger digits) ∧
        ∀ cause, fault ≠ .scalar cause := by
  cases fault <;> simp [isNotation]

end FileFault

namespace LoadError

/-- An error record that names the file of a load error by its path, which is cut if it is past the
    limit on texts. -/
def Names (e : LoadError) (record : Entries) : Prop :=
  isError record = true ∧ record.get? (.text "event") = some (.text "config_parse_error") ∧
    record.get? fileKey = some (truncateValue standardLimit (.text e.path))

/-- The message of a load error begins with its file, and of the records one is that of an error
    and names the file. -/
def Documented (e : LoadError) (records : List Entries) : Prop :=
  (∃ words, e.message? = some ("Failed to parse " ++ e.path ++ words)) ∧
    ∃ record, records.filter isError = [record] ∧ e.Names record

/-- The message of a fault that is reported names the file. -/
theorem message?_of_isNotation {e : LoadError} (h : e.fault.isNotation = true) :
    ∃ words, e.message? = some ("Failed to parse " ++ e.path ++ words) := by
  unfold message?
  dsimp only
  rw [if_pos h]
  exact ⟨_, rfl⟩

end LoadError

namespace Project

/-! ### What a stage comes to -/

/-- A stage either gives a result without reporting an error, or fails as it should. -/
def Accounts {α : Type} (stage : Logged (Except LoadError α)) (failure : Option LoadError) :
    Prop :=
  ∀ j : Journal, j.context.Distinct → ∃ added, Leaves stage j added ∧
    match failure with
    | none => (∃ a, (stage j).1 = .ok a) ∧ added.filter isError = []
    | some e => (stage j).1 = .error e ∧
        if e.fault.isNotation then ∃ record, added.filter isError = [record] ∧ e.Names record
        else added.filter isError = []

/-- Stages one after the other fail as the first does, else as the second. -/
theorem Accounts.andThen {α β : Type} {stage : Logged (Except LoadError α)}
    {next : Except LoadError α → Logged (Except LoadError β)} {first second : Option LoadError}
    (hstage : Accounts stage first) (hfailed : ∀ e, next (.error e) = pure (.error e))
    (hnext : ∀ a, Accounts (next (.ok a)) second) :
    Accounts (stage >>= next) (first.or second) := by
  intro j hj
  obtain ⟨added, hleaves, houtcome⟩ := hstage j hj
  cases first with
  | some e =>
    obtain ⟨herror, hrecords⟩ := houtcome
    refine ⟨added ++ [], hleaves.bind ?_, ?_, ?_⟩
    · rw [herror, hfailed]
      exact leaves_pure _ hleaves.2
    · rw [bind_apply, herror, hfailed]
      rfl
    · rwa [List.append_nil]
  | none =>
    obtain ⟨⟨a, ha⟩, hnone⟩ := houtcome
    obtain ⟨more, hmore, houtcome⟩ := hnext a _ hleaves.2
    refine ⟨added ++ more, hleaves.bind (by rwa [ha]), ?_⟩
    rw [bind_apply, ha, List.filter_append, hnone, List.nil_append]
    exact houtcome

/-- A stage that only gives a result. -/
theorem accounts_pure {α : Type} (a : α) :
    Accounts (pure (.ok a) : Logged (Except LoadError α)) none :=
  fun _ hj => ⟨[], leaves_pure _ hj, ⟨a, rfl⟩, rfl⟩

/-- A stage that gives a result after an event that is no error. -/
theorem accounts_report {α : Type} {e : Event} (h : e.level ≠ .error) (a : α) :
    Accounts (do report e; return .ok a) none := by
  intro j hj
  refine ⟨_, (leaves_report e hj).bind (leaves_pure _ hj), ⟨a, rfl⟩, ?_⟩
  simp [isError_kept, h]

/-! ### Reading a file -/

variable {s : Site}

/-- The fault of a file at a site, if it cannot be read. -/
def faultOf? (s : Site) (file : ConfigFile) (content : FileContent) : Option LoadError :=
  match s.read file content with
  | .ok _ => none
  | .error fault => some ⟨file.path s.base, fault⟩

/-- The report on a file that cannot be read names the file. -/
theorem names_parseFailed (e : LoadError) {j : Journal} (hj : j.context.Distinct)
    (hfile : j.context.get? fileKey = some (.text e.path)) :
    e.Names ((parseFailed e).kept j.context) := by
  refine ⟨?_, ?_, ?_⟩
  · rw [isError_kept]
    rfl
  · exact Event.get?_kept (Event.get?_event_record _ _) (by decide)
  · -- The event itself brings no field of that name, whatever its words are.
    have hown : (parseFailed e).own.contains (.text "file") = false := by
      unfold parseFailed
      cases e.fault.detail? e.path <;> rfl
    refine Event.get?_kept_of_record ?_
    rw [← hfile]
    exact Event.get?_record_of_context hj (by decide) hown

/-- Reading a file fails for its fault. -/
theorem accounts_readReported (file : ConfigFile) (content : FileContent) :
    Accounts (readReported s file content) (faultOf? s file content) := by
  intro j hj
  have hinside := distinct_enter hj ⟨some (.text (file.path s.base)), none, []⟩
  have hfile := get?_file_enter j (.text (file.path s.base))
  unfold readReported faultOf?
  cases s.read file content with
  | ok v => exact ⟨[], leaves_inScope (leaves_pure _ hinside), ⟨v, rfl⟩, rfl⟩
  | error fault =>
    dsimp only
    cases hkind : fault.isNotation with
    | true =>
      refine ⟨_, leaves_inScope
        ((leaves_report (parseFailed ⟨file.path s.base, fault⟩) hinside).bind
          (leaves_pure _ hinside)),
        rfl, ?_⟩
      have hnames := names_parseFailed ⟨file.path s.base, fault⟩ hinside hfile
      rw [if_pos rfl, List.append_nil]
      exact ⟨_, by rw [List.filter_cons, if_pos hnames.1, List.filter_nil], hnames⟩
    | false =>
      exact ⟨[], leaves_inScope (leaves_pure _ hinside), rfl, by rw [if_neg (by simp)]; rfl⟩

/-- So does getting its entries from `package.json`. -/
theorem accounts_loadPackage (content : FileContent) :
    Accounts (loadPackage s content) (faultOf? s .package content) := by
  rw [← Option.or_none (o := faultOf? s .package content)]
  refine (accounts_readReported .package content).andThen (fun _ => rfl) fun v => ?_
  dsimp only
  cases section? v with
  | none => exact accounts_pure none
  | some entries => exact accounts_report (by nofun) (some entries)

/-- And from `.i18nrc`. -/
theorem accounts_loadRc (content : FileContent) :
    Accounts (loadRc s content) (faultOf? s .rc content) := by
  rw [← Option.or_none (o := faultOf? s .rc content)]
  refine (accounts_readReported .rc content).andThen (fun _ => rfl) fun v => ?_
  dsimp only
  cases entries? v with
  | none => exact accounts_report (by nofun) none
  | some entries => exact accounts_report (by nofun) (some entries)

/-- A file that is not there is no failure. -/
theorem accounts_loadIfThere {file : ConfigFile}
    {stage : FileContent → Logged (Except LoadError (Option Entries))}
    (h : ∀ content, Accounts (stage content) (faultOf? s file content))
    (content : Option FileContent) :
    Accounts (loadIfThere content stage) (content.bind (faultOf? s file)) := by
  cases content with
  | none => exact accounts_pure none
  | some content => exact h content

/-! ### Loading -/

/-- The first file of a project that is there and cannot be read. -/
def firstError? (s : Site) (p : Project) : Option LoadError :=
  (p.package.bind (faultOf? s .package)).or (p.rc.bind (faultOf? s .rc))

/-- Loading fails for the first file that cannot be read. -/
theorem accounts_loadAt (p : Project) : Accounts (p.loadAt s) (p.firstError? s) := by
  unfold firstError?
  rw [← Option.or_none (o := p.rc.bind (faultOf? s .rc))]
  refine (accounts_loadIfThere accounts_loadPackage p.package).andThen (fun _ => rfl)
    fun package => ?_
  refine (accounts_loadIfThere accounts_loadRc p.rc).andThen (fun _ => rfl) fun rc => ?_
  dsimp only
  cases ((combine package rc).get? pluginsKey).filter Value.isPresent with
  | none => exact accounts_pure _
  | some plugins => exact accounts_report (by nofun) _

/-- **What comes of loading**, in every directory and however YAML is read.  If no file is there that
    cannot be read, a project loads, and no error is reported.  Otherwise loading fails for the first
    such file.  The message names that file, and one error is reported which names it too, exactly if
    the file is not at fault for octets that are no text, an integer of too many digits or a scalar
    without a value of its type; for those no error is reported. -/
theorem load_accounts (s : Site) (p : Project) {j : Journal} (hj : j.context.Distinct) :
    ∃ added, (p.loadAt s j).2.records = j.records ++ added ∧
      match p.firstError? s with
      | none => (∃ config, (p.loadAt s j).1 = .ok config) ∧ added.filter isError = []
      | some e => (p.loadAt s j).1 = .error e ∧
          (e.Documented added ↔
            (∀ cause, e.fault ≠ .undecodable cause) ∧ (∀ digits, e.fault ≠ .longInteger digits) ∧
              ∀ cause, e.fault ≠ .scalar cause) ∧
          (¬ e.Documented added → added.filter isError = []) := by
  obtain ⟨added, hleaves, houtcome⟩ := accounts_loadAt (s := s) p j hj
  refine ⟨added, hleaves.1, ?_⟩
  cases hfirst : p.firstError? s with
  | none => rwa [hfirst] at houtcome
  | some e =>
    rw [hfirst] at houtcome
    obtain ⟨herror, hrecords⟩ := houtcome
    refine ⟨herror, ?_⟩
    -- Faults in the notation are reported, the others are not.
    rw [← FileFault.isNotation_iff]
    cases hkind : e.fault.isNotation with
    | true =>
      rw [if_pos hkind] at hrecords
      have hdocumented : e.Documented added :=
        ⟨LoadError.message?_of_isNotation hkind, hrecords⟩
      exact ⟨iff_of_true hdocumented rfl, fun hnot => absurd hdocumented hnot⟩
    | false =>
      rw [hkind, if_neg Bool.false_ne_true] at hrecords
      have hundocumented : ¬ e.Documented added := by
        rintro ⟨-, record, hone, -⟩
        cases hrecords.symm.trans hone
      exact ⟨iff_of_false hundocumented Bool.false_ne_true, fun _ => hrecords⟩

/-- A `package.json` that ends after its first brace is named, and one error is reported. -/
theorem load_accounts_truncated :
    (Journal.empty fun _ => "").context.Distinct ∧
      firstError? ⟨"app", readYaml⟩ ⟨some (.octets [0x7b]), none⟩ =
        some ⟨"app/package.json", .json .expectingName ['{'] 1⟩ ∧
      ∃ added,
        (loadAt ⟨"app", readYaml⟩ ⟨some (.octets [0x7b]), none⟩ (.empty fun _ => "")).2.records =
          added ∧
        LoadError.Documented ⟨"app/package.json", .json .expectingName ['{'] 1⟩ added := by
  have hdistinct : (Journal.empty fun _ => "").context.Distinct := List.Pairwise.nil
  have hfirst : firstError? ⟨"app", readYaml⟩ ⟨some (.octets [0x7b]), none⟩ =
      some ⟨"app/package.json", .json .expectingName ['{'] 1⟩ := by decide +kernel
  obtain ⟨added, hadded, houtcome⟩ :=
    load_accounts ⟨"app", readYaml⟩ ⟨some (.octets [0x7b]), none⟩ hdistinct
  rw [hfirst] at houtcome
  exact ⟨hdistinct, hfirst, added, hadded, houtcome.2.1.mpr ⟨nofun, nofun, nofun⟩⟩

/-- A `package.json` of an octet that is no text is neither named nor reported. -/
theorem load_not_documented :
    ∃ e, (load ⟨some (.octets [0xff]), none⟩ (.empty fun _ => "")).1 = .error e ∧
      e.message? =
        some "'utf-8' codec can't decode byte 0xff in position 0: invalid start byte" ∧
      (load ⟨some (.octets [0xff]), none⟩ (.empty fun _ => "")).2.records = [] ∧
      ¬ e.Documented (load ⟨some (.octets [0xff]), none⟩ (.empty fun _ => "")).2.records := by
  have hrecords :
      (load ⟨some (.octets [0xff]), none⟩ (.empty fun _ => "")).2.records = [] := by
    decide +kernel
  refine ⟨⟨"package.json", .undecodable ⟨0xff, 0, 1, .invalidStart⟩⟩, ?_, by decide +kernel,
    hrecords, ?_⟩
  · decide +kernel
  · rw [hrecords]
    rintro ⟨-, record, hone, -⟩
    cases hone

end Project

end Phrasebook
