import Phrasebook.Log.Journal
import Phrasebook.Proofs.Value.Dictionary

namespace Phrasebook

/-!
# Fields of records

What a record of an event says, whatever the context it happened in:

* `Event.get?_level_record`, `Event.get?_event_record`, `Event.get?_field_record` — its level, its
  name and its fields are those of the event;
* `Event.get?_record_of_context` — a field that the event does not have is that of the context;
* `Event.get?_kept` — cutting long texts keeps the fields and the short texts;
* `Tells`, `tells_kept` — so the record that a journal keeps of an event tells all of it, but for
  the ends of long texts;
* `get?_file_enter` — inside a scan of a file the context names that file.
-/

namespace Entries

/-- Entries under other keys do not matter to what is under a text. -/
theorem get?_text_merge_of_not_contains {more : Entries} {s : String}
    (h : more.contains (.text s) = false) (entries : Entries) :
    (Entries.merge entries more).get? (.text s) = entries.get? (.text s) := by
  unfold Entries.merge
  induction more generalizing entries with
  | nil => rfl
  | cons e rest ih =>
    rw [contains, List.any_cons, Bool.or_eq_false_iff] at h
    obtain ⟨hkey, hrest⟩ := h
    rw [List.foldl_cons, ih hrest,
      get?_text_insert_of_ne (Value.sameKey_text_eq_false_iff.mp hkey)]

/-- Leaving out entries under other keys does not either. -/
theorem get?_text_filter {keep : Value × Value → Bool} {s : String}
    (h : ∀ v, keep (.text s, v) = true) (entries : Entries) :
    Entries.get? (.text s) (entries.filter keep) = entries.get? (.text s) := by
  induction entries with
  | nil => rfl
  | cons e rest ih =>
    obtain ⟨k, v⟩ := e
    by_cases hk : k = .text s
    · subst hk
      simp [h v, get?, Value.sameKey]
    · have hother : k.sameKey (.text s) = false := Value.sameKey_text_eq_false_iff.mpr hk
      by_cases hkeep : keep (k, v) = true
      · simp [hkeep, get?, hother, ih]
      · simp [hkeep, get?, hother, ih]

/-- What is left of a dictionary is one. -/
theorem Distinct.filter {entries : Entries} (h : entries.Distinct) (keep : Value × Value → Bool) :
    Entries.Distinct (entries.filter keep) :=
  List.Pairwise.sublist (List.filter_sublist.map _) h

end Entries

namespace Log

open Entries

/-! ### Single records -/

/-- Fields that have names of their own are found under them. -/
theorem get?_entriesOf {fields : List (String × Value)} (hnames : (fields.map (·.1)).Nodup)
    {f : String × Value} (hf : f ∈ fields) :
    (entriesOf fields).get? (.text f.1) = some f.2 := by
  have hdistinct : Distinct (fields.map fun g => (Value.text g.1, g.2)) := by
    unfold Distinct keys
    rw [List.map_map, List.pairwise_map]
    refine (List.pairwise_map.mp hnames).imp fun {a b} hne => ?_
    exact Value.sameKey_text_eq_false_iff.mpr fun h => hne (Value.text.inj h)
  rw [entriesOf, ofPairs_of_distinct hdistinct, hdistinct.get?_text_eq_some_iff]
  exact List.mem_map_of_mem hf

namespace Event

/-- What an event brings itself: the part of the library that it comes from, its fields, and its
    name. -/
def own (e : Event) : Entries :=
  Entries.insert (.text "event") (.text e.name)
    ((entriesOf [("component", .text e.component.name),
      ("module_path", .text ("extraction." ++ e.component.name))]).merge (entriesOf e.fields))

/-- A record is what the event brings, the rest of the context, and the level. -/
theorem record_eq (context : Entries) (e : Event) :
    e.record context = Entries.insert (.text "level") (.text e.level.name)
      (e.own.merge (context.filter fun f => !e.own.contains f.1)) := rfl

/-- The level of a record is that of its event. -/
theorem get?_level_record (context : Entries) (e : Event) :
    (e.record context).get? (.text "level") = some (.text e.level.name) := by
  rw [record_eq, get?_text_insert, if_pos rfl]

/-- What an event brings is in its record, whatever the context; the level alone has the last
    word. -/
theorem get?_record_of_own {context : Entries} {e : Event} {s : String} {v : Value}
    (hlevel : s ≠ "level") (hown : e.own.get? (.text s) = some v) :
    (e.record context).get? (.text s) = some v := by
  have hcontains : e.own.contains (.text s) = true :=
    contains_text_iff.mpr ⟨_, mem_of_get?_text hown⟩
  -- The context has been rid of the names that the event uses.
  have hcontext : Entries.contains (.text s)
      (context.filter fun f => !e.own.contains f.1) = false := by
    rw [Bool.eq_false_iff, ne_eq, contains_text_iff]
    rintro ⟨v, hv⟩
    have hnot := (List.mem_filter.mp hv).2
    rw [hcontains] at hnot
    cases hnot
  rw [record_eq, get?_text_insert, if_neg hlevel, get?_text_merge_of_not_contains hcontext, hown]

/-- The name of a record is that of its event. -/
theorem get?_event_record (context : Entries) (e : Event) :
    (e.record context).get? (.text "event") = some (.text e.name) := by
  refine get?_record_of_own (by decide) ?_
  unfold own
  rw [get?_text_insert, if_pos rfl]

/-- The fields of a record are those of its event. -/
theorem get?_field_record {context : Entries} {e : Event} (hnames : (e.fields.map (·.1)).Nodup)
    {f : String × Value} (hf : f ∈ e.fields) (hevent : f.1 ≠ "event") (hlevel : f.1 ≠ "level") :
    (e.record context).get? (.text f.1) = some f.2 := by
  have hdistinct : (entriesOf e.fields).Distinct := distinct_ofPairs _
  refine get?_record_of_own hlevel ?_
  unfold own
  rw [get?_text_insert, if_neg hevent, hdistinct.get?_text_merge, get?_entriesOf hnames hf,
    Option.some_or]

/-- A field that the event does not bring is that of the context. -/
theorem get?_record_of_context {context : Entries} (hdistinct : context.Distinct) {e : Event}
    {s : String} (hlevel : s ≠ "level") (hown : e.own.contains (.text s) = false) :
    (e.record context).get? (.text s) = context.get? (.text s) := by
  have hnone : e.own.get? (.text s) = none := by
    rw [Option.eq_none_iff_forall_ne_some]
    intro v hv
    rw [contains_text_iff.mpr ⟨v, mem_of_get?_text hv⟩] at hown
    cases hown
  have hfilter := hdistinct.filter fun f => !e.own.contains f.1
  rw [record_eq, get?_text_insert, if_neg hlevel, hfilter.get?_text_merge, hnone, Option.or_none,
    get?_text_filter (by simp [hown])]

end Event

/-! ### Cut texts -/

/-- A record that has been through the limit has the same fields, their long texts cut. -/
theorem get?_truncate (limit : Int) (key : Value) (entries : Entries) :
    ((Processor.truncateLargeValues limit).run entries).get? key =
      (entries.get? key).map (truncateValue limit) := by
  show Entries.get? key (entries.map fun e => (e.1, truncateValue limit e.2)) = _
  induction entries with
  | nil => rfl
  | cons e rest ih =>
    obtain ⟨k, v⟩ := e
    rw [List.map_cons, get?, get?]
    split
    · rfl
    · exact ih

/-- A text within the limit is left as it is. -/
theorem truncateValue_of_le {limit : Int} {s : String} (h : s.length ≤ limit) :
    truncateValue limit (.text s) = .text s :=
  if_neg (Int.not_lt.mpr h)

/-- The record of an event as it is kept: long texts are cut. -/
def Event.kept (context : Entries) (e : Event) : Entries :=
  (Processor.truncateLargeValues standardLimit).run (e.record context)

/-- A value is kept, cut if it is a long text. -/
theorem Event.get?_kept_of_record {context : Entries} {e : Event} {key v : Value}
    (h : (e.record context).get? key = some v) :
    (e.kept context).get? key = some (truncateValue standardLimit v) := by
  unfold kept
  rw [get?_truncate, h, Option.map_some]

/-- A short text is kept as it is. -/
theorem Event.get?_kept {context : Entries} {e : Event} {key : Value} {s : String}
    (h : (e.record context).get? key = some (.text s)) (hshort : s.length ≤ standardLimit) :
    (e.kept context).get? key = some (.text s) := by
  rw [get?_kept_of_record h, truncateValue_of_le hshort]

/-- A record tells of an event: it has the level, the name and every field, long texts cut. -/
structure Tells (record : Entries) (e : Event) : Prop where
  level : record.get? (.text "level") = some (.text e.level.name)
  name : record.get? (.text "event") = some (.text e.name)
  fields : ∀ f ∈ e.fields, record.get? (.text f.1) = some (truncateValue standardLimit f.2)

/-- What is kept of an event tells of it, if its fields have names of their own. -/
theorem tells_kept (context : Entries) {e : Event} (hshort : e.name.length ≤ standardLimit)
    (hnames : ("event" :: "level" :: e.fields.map (·.1)).Nodup) : Tells (e.kept context) e := by
  obtain ⟨hevent, hnames⟩ := List.nodup_cons.mp hnames
  obtain ⟨hlevel, hnames⟩ := List.nodup_cons.mp hnames
  refine ⟨Event.get?_kept (e.get?_level_record context) (by cases e.level <;> decide),
    Event.get?_kept (e.get?_event_record context) hshort, fun f hf => ?_⟩
  have hmem : f.1 ∈ e.fields.map (·.1) := List.mem_map_of_mem hf
  have hfield : (e.record context).get? (.text f.1) = some f.2 :=
    Event.get?_field_record hnames hf (fun h => hevent (List.mem_cons_of_mem _ (h ▸ hmem)))
      (fun h => hlevel (h ▸ hmem))
  exact Event.get?_kept_of_record hfield

/-! ### Scans -/

/-- Inside a scan of a file the context names the file. -/
theorem get?_file_enter (j : Journal) (file : Value) :
    (j.enter ⟨some file, none, []⟩).1.context.get? fileKey = some file := by
  show (Entries.insert fileKey file _).get? (.text "file") = _
  rw [fileKey, get?_text_insert, if_pos rfl]

/-- It stays a dictionary. -/
theorem distinct_enter {j : Journal} (h : j.context.Distinct) (s : Scope) :
    (j.enter s).1.context.Distinct :=
  h.merge _

/-- Entering a scan reports nothing. -/
theorem records_enter (j : Journal) (s : Scope) : (j.enter s).1.records = j.records := by
  show (j.identify s).2.records = j.records
  unfold Journal.identify
  split <;> rfl

end Log

end Phrasebook
