import Phrasebook.Log.Processor

namespace Phrasebook.Log

/-!
# The journal and its context

A journal holds the records of the events reported so far and the context that is bound to events
while a scan goes on.

* `Journal.report` — an event is recorded in the context in force;
* `Scope` — what a scan binds: an identifier, a file, other fields;
* `Journal.enter`, `Journal.leave` — a scope is bound, and every name that it bound gets back the
  value it had before, or none;
* `inScope` — an activity inside a scope.

A scope without an identifier of its own takes the one in force, and a fresh one if there is none.
-/

/-- Records, context, and the supply of fresh identifiers with the number of those used. -/
structure Journal where
  supply : Nat → String
  issued : Nat
  context : Entries
  records : List Entries

/-- Activities that may report events. -/
abbrev Logged := StateM Journal

/-- A journal without records or context. -/
def Journal.empty (supply : Nat → String) : Journal := ⟨supply, 0, [], []⟩

/-- Records an event, long texts cut. -/
def Journal.report (j : Journal) (e : Event) : Journal :=
  { j with
    records :=
      j.records ++ [(Processor.truncateLargeValues standardLimit).run (e.record j.context)] }

/-- Reports an event. -/
def report (e : Event) : Logged Unit := modify fun j => j.report e

/-- The key of the identifier of a scan. -/
def scanKey : Value := .text "scan_id"

/-- The key of the file that is scanned. -/
def fileKey : Value := .text "file"

/-- What a scan binds. -/
structure Scope where
  file : Option Value
  scanId : Option Value
  extra : Entries

/-- What was bound, and the context before. -/
structure Binding where
  names : List Value
  previous : Entries

namespace Journal

/-- The identifier in force. -/
def scanId (j : Journal) : Option Value := j.context.get? scanKey

/-- The identifier that a scope gives its events, and the journal that has issued it if it is
    fresh. -/
def identify (j : Journal) (s : Scope) : Value × Journal :=
  match (s.scanId.filter Value.isPresent).or (j.scanId.filter Value.isPresent) with
  | some id => (id, j)
  | none => (.text (j.supply j.issued), { j with issued := j.issued + 1 })

/-- The fields that a scope binds under an identifier. -/
def scopeFields (s : Scope) (id : Value) : Entries :=
  Entries.merge ((scanKey, id) :: (s.file.map fun f => (fileKey, f)).toList) s.extra

/-- Binds a scope. -/
def enter (j : Journal) (s : Scope) : Journal × Binding :=
  let (id, j') := j.identify s
  let fields := scopeFields s id
  ({ j' with context := j.context.merge fields }, ⟨fields.keys, j.context⟩)

/-- Unbinds the names of a scope and gives back the values they had before it. -/
def leave (j : Journal) (b : Binding) : Journal :=
  let bare := b.names.foldl (fun acc k => acc.erase k) j.context
  let restored := b.previous.filter fun e => b.names.any e.1.sameKey
  { j with context := bare.merge restored }

end Journal

/-- An activity inside a scope. -/
def inScope {α : Type} (s : Scope) (activity : Logged α) : Logged α := fun j =>
  let (j, b) := j.enter s
  let (a, j) := activity j
  (a, j.leave b)

end Phrasebook.Log
