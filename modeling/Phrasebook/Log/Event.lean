import Phrasebook.Value.Basic

namespace Phrasebook.Log

/-!
# Events

What the library reports about its work: events with a level, the component that reports them, a
name and fields.  `Event.record` is the flat record that a sink receives: the fields come before the
context in which the event happened, and the level before a field of that name.
-/

/-- How grave an event is. -/
inductive Level where
  | debug
  | info
  | warning
  | error
  | critical
  deriving DecidableEq, Repr

namespace Level

/-- The name in records. -/
def name : Level → String
  | .debug => "debug"
  | .info => "info"
  | .warning => "warning"
  | .error => "error"
  | .critical => "critical"

/-- The number by which levels are compared. -/
def severity : Level → Nat
  | .debug => 10
  | .info => 20
  | .warning => 30
  | .error => 40
  | .critical => 50

end Level

/-- The parts of the library that report events. -/
inductive Component where
  | calls
  | options
  | config
  deriving DecidableEq, Repr

/-- The name in records. -/
def Component.name : Component → String
  | .calls => "translate_call"
  | .options => "options"
  | .config => "config_loader"

/-- An event. -/
structure Event where
  level : Level
  component : Component
  name : String
  fields : List (String × Value)

/-- Fields with texts as keys. -/
def entriesOf (fields : List (String × Value)) : Entries :=
  Entries.ofPairs (fields.map fun f => (Value.text f.1, f.2))

/-- The record of a named event: context, bound fields and own fields, each before the one to its
    left, then the name and the level. -/
def record (context bound fields : Entries) (level : Level) (name : String) : Entries :=
  let own := ((bound.merge fields).insert (.text "event") (.text name))
  (own.merge (context.filter fun e => !own.contains e.1)).insert (.text "level") (.text level.name)

/-- The record of an event in a context. -/
def Event.record (context : Entries) (e : Event) : Entries :=
  Log.record context
    (entriesOf [("component", .text e.component.name),
      ("module_path", .text ("extraction." ++ e.component.name))])
    (entriesOf e.fields) e.level e.name

end Phrasebook.Log
