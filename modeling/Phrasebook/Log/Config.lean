import Phrasebook.Log.Journal
import Phrasebook.Text.Case

namespace Phrasebook.Log

/-!
# Sinks

Where records go is decided once: the least severity that gets through, and how lines are written.

* `levelOfName` — the severity that a level name stands for;
* `Sink.configure` — the sink that a choice of options gives;
* `Sink.lines` — the records that a sink writes of some messages.
-/

/-- How lines are written. -/
inductive Renderer where
  /-- One object a line, for machines. -/
  | json
  /-- For people. -/
  | console
  /-- Nothing is written. -/
  | silent
  deriving DecidableEq, Repr

/-- The name of a renderer. -/
def Renderer.name : Renderer → String
  | .json => "json"
  | .console => "console"
  | .silent => "none"

/-- The severities that level names stand for. -/
def levelNames : List (String × Nat) :=
  [("CRITICAL", 50), ("FATAL", 50), ("ERROR", 40), ("WARNING", 30), ("WARN", 30), ("INFO", 20),
    ("DEBUG", 10), ("NOTSET", 0)]

/-- The severity of a level name in any case; an unknown name means `INFO`. -/
def levelOfName (name : String) : Nat :=
  (levelNames.lookup (String.ofList (Text.upper name.toList))).getD Level.info.severity

/-- Above every severity. -/
def silence : Nat := 51

/-- Where records go. -/
structure Sink where
  threshold : Nat
  renderer : Renderer
  steps : List Processor

/-- What is known when a sink is set up. -/
structure Choice where
  /-- A level name given outright; an empty one counts as none. -/
  level : Option String
  /-- Whether lines are for machines, given outright. -/
  production : Option Bool
  /-- Further steps. -/
  steps : List Processor
  /-- Whether tests are run, in which nothing is written. -/
  underTest : Bool

/-- The sink of a choice, given the level name and the mode of the settings. -/
def Sink.configure (settingsLevel : String) (settingsProduction : Bool) (c : Choice) : Sink :=
  if c.underTest then ⟨silence, .silent, []⟩
  else
    let level := (c.level.filter fun s => !s.isEmpty).getD settingsLevel
    ⟨levelOfName level, if c.production.getD settingsProduction then .json else .console,
      .truncateLargeValues standardLimit :: c.steps⟩

/-- A message to a sink: level, name, and fields, some bound in advance. -/
structure Message where
  level : Level
  name : String
  bound : Entries
  fields : Entries

/-- Fields that belong to the machinery of logging and never show. -/
def hiddenFields : List String :=
  ["exc_info", "stack_info", "timestamp", "filename", "lineno", "func_name"]

/-- The record that a sink writes of a message. -/
def Sink.line (s : Sink) (context : Entries) (m : Message) : Entries :=
  (process s.steps (record context m.bound m.fields m.level m.name)).filter fun e =>
    !hiddenFields.any fun name => e.1.sameKey (.text name)

/-- The records that a sink writes of some messages: those grave enough. -/
def Sink.lines (s : Sink) (context : Entries) (messages : List Message) : List Entries :=
  (messages.filter fun m => s.threshold ≤ m.level.severity).map (s.line context)

end Phrasebook.Log
