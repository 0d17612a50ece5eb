import Phrasebook.Call.Translations
import Phrasebook.Log.Journal

namespace Phrasebook

/-!
# Reports of calls

Every call that is read is reported once: a valid one with its key, an invalid one with the error
and the kinds of all its arguments.
-/

open Log

/-- The arguments of a call with its method and line. -/
structure Request where
  method : String
  line : Option Int
  args : List Argument

/-- An integer, or nothing. -/
def Value.ofLine : Option Int → Value
  | none => .null
  | some n => .int n

/-- The event of a valid call. -/
def callValidated (c : Call) : Event :=
  ⟨.debug, .calls, "translate_call_validated",
    [("method", .text c.method), ("line", Value.ofLine c.line),
      ("key", match c.key with | none => .null | some key => .text key),
      ("pluralized", .bool c.default.isPluralized)]⟩

/-- The event of an invalid call. -/
def callInvalid (q : Request) (detail : String) : Event :=
  ⟨.warning, .calls, "translate_call_invalid",
    [("method", .text q.method), ("line", Value.ofLine q.line),
      ("arg_kinds", .list (q.args.map fun a => .text a.kind)), ("error", .text detail)]⟩

/-- The valid call that a request is, and the report of it or of the error in it. -/
def Call.construct (values : OptionValues) (q : Request) : Logged (Except CallError Call) := do
  match Call.ofArguments values q.method q.line q.args with
  | .ok c => do
    report (callValidated c)
    return .ok c
  | .error e => do
    if let some detail := e.detail? then report (callInvalid q detail)
    return .error e

end Phrasebook
