import Phrasebook.Call.Report
import Phrasebook.Options.Report
import Phrasebook.Settings.Environment

namespace Phrasebook.Session

/-!
# Steps of a session

What a session is asked to do, one step at a time, and what a step answers.  A block under an
override holds steps of its own.
-/

/-- Why a step fails. -/
inductive Failure where
  | option (e : OptionError)
  | call (e : CallError)
  | start (e : StartError)
  /-- The block under an override was left by an error of its own. -/
  | raised
  /-- No open override, or no call, has the name. -/
  | unknownId

namespace Failure

/-- The line that an error in a call brings along. -/
def line : Failure → Option Int
  | .call e => e.line
  | _ => none

/-- What is wrong, in words, if it is options or a call. -/
def detail? : Failure → Option String
  | .option e | .start (.options e) => e.message?
  | .call e => e.detail?
  | _ => none

/-- The same with the line. -/
def message? (e : Failure) : Option String := e.detail?.map (withLine e.line)

end Failure

/-- A step. -/
inductive Step where
  | get (option : Value)
  | isOption (option : Value)
  | resolveName (option : Value)
  | set (option value : Value)
  | update (values : Entries)
  | reset
  | snapshot
  | defaults
  | apply (config : Entries)
  /-- Puts an override in force and keeps it open under a name. -/
  | enter (id : String) (option value : Value)
  /-- Leaves an override. -/
  | exit (id : String)
  /-- Runs steps under an override; at their end the block may fail. -/
  | withOverride (option value : Value) (steps : List Step) (raises : Bool)
  /-- Reads a call under the session's options, or under those shared by the whole process. -/
  | newCall (id : String) (request : Request) (shared : Bool)
  /-- Projects a call again, under the options in force now. -/
  | translations (id : String)
  deriving Inhabited

/-- What a step answers. -/
inductive Answer where
  | setting (s : Setting)
  | truth (b : Bool)
  | name (o : OptionName)
  | values (v : OptionValues)
  | applied (v : OptionValues)
  | call (c : Call) (pairs : Except CallError (List (String × String)))
  | pairs (list : List (String × String))
  | block (answers : List Answer) (result : Except Failure Nat) (after : OptionValues)
  | failed (e : Failure)

end Phrasebook.Session
