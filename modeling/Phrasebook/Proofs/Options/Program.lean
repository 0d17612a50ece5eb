import Phrasebook.Options.Resolver

namespace Phrasebook

/-!
# Programs on options

Code that works with a resolver, and every point that its run passes:

* `Write`, `Resolver.perform` — the operations that last, and what each makes of a resolver;
* `Program` — code that writes, reads and runs blocks under overrides.  Whatever comes next is told
  how the step before it ended, so a failure may be passed on, caught further out, or ignored;
* `Deed` — what has been attempted so far, failed attempts among it;
* `Program.run` — a run from a point, with all the points on its way.
-/

/-- An operation that lasts beyond the block it stands in. -/
inductive Write where
  | set (name v : Value)
  | update (entries : Entries)
  | apply (config : Entries)
  | reset

/-- The entries that are to be stored, in order. -/
def Write.entries : Write → Entries
  | .set name v => [(name, v)]
  | .update entries => entries
  | .apply config => Resolver.recognised config
  | .reset => []

/-- What an operation makes of a resolver. -/
def Resolver.perform (r : Resolver) : Write → Except OptionError Resolver
  | .set name v => r.set name v
  | .update entries => r.update entries
  | .apply config => r.apply config
  | .reset => .ok r.reset

/-- Why a program ends early: an operation on options has failed, or the program gives up itself. -/
inductive Failure (ε : Type) where
  | option (error : OptionError)
  | own (error : ε)

/-- A program on a resolver, in which blocks are nested by construction.  The rest of a program
    takes the outcome of the step before it, also a failure. -/
inductive Program (ε α : Type) where
  | done (outcome : Except (Failure ε) α)
  | get (name : Value) (next : Except OptionError Setting → Program ε α)
  | write (w : Write) (next : Except OptionError Unit → Program ε α)
  | block (name v : Value) (body : Program ε α) (next : Except (Failure ε) α → Program ε α)

/-- Something that has been attempted.  A block that could not be entered is not left. -/
inductive Deed where
  | write (w : Write)
  | enter (name v : Value)
  | leave

/-- What has been attempted, the latest first. -/
abbrev History := List Deed

/-- A point of a run: what has been attempted before it, and the resolver there. -/
structure Point where
  history : History
  resolver : Resolver

/-- The point after an attempt that led to a resolver. -/
def Point.next (point : Point) (d : Deed) (r : Resolver) : Point := ⟨d :: point.history, r⟩

/-- A run: how it ends, where, and the points from its start to its end. -/
structure Run (ε α : Type) where
  outcome : Except (Failure ε) α
  last : Point
  points : List Point

/-- A run with earlier points put before its own. -/
def Run.after {ε α : Type} (earlier : List Point) (run : Run ε α) : Run ε α :=
  { run with points := earlier ++ run.points }

/-- Runs a program from a point. -/
def Program.run {ε α : Type} : Program ε α → Point → Run ε α
  | .done outcome, point => ⟨outcome, point, [point]⟩
  | .get name next, point => ((next (point.resolver.get name)).run point).after [point]
  | .write w next, point =>
    match point.resolver.perform w with
    | .ok r => ((next (.ok ())).run (point.next (.write w) r)).after [point]
    | .error e => ((next (.error e)).run (point.next (.write w) point.resolver)).after [point]
  | .block name v body next, point =>
    let inner := point.resolver.withOverride name v fun inside =>
      let run := body.run (point.next (.enter name v) inside)
      (run, run.last.resolver)
    match inner with
    | .ok (run, r) =>
      ((next run.outcome).run (run.last.next .leave r)).after (point :: run.points)
    | .error e =>
      ((next (.error (.option e))).run (point.next (.enter name v) point.resolver)).after [point]

end Phrasebook
