import Phrasebook.Session.Step

namespace Phrasebook

/-!
# Sessions

A session runs steps on one resolver, in order; a step that fails leaves the resolver as it was.

* `Session` — the resolver, the overrides kept open, the calls read so far;
* `Session.step`, `Session.run` — one step, and several.

Overrides may be left in any order: leaving one cuts all that were put in force after it.
-/

/-- A session. -/
structure Session where
  resolver : Resolver
  /-- The resolver shared by the whole process, unless it is the session's own. -/
  shared : Option (Except StartError Resolver)
  /-- Overrides kept open, with the number of overrides in force before each. -/
  opened : List (String × Nat)
  /-- Calls by name, and whether they use the shared resolver. -/
  calls : List (String × Call × Bool)
  journal : Log.Journal

namespace Session

/-- Runs a reporting activity. -/
def logged {α : Type} (s : Session) (activity : Log.Logged α) : α × Session :=
  let (a, journal) := activity s.journal
  (a, { s with journal := journal })

/-- The answer of an operation on the resolver: the effective values after it. -/
def settle (s : Session) : Except OptionError Resolver → Answer × Session
  | .ok r => (.values r.values, { s with resolver := r })
  | .error e => (.failed (.option e), s)

/-- The resolver that a call uses. -/
def resolverOf (s : Session) (shared : Bool) : Except StartError Resolver :=
  match shared, s.shared with
  | true, some r => r
  | _, _ => .ok s.resolver

/-- Reads a call and keeps it under a name. -/
def newCall (s : Session) (id : String) (q : Request) (shared : Bool) : Answer × Session :=
  match s.resolverOf shared with
  | .error e => (.failed (.start e), s)
  | .ok r =>
    match s.logged (Call.construct r.values q) with
    | (.error e, s) => (.failed (.call e), s)
    | (.ok c, s) =>
      (.call c (c.translations r.values), { s with calls := (id, c, shared) :: s.calls })

/-- Projects a call again. -/
def translations (s : Session) (id : String) : Answer :=
  match s.calls.lookup id with
  | none => .failed .unknownId
  | some (c, shared) =>
    match s.resolverOf shared with
    | .error e => .failed (.start e)
    | .ok r =>
      match c.translations r.values with
      | .ok pairs => .pairs pairs
      | .error e => .failed (.call e)

mutual

/-- One step. -/
def step (s : Session) : Step → Answer × Session
  | .get name =>
    match s.resolver.get name with
    | .ok setting => (.setting setting, s)
    | .error e => (.failed (.option e), s)
  | .isOption name =>
    match Phrasebook.isOption name with
    | .ok b => (.truth b, s)
    | .error e => (.failed (.option e), s)
  | .resolveName name =>
    match Phrasebook.resolveName name with
    | .ok o => (.name o, s)
    | .error e => (.failed (.option e), s)
  | .set name v =>
    let (result, s) := s.logged (s.resolver.setReported name v)
    s.settle result
  | .update entries =>
    let (result, s) := s.logged (s.resolver.updateReported entries)
    s.settle result
  | .reset => s.settle (.ok s.resolver.reset)
  | .snapshot => (.values s.resolver.values, s)
  | .defaults => (.values s.resolver.defaults, s)
  | .apply config =>
    match s.logged (s.resolver.applyReported config) with
    | (.ok r, s) => (.applied r.values, { s with resolver := r })
    | (.error e, s) => (.failed (.option e), s)
  | .enter id name v =>
    let depth := s.resolver.depth
    match s.resolver.enter name v with
    | .ok r => (.values r.values, { s with resolver := r, opened := (id, depth) :: s.opened })
    | .error e => (.failed (.option e), s)
  | .exit id =>
    match s.opened.lookup id with
    | none => (.failed .unknownId, s)
    | some depth =>
      let r := s.resolver.leave depth
      let opened := s.opened.filter fun o => o.1 != id
      (.values r.values, { s with resolver := r, opened := opened })
  | .withOverride name v steps raises =>
    match s.resolver.withOverride name v fun r =>
        let (answers, s) := run { s with resolver := r } steps
        ((answers, s), s.resolver) with
    | .error e => (.block [] (.error (.option e)) s.resolver.values, s)
    | .ok ((answers, s), r) =>
      let result := if raises then .error .raised else .ok answers.length
      (.block answers result r.values, { s with resolver := r })
  | .newCall id q shared => s.newCall id q shared
  | .translations id => (s.translations id, s)
termination_by structural t => t

/-- Several steps in order. -/
def run (s : Session) : List Step → List Answer × Session
  | [] => ([], s)
  | t :: rest =>
    let (answer, s) := step s t
    let (answers, s) := run s rest
    (answer :: answers, s)
termination_by structural list => list

end

end Session

end Phrasebook
