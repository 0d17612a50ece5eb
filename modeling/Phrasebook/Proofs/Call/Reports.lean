import Phrasebook.Proofs.Call.Errors
import Phrasebook.Proofs.Log.Records
import Phrasebook.Session.Run

namespace Phrasebook

/-!
# Reports of calls

A session that reads a call reports it once, and the report and the error leave nothing out:

* `Log.Reports` — a journal that goes on from another with one event, whose record tells of it;
* `CallError.documented_iff` — the documented errors are those that have words;
* `Call.construct_of_ok`, `Call.construct_of_error` — what is reported of a call, and what is not;
* `Session.newCall_of_ok`, `Session.newCall_of_error` — what a session that reads it answers and
  keeps;
* `Session.newCall_reported` — the line, the words and the report of every call that is read.
-/

/-! ### One event more -/

namespace Log

/-- A journal goes on from another with the report of an event and nothing else: one record is
    added, and it tells of the event. -/
def Reports (j j' : Journal) (e : Event) : Prop :=
  j' = j.report e ∧ ∃ record, j'.records = j.records ++ [record] ∧ Tells record e

/-- Reporting an event does that. -/
theorem reports_report (j : Journal) {e : Event} (hshort : e.name.length ≤ standardLimit)
    (hnames : ("event" :: "level" :: e.fields.map (·.1)).Nodup) : Reports j (j.report e) e :=
  ⟨rfl, e.kept j.context, rfl, tells_kept j.context hshort hnames⟩

end Log

open Log

/-! ### What is reported -/

/-- The documented errors are those that have words. -/
theorem CallError.documented_iff {e : CallError} :
    e.Documented ↔ ∃ detail, e.detail? = some detail := by
  cases e <;> simp [Documented, detail?]

namespace Call

variable {values : OptionValues} {q : Request}

/-- The report of a valid call tells of the method and the line that were given, of its key and of
    its default. -/
theorem reports_callValidated {c : Call} (h : ofArguments values q.method q.line q.args = .ok c)
    (j : Journal) :
    Reports j (j.report (callValidated c)) ⟨.debug, .calls, "translate_call_validated",
      [("method", .text q.method), ("line", Value.ofLine q.line),
        ("key", (c.key.map Value.text).getD .null), ("pluralized", .bool c.default.isPluralized)]⟩
    := by
  have hshort : ("translate_call_validated".length : Int) ≤ standardLimit := by decide
  have hevent : callValidated c = ⟨.debug, .calls, "translate_call_validated",
      [("method", .text q.method), ("line", Value.ofLine q.line),
        ("key", (c.key.map Value.text).getD .null),
        ("pluralized", .bool c.default.isPluralized)]⟩ := by
    obtain ⟨sig, default, _, _, rfl⟩ := ofArguments_eq_ok_iff.mp h
    unfold callValidated
    dsimp only
    cases sig.key <;> rfl
  rw [hevent]
  exact reports_report j hshort (by simp)

/-- That of an invalid one tells of all the arguments that were given. -/
theorem reports_callInvalid (q : Request) (detail : String) (j : Journal) :
    Reports j (j.report (callInvalid q detail)) (callInvalid q detail) := by
  have hshort : ("translate_call_invalid".length : Int) ≤ standardLimit := by decide
  exact reports_report j hshort (by simp [callInvalid])

/-- A constructed call is reported as valid. -/
theorem construct_of_ok {c : Call} (h : ofArguments values q.method q.line q.args = .ok c)
    (j : Journal) : construct values q j = (.ok c, j.report (callValidated c)) := by
  unfold construct
  rw [h]
  rfl

/-- An error with words is reported with them. -/
theorem construct_of_error {e : CallError} {detail : String}
    (h : ofArguments values q.method q.line q.args = .error e) (hdetail : e.detail? = some detail)
    (j : Journal) : construct values q j = (.error e, j.report (callInvalid q detail)) := by
  unfold construct
  rw [h]
  dsimp only
  rw [hdetail]
  rfl

/-- An error without words is not reported. -/
theorem construct_of_silent {e : CallError}
    (h : ofArguments values q.method q.line q.args = .error e) (hdetail : e.detail? = none)
    (j : Journal) : construct values q j = (.error e, j) := by
  unfold construct
  rw [h]
  dsimp only
  rw [hdetail]
  rfl

end Call

/-! ### Sessions -/

namespace Session

/-- The words of an error come after its line, where there is one. -/
theorem Failure.message?_call {e : CallError} {detail : String}
    (hdetail : e.detail? = some detail) :
    (Failure.call e).message? = some (withLine e.line detail) := by
  unfold message?
  rw [detail?, hdetail]
  rfl

variable {s : Session} {shared : Bool} {r : Resolver}

/-- The session answers with the call that is constructed and keeps it. -/
theorem newCall_of_ok (hr : s.resolverOf shared = .ok r) (id : String) {q : Request} {c : Call}
    {j : Journal} (h : Call.construct r.values q s.journal = (.ok c, j)) :
    s.newCall id q shared = (.call c (c.translations r.values),
      { s with journal := j, calls := (id, c, shared) :: s.calls }) := by
  unfold newCall logged
  rw [hr]
  dsimp only
  rw [h]

/-- It answers with the error of a call that cannot be constructed. -/
theorem newCall_of_error (hr : s.resolverOf shared = .ok r) (id : String) {q : Request}
    {e : CallError} {j : Journal} (h : Call.construct r.values q s.journal = (.error e, j)) :
    s.newCall id q shared = (.failed (.call e), { s with journal := j }) := by
  unfold newCall logged
  rw [hr]
  dsimp only
  rw [h]

/-- **Every call that is read is reported once, and completely.**  Under any option values, an error
    that is documented carries the line that was given, wherever it is found, its words are the
    detail alone without a line and the detail after that line with one, and the one event reported
    is a warning with the method, the line, the detail and the kinds of all the arguments that were
    given, in their order; any other error is not reported.  The one event of a call that is
    constructed is for debugging, with the key of the call and whether its default, as it is kept, has
    plural variants. -/
theorem newCall_reported (hr : s.resolverOf shared = .ok r) (id : String) (q : Request) :
    (∀ e, Call.ofArguments r.values q.method q.line q.args = .error e →
      ∃ f j, s.newCall id q shared = (.failed f, { s with journal := j }) ∧ f = .call e ∧
        (e.Documented → ∃ detail, f.detail? = some detail ∧ f.line = q.line ∧
          (q.line = none → f.message? = some detail) ∧
          (∀ n, q.line = some n → f.message? =
            some ("line " ++ String.ofList (Decimal.intText n) ++ ": " ++ detail)) ∧
          Reports s.journal j ⟨.warning, .calls, "translate_call_invalid",
            [("method", .text q.method), ("line", Value.ofLine q.line),
              ("arg_kinds", .list (q.args.map fun a => .text a.kind)),
              ("error", .text detail)]⟩) ∧
        (¬ e.Documented → j = s.journal)) ∧
    ∀ c, Call.ofArguments r.values q.method q.line q.args = .ok c →
      ∃ j, s.newCall id q shared = (.call c (c.translations r.values),
          { s with journal := j, calls := (id, c, shared) :: s.calls }) ∧
        Reports s.journal j ⟨.debug, .calls, "translate_call_validated",
          [("method", .text q.method), ("line", Value.ofLine q.line),
            ("key", (c.key.map Value.text).getD .null),
            ("pluralized", .bool c.default.isPluralized)]⟩ := by
  constructor
  · intro e h
    -- An error is documented if it has words, and it is reported if it has words.
    cases hdetail : e.detail? with
    | none =>
      have hsilent : ¬ e.Documented := by simp [CallError.documented_iff, hdetail]
      exact ⟨_, _, newCall_of_error hr id (Call.construct_of_silent h hdetail s.journal), rfl,
        fun hdocumented => absurd hdocumented hsilent, fun _ => rfl⟩
    | some detail =>
      have hdocumented : e.Documented := CallError.documented_iff.mpr ⟨detail, hdetail⟩
      -- Each place where the error may have been found has given it the line of the request.
      have hline : e.line = q.line := Call.line_of_ofArguments h hdocumented
      have hmessage := Failure.message?_call hdetail
      rw [hline] at hmessage
      refine ⟨_, _, newCall_of_error hr id (Call.construct_of_error h hdetail s.journal), rfl,
        fun _ => ⟨detail, hdetail, hline, fun hnone => ?_, fun n hsome => ?_,
          Call.reports_callInvalid q detail s.journal⟩,
        fun hsilent => absurd hdocumented hsilent⟩
      · rw [hmessage, hnone]
        rfl
      · rw [hmessage, hsome]
        rfl
  · intro c h
    exact ⟨_, newCall_of_ok hr id (Call.construct_of_ok h s.journal),
      Call.reports_callValidated h s.journal⟩

/-- The start of a session with the built-in defaults. -/
def fresh : Session := ⟨Resolver.ofDefaults builtInValues, none, [], [], Journal.empty toString⟩

/-- A call whose key is no literal, read from a line before the first. -/
def computedKey : Request :=
  ⟨"t", some (-3), [.unsupported "scope.key", .text "Hello, %\x7bname\x7d!",
    .map [(.text "name", .literal "Ann")]]⟩

/-- Its report names all three arguments, the bag too. -/
theorem newCall_reported_computedKey :
    fresh.resolverOf false = .ok (Resolver.ofDefaults builtInValues) ∧
      ∃ f j, fresh.newCall "call" computedKey false = (.failed f, { fresh with journal := j }) ∧
        f.line = some (-3) ∧ f.message? = some "line -3: key must be a string literal" ∧
        Reports fresh.journal j ⟨.warning, .calls, "translate_call_invalid",
          [("method", .text "t"), ("line", .int (-3)),
            ("arg_kinds", .list [.text "unsupported", .text "string", .text "map"]),
            ("error", .text "key must be a string literal")]⟩ := by
  have hr : fresh.resolverOf false = .ok (Resolver.ofDefaults builtInValues) := rfl
  have hbag : ¬ Signature.NamesVariant builtInValues.pluralizationKeys
      [(.text "name", .literal "Ann")] := by
    simp [Signature.NamesVariant, builtInValues, standardVariants]
  have hsplit := @Signature.splitOptions_bag _ (some (-3)) _ hbag
    [.unsupported "scope.key", .text "Hello, %\x7bname\x7d!"]
  have hcall : Call.ofArguments (Resolver.ofDefaults builtInValues).values computedKey.method
      computedKey.line computedKey.args = .error (.signature .keyNotText (some (-3))) := by
    have hresolve : Signature.resolve builtInValues.pluralizationKeys (some (-3))
        computedKey.args = .error (.signature .keyNotText (some (-3))) := by
      unfold Signature.resolve
      rw [if_neg (by decide), computedKey]
      simp only [List.cons_append, List.nil_append] at hsplit
      rw [hsplit]
      rfl
    exact Call.ofArguments_of_resolve_error hresolve
  obtain ⟨f, j, hanswer, rfl, hreported, _⟩ := (newCall_reported hr "call" computedKey).1 _ hcall
  obtain ⟨detail, hdetail, hline, _, hmessage, hreports⟩ := hreported trivial
  obtain rfl : "key must be a string literal" = detail := Option.some.inj hdetail
  refine ⟨hr, _, j, hanswer, hline, ?_, hreports⟩
  rw [hmessage (-3) rfl]
  rfl

end Session

end Phrasebook
