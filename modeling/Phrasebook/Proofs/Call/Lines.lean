import Phrasebook.Call.Translations

namespace Phrasebook

/-!
# Lines of errors

Each place where something is found wrong with a call is given the line of the call and puts it into
the error.  Nothing else of a check depends on the line:

* `CallError.onLine` — the same error on another line, and `CallError.Documented` — the errors that
  have a line;
* `Signature.resolve_onLine`, `Default.ofArgument_onLine` and those before them — a check on a line
  finds what it finds without one, and an error is the same but for its line;
* `Call.line_of_ofArguments` — so the error of a call has the line of the call.
-/

namespace CallError

/-- The errors that calls are documented to fail with. -/
def Documented : CallError → Prop
  | .signature _ _ | .unknownVariants _ _ | .missingVariants _ _ | .variantNotText _ _
  | .missingCount _ | .missingValue _ _ => True
  | .emptyCapture | .variantNotNamed | .unencodable _ => False

/-- The same error on another line. -/
def onLine (line : Option Int) : CallError → CallError
  | .signature cause _ => .signature cause line
  | .unknownVariants names _ => .unknownVariants names line
  | .missingVariants names _ => .missingVariants names line
  | .variantNotText variant _ => .variantNotText variant line
  | .missingCount _ => .missingCount line
  | .missingValue placeholder _ => .missingValue placeholder line
  | .emptyCapture => .emptyCapture
  | .variantNotNamed => .variantNotNamed
  | .unencodable halves => .unencodable halves

/-- A documented error has the line that it is put on. -/
theorem line_onLine {e : CallError} {line : Option Int} (h : (e.onLine line).Documented) :
    (e.onLine line).line = line := by
  cases e with
  | emptyCapture => cases h
  | variantNotNamed => cases h
  | unencodable halves => cases h
  | _ => rfl

end CallError

open CallError

/-- Another account of errors leaves a success as it is. -/
theorem mapError_ok {ε δ α : Type} (f : ε → δ) (a : α) :
    (Except.ok a : Except ε α).mapError f = .ok a := rfl

/-! ### Signatures -/

namespace Signature

variable (variants : List String) (line : Option Int)

theorem splitOptions_onLine (args : List Argument) :
    splitOptions variants line args = (splitOptions variants none args).mapError (onLine line) := by
  unfold splitOptions
  split
  · rfl
  · split
    · split <;> rfl
    · rfl
  · split <;> rfl

theorem splitKey_onLine (options : Option Entries) (args : List Argument) :
    splitKey line options args = (splitKey none options args).mapError (onLine line) := by
  unfold splitKey
  split
  · split <;> rfl
  all_goals rfl

theorem check_onLine (key : Option String) (default : Argument) :
    check variants line key default = (check variants none key default).mapError (onLine line) := by
  unfold check
  split
  · rfl
  · cases default with
    | text s =>
      dsimp only
      split <;> rfl
    | map entries =>
      dsimp only
      split <;> rfl
    | unsupported source => rfl

theorem resolve_onLine (args : List Argument) :
    resolve variants line args = (resolve variants none args).mapError (onLine line) := by
  unfold resolve
  split
  · rfl
  · -- The steps come one after the other, and the first to fail decides.
    rw [splitOptions_onLine variants line args]
    cases splitOptions variants none args with
    | error e => rfl
    | ok parts =>
      obtain ⟨positional, options⟩ := parts
      simp only [mapError_ok]
      rw [splitKey_onLine line options positional]
      cases splitKey none options positional with
      | error e => rfl
      | ok parts =>
        obtain ⟨key, default⟩ := parts
        simp only [mapError_ok]
        rw [check_onLine variants line key default]
        cases check variants none key default <;> rfl

end Signature

/-! ### Placeholders -/

theorem checkPlaceholders_onLine (line : Option Int) (options : Entries)
    (found : List (Option String)) :
    checkPlaceholders line options found =
      (checkPlaceholders none options found).mapError (onLine line) := by
  induction found with
  | nil => rfl
  | cons p rest ih =>
    cases p with
    | none => rfl
    | some name =>
      unfold checkPlaceholders
      split
      · exact ih
      · rfl

theorem checkTexts_onLine (line : Option Int) (interpolation : String) (options : Entries)
    (texts : List String) :
    checkTexts line interpolation options texts =
      (checkTexts none interpolation options texts).mapError (onLine line) := by
  induction texts with
  | nil => rfl
  | cons text rest ih =>
    unfold checkTexts
    rw [checkPlaceholders_onLine line options (placeholders interpolation text)]
    cases checkPlaceholders none options (placeholders interpolation text) with
    | error e => rfl
    | ok _ => exact ih

/-! ### Plural maps -/

theorem variantTexts_onLine (line : Option Int) (entries : Entries) :
    variantTexts line entries = (variantTexts none entries).mapError (onLine line) := by
  induction entries with
  | nil => rfl
  | cons e rest ih =>
    obtain ⟨k, v⟩ := e
    unfold variantTexts
    split
    · rw [ih]
      cases variantTexts none rest <;> rfl
    · rfl

theorem pluralVariants_onLine (line : Option Int) (declared : List String) (entries : Entries) :
    pluralVariants line declared entries =
      (pluralVariants none declared entries).mapError (onLine line) := by
  unfold pluralVariants
  split
  · split
    · exact variantTexts_onLine line entries
    · rfl
  · split <;> rfl

/-! ### Calls -/

theorem Default.ofArgument_onLine (line : Option Int) (values : OptionValues) (key : Option String)
    (options : Entries) (arg : Argument) :
    Default.ofArgument line values key options arg =
      (Default.ofArgument none values key options arg).mapError (onLine line) := by
  cases arg with
  | text s =>
    simp only [Default.ofArgument]
    rw [checkTexts_onLine line values.interpolationSyntax options [s]]
    cases checkTexts none values.interpolationSyntax options [s] <;> rfl
  | map entries =>
    simp only [Default.ofArgument]
    rw [pluralVariants_onLine line values.pluralizationKeys entries]
    cases pluralVariants none values.pluralizationKeys entries with
    | error e => rfl
    | ok texts =>
      simp only [mapError_ok]
      split
      · rfl
      · rw [checkTexts_onLine line values.interpolationSyntax options (texts.map (·.2))]
        cases checkTexts none values.interpolationSyntax options (texts.map (·.2)) with
        | error e => rfl
        | ok _ =>
          simp only [mapError_ok]
          split <;> rfl
  | unsupported source => rfl

/-- A call that is refused on a line is refused for the same without one. -/
theorem Call.ofArguments_onLine {values : OptionValues} {method : String} {line : Option Int}
    {args : List Argument} {e : CallError}
    (h : Call.ofArguments values method line args = .error e) :
    ∃ e', Call.ofArguments values method none args = .error e' ∧ e = e'.onLine line := by
  unfold Call.ofArguments at h ⊢
  rw [Signature.resolve_onLine values.pluralizationKeys line args] at h
  cases hresolve : Signature.resolve values.pluralizationKeys none args with
  | error cause =>
    rw [hresolve] at h
    cases h
    exact ⟨cause, rfl, rfl⟩
  | ok sig =>
    obtain ⟨key, default, bag⟩ := sig
    rw [hresolve] at h
    simp only [mapError_ok] at h ⊢
    rw [Default.ofArgument_onLine line values key] at h
    cases hdefault : Default.ofArgument none values key (Argument.toDict (bag.getD [])) default with
    | error cause =>
      rw [hdefault] at h
      cases h
      exact ⟨cause, rfl, rfl⟩
    | ok default =>
      rw [hdefault] at h
      cases h

/-- Whatever a call is refused for, a documented error has the line of the call. -/
theorem Call.line_of_ofArguments {values : OptionValues} {method : String} {line : Option Int}
    {args : List Argument} {e : CallError}
    (h : Call.ofArguments values method line args = .error e) (hdocumented : e.Documented) :
    e.line = line := by
  obtain ⟨e', _, rfl⟩ := Call.ofArguments_onLine h
  exact line_onLine hdocumented

/-- So has one for which a call has no translations. -/
theorem Call.line_of_translations {values : OptionValues} {c : Call} {e : CallError}
    (h : c.translations values = .error e) (hdocumented : e.Documented) : e.line = c.line := by
  unfold Call.translations at h
  split at h
  · -- Only a text without octets leaves a call without a key.
    rename_i hkey
    cases h
    unfold Call.baseKey at hkey
    split at hkey
    · cases hkey
    · split at hkey
      · cases hkey
      · cases hkey
        cases hdocumented
  · split at h
    · cases h
      rfl
    · split at h <;> cases h

end Phrasebook
