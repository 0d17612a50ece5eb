import Phrasebook.Call.Basic

namespace Phrasebook

/-!
# Signatures of calls

The positional arguments of a call are a key, a default and an options bag, of which the key or the
default may be missing, and the bag too.

* `isPluralMap` — an object literal is a plural map when some entry has the name of a variant in
  force; otherwise it is an options bag;
* `Signature.resolve` — the parts that the arguments stand for, or an error on the line of the call.

A bag with a text under `defaultValue` gives the default of a call that has a key alone.
-/

/-- The parts of a call as its arguments give them. -/
structure Signature where
  key : Option String
  default : Argument
  options : Option Entries

/-- Whether an object literal has an entry with the name of a variant. -/
def isPluralMap (variants : List String) (entries : Entries) : Bool :=
  entries.any fun e => variants.any fun name => e.1.sameKey (.text name)

/-- The option under which a bag may give the default. -/
def legacyDefault : String := "defaultValue"

/-- Whether a text is blank. -/
def isBlankText (s : String) : Bool := Text.isBlankText s.toList

namespace Signature

section

variable (variants : List String) (line : Option Int)

/-- The options bag at the end of the arguments, and the arguments before it. -/
def splitOptions (args : List Argument) : Except CallError (List Argument × Option Entries) :=
  match args.getLast? with
  | none => .error (.signature .nothingGiven line)
  | some (.map entries) =>
    if isPluralMap variants entries then
      if args.length == maxArguments then .error (.signature .optionsNotObject line)
      else .ok (args, none)
    else .ok (args.dropLast, some entries)
  | some _ =>
    if args.length == maxArguments then .error (.signature .optionsNotObject line)
    else .ok (args, none)

/-- The text under `defaultValue` in a bag. -/
def legacyText? (options : Option Entries) : Option String :=
  match options.bind (Entries.get? (.text legacyDefault)) with
  | some (.literal s) => some s
  | _ => none

/-- Key and default among the arguments before the bag. -/
def splitKey (options : Option Entries) :
    List Argument → Except CallError (Option String × Argument)
  | [.text s] =>
    match legacyText? options with
    | some default => .ok (some s, .text default)
    | none => .ok (none, .text s)
  | [default] => .ok (none, default)
  | [.text s, default] => .ok (some s, default)
  | [] => .error (.signature .nothingGiven line)
  | _ => .error (.signature .keyNotText line)

/-- Checks that a key is not blank, and that a default is a text or a plural map; one that a key is
    to be inferred from is not blank. -/
def check (key : Option String) (default : Argument) : Except CallError Unit :=
  if key.any isBlankText then .error (.signature .blankKey line)
  else match default with
    | .text s =>
      if key.isNone && isBlankText s then .error (.signature .blankDefault line) else .ok ()
    | .map entries =>
      if isPluralMap variants entries then .ok () else .error (.signature .badDefault line)
    | .unsupported _ => .error (.signature .badDefault line)

/-- The parts that the arguments stand for. -/
def resolve (args : List Argument) : Except CallError Signature :=
  if maxArguments < args.length then .error (.signature (.tooManyArguments args.length) line)
  else
    match splitOptions variants line args with
    | .error e => .error e
    | .ok (positional, options) =>
      match splitKey line options positional with
      | .error e => .error e
      | .ok (key, default) =>
        match check variants line key default with
        | .error e => .error e
        | .ok () => .ok ⟨key, default, options⟩

end

end Signature

end Phrasebook
