import Phrasebook.Pattern.Token
import Phrasebook.Text.Names

namespace Phrasebook.Pattern

/-!
# Reading patterns

`Pattern.read` takes a text to the pattern that it spells, or to the first fault in it.  Faults that
need the whole text come last: groups that a condition asks for and that do not exist, look-behinds
whose width varies.

Reading is by recursive descent over the tokens; every round takes at least one token, which bounds
the number of rounds.
-/

/-- What an escape stands for. -/
inductive Escaped where
  | char (code : Nat)
  | category (kind : Category) (negated : Bool)
  | anchor (place : Anchor)
  | reference (group : Nat)

/-- The characters that a letter stands for after a backslash. -/
def control? : Char → Option Nat
  | 'a' => some 7
  | 'b' => some 8
  | 'f' => some 12
  | 'n' => some 10
  | 'r' => some 13
  | 't' => some 9
  | 'v' => some 11
  | '\\' => some 92
  | _ => none

/-- The categories that a letter stands for after a backslash, and whether it is the complement. -/
def category? : Char → Option (Category × Bool)
  | 'd' => some (.digit, false)
  | 'D' => some (.digit, true)
  | 's' => some (.blank, false)
  | 'S' => some (.blank, true)
  | 'w' => some (.word, false)
  | 'W' => some (.word, true)
  | _ => none

/-- The anchors that a letter stands for after a backslash. -/
def anchor? : Char → Option Anchor
  | 'A' => some .textStart
  | 'b' => some .boundary
  | 'B' => some .noBoundary
  | 'Z' => some .textEnd
  | _ => none

/-- A code of `width` hexadecimal digits after `\c`. -/
def hexEscape (c : Char) (width : Nat) : Read Nat := do
  let digits ← takeWhile isHexDigit width
  let escape := '\\' :: c :: digits
  if digits.length != width then failBack (.incompleteEscape escape) escape.length
  else
    let code := hexValue digits
    if code < 0x110000 then return code
    else failBack (.badEscape escape) escape.length

/-- A character by its name in braces, after `\N`. -/
def namedEscape : Read Nat := do
  if ← accept '\x7b' then
    let spelled ← name '\x7d' "character name"
    match Text.characterNamed? spelled with
    | some c => return c.toNat
    | none => failBack (.unknownCharacter spelled) (spelled.length + 4)
  else failBack .missingBrace 0

/-- An octal code that starts with the digits `start`. -/
def octalCode (digits : List Char) : Read Nat := do
  let code := octalValue digits
  if code ≤ 0o377 then return code
  else failBack (.octalOutOfRange ('\\' :: digits)) (digits.length + 1)

/-- The escape `\c` for a character that needs no special rule: any but a letter or digit stands for
    itself. -/
def plainEscape (c : Char) : Read Nat := do
  if c.isAlpha || c.isDigit then failBack (.badEscape ['\\', c]) 2 else return c.toNat

/-- The escapes `\x`, `\u`, `\U` and `\N`, which read the same everywhere. -/
def codeEscape? (c : Char) : Option (Read Nat) :=
  match c with
  | 'x' => some (hexEscape c 2)
  | 'u' => some (hexEscape c 4)
  | 'U' => some (hexEscape c 8)
  | 'N' => some namedEscape
  | _ => none

/-- The escape `\c` inside a character set. -/
def classEscape (c : Char) : Read ClassItem := do
  if let some code := control? c then return .char code
  if let some (kind, negated) := category? c then return .category kind negated
  if let some code := codeEscape? c then return .char (← code)
  if isOctalDigit c then
    let digits ← takeWhile isOctalDigit 2
    return .char (← octalCode (c :: digits))
  return .char (← plainEscape c)

/-- Checks that a group may be referred to inside the look-behind being read, if one is. -/
def checkBehind (group : Nat) : Read Unit := do
  let r ← get
  if let some limit := r.behind then
    if ((r.widths[group]?).getD none).isNone then failBack .openGroup 0
    if limit ≤ group then failBack .lookBehindGroup 0

/-- A reference to the group with a number of the given digits. -/
def groupReference (digits : List Char) : Read Nat := do
  let group := (Decimal.naturalOf 10 0 digits).getD 0
  let r ← get
  if group < r.widths.length then
    if ((r.widths[group]?).getD none).isNone then failBack .openGroup (digits.length + 1)
    checkBehind group
    return group
  else failBack (.groupReference (Decimal.natText group)) digits.length

/-- A digit of the given kind, if one is next. -/
def digit? (p : Char → Bool) : Read (Option Char) := do
  match ← peek with
  | some [d] =>
    if p d then
      let _ ← next
      return some d
    else return none
  | _ => return none

/-- The escape `\c` for a digit other than zero: three octal digits are a code, anything else refers
    to a group. -/
def digitEscape (c : Char) : Read Escaped := do
  match ← digit? Char.isDigit with
  | none => return .reference (← groupReference [c])
  | some d =>
    if isOctalDigit c && isOctalDigit d then
      match ← digit? isOctalDigit with
      | some e => return .char (← octalCode [c, d, e])
      | none => return .reference (← groupReference [c, d])
    else return .reference (← groupReference [c, d])

/-- The escape `\c` outside a character set. -/
def escape (c : Char) : Read Escaped := do
  if let some (kind, negated) := category? c then return .category kind negated
  if let some place := anchor? c then return .anchor place
  if let some code := control? c then return .char code
  if let some code := codeEscape? c then return .char (← code)
  if c == '0' then
    let digits ← takeWhile isOctalDigit 2
    return .char (octalValue ('0' :: digits))
  if c.isDigit then digitEscape c
  else return .char (← plainEscape c)

/-- The expression of an escape. -/
def Escaped.node : Escaped → Node
  | .char code => .char code
  | .category kind negated => .set false [.category kind negated]
  | .anchor place => .anchor place
  | .reference group => .reference group

/-- One end of a range, or a member of a set, from a token. -/
def classMember (token : List Char) : Read ClassItem :=
  match token with
  | ['\\', c] => classEscape c
  | [c] => return .char c.toNat
  | _ => return .char 0

/-- The members of a character set after its opening at `start`, up to the closing bracket. -/
def classMembers (start : Nat) : Nat → List ClassItem → Read (List ClassItem)
  | 0, _ => failAt .unterminatedSet start
  | fuel + 1, members => do
    let some token ← next | failAt .unterminatedSet start
    if token == [']'] && !members.isEmpty then return members
    let low ← classMember token
    if ← accept '-' then
      let some last ← next | failAt .unterminatedSet start
      if last == [']'] then return members ++ [low, .char '-'.toNat]
      let high ← classMember last
      match low, high with
      | .char a, .char b =>
        if b < a then failBack (.badRange token last) (token.length + 1 + last.length)
        else classMembers start fuel (members ++ [.range a b])
      | _, _ => failBack (.badRange token last) (token.length + 1 + last.length)
    else classMembers start fuel (members ++ [low])

/-- A character set, after its opening bracket. -/
def characterSet : Read Node := do
  let start := (← here) - 1
  let negated ← accept '^'
  let members ← classMembers start ((← get).ahead.length + 1) []
  match members.eraseDups with
  | [.char code] => return if negated then .notChar code else .char code
  | members => return .set negated members

/-- The greatest bound of a repetition, which means no bound. -/
def repeatLimit : Nat := 4294967295

/-- A bound of a repetition. -/
def repeatBound (digits : List Char) : Read (Option Nat) :=
  match Decimal.naturalOf 10 0 digits with
  | some n =>
    if digits.isEmpty then return none
    else if repeatLimit ≤ n then throw .repetitionTooLarge
    else return some n
  | none => return none

/-- The bounds in braces, after the opening one; nothing if what follows are no bounds. -/
def braces : Read (Option (Nat × Option Nat)) := do
  let r ← get
  if (← peek) == some ['\x7d'] then return none
  let low ← takeWhile Char.isDigit r.ahead.length
  let high ← if ← accept ',' then takeWhile Char.isDigit r.ahead.length else pure low
  if ← accept '\x7d' then
    let least ← repeatBound low
    let most ← repeatBound high
    match least, most with
    | some a, some b => if b < a then failAt .repeatBounds r.position
    | _, _ => pure ()
    return some (least.getD 0, most)
  else
    moveTo r.ahead
    return none

/-- The style of a repetition, by the character after its bounds. -/
def style : Read Style := do
  if ← accept '?' then return .reluctant
  if ← accept '+' then return .possessive
  return .greedy

/-- Repeats the expression read last; `start` is the place of the quantifier. -/
def repeated (start least : Nat) (most : Option Nat) (done : List Node) : Read (List Node) := do
  match done with
  | [] => failAt .nothingToRepeat start
  | last :: before =>
    if last.isAnchor then failAt .nothingToRepeat start
    if last.isRepetition then failAt .multipleRepeat start
    return .repetition (← style) least most last :: before

/-- The switch of a letter. -/
def flag? : Char → Option Flags
  | 'i' => some { ignoreCase := true }
  | 'm' => some { multiline := true }
  | 's' => some { dotAll := true }
  | 'x' => some { verbose := true }
  | 'a' => some { ascii := true }
  | 'u' => some { unicode := true }
  | 't' => some { template := true }
  | _ => none

/-- Whether a token is the letter of a switch; `L` is one that texts do not admit. -/
def isFlag (token : List Char) : Bool :=
  match token with
  | [c] => c == 'L' || (flag? c).isSome
  | _ => false

/-- Fails on a token in place of a switch. -/
def failFlag {α : Type} (otherwise : Cause) (token : List Char) : Read α :=
  failBack (if token.all Text.isLetter then .unknownFlag else otherwise) token.length

/-- The switches turned on, and the character after them. -/
def flagsOn : Nat → Flags → List Char → Read (Flags × Char)
  | 0, _, _ => failBack .missingFlagEnd 0
  | fuel + 1, on, token => do
    if token == ['L'] then failBack .localeFlag 0
    let on := on.union ((token.head?.bind flag?).getD {})
    if on.ascii && on.unicode then failBack .conflictingFlags 0
    match ← next with
    | none => failBack .missingFlagEnd 0
    | some [')'] => return (on, ')')
    | some ['-'] => return (on, '-')
    | some [':'] => return (on, ':')
    | some token =>
      if isFlag token then flagsOn fuel on token else failFlag .missingFlagEnd token

/-- The switches turned off, up to the colon. -/
def flagsOff : Nat → Flags → List Char → Read Flags
  | 0, _, _ => failBack .missingColon 0
  | fuel + 1, off, token => do
    if token == ['L'] || token == ['a'] || token == ['u'] then failBack .characterFlagOff 0
    let off := off.union ((token.head?.bind flag?).getD {})
    match ← next with
    | none => failBack .missingColon 0
    | some [':'] => return off
    | some token => if isFlag token then flagsOff fuel off token else failFlag .missingColon token

/-- Inline switches from the token after the question mark on: those of a group, on and off, or none
    when they are global and have been turned on. -/
def inlineFlags (token : List Char) : Read (Option (Flags × Flags)) := do
  let fuel := (← get).ahead.length + 1
  let (on, after) ← if token == ['-'] then pure (({} : Flags), '-') else flagsOn fuel {} token
  if after == ')' then
    modify fun r => { r with flags := r.flags.union on }
    return none
  if on.template then failBack .globalFlagOn 1
  let off ←
    if after == '-' then
      match ← next with
      | none => failBack .missingFlag 0
      | some token => if isFlag token then flagsOff fuel {} token else failFlag .missingFlag token
    else pure {}
  if off.template then failBack .globalFlagOff 1
  if on.meets off then failBack .flagOnAndOff 1
  return some (on, off)

/-- What the opening of a parenthesis announces. -/
inductive Opening where
  /-- A comment, already read. -/
  | comment
  /-- A back reference, already read. -/
  | reference (group : Nat)
  /-- Global switches, already turned on. -/
  | switches
  | look (behind negated : Bool)
  | conditional (group : Nat)
  | atomic
  | plain (on off : Flags)
  | capture (name : Option (List Char))

/-- Skips a comment that started at `start`. -/
def skipComment (start : Nat) : Nat → Read Unit
  | 0 => failAt .unterminatedComment start
  | fuel + 1 => do
    match ← next with
    | none => failAt .unterminatedComment start
    | some t => if t == [')'] then return () else skipComment start fuel

/-- Checks the name of a group, just taken with the character after it. -/
def checkName (spelled : List Char) : Read Unit :=
  if Text.isIdentifier spelled then return ()
  else failBack (.badGroupName spelled) (spelled.length + 1)

/-- A back reference by name. -/
def namedReference : Read Nat := do
  let spelled ← name ')' "group name"
  checkName spelled
  match (← get).names.lookup spelled with
  | none => failBack (.unknownGroup spelled) (spelled.length + 1)
  | some group =>
    if (((← get).widths[group]?).getD none).isNone then failBack .openGroup (spelled.length + 1)
    checkBehind group
    return group

/-- The group that a condition asks for, by name or number. -/
def condition : Read Nat := do
  let spelled ← name ')' "group name"
  let back := spelled.length + 1
  let group ←
    if Text.isIdentifier spelled then
      match (← get).names.lookup spelled with
      | none => failBack (.unknownGroup spelled) back
      | some group => pure group
    else
      match Decimal.readInt? 10 spelled with
      | some (.ofNat 0) => failBack .badGroupNumber back
      | some (.ofNat group) =>
        if 2147483647 ≤ group then failBack (.groupReference (Decimal.natText group)) back
        let place := (← here) - back
        modify fun r =>
          if (r.asked.lookup group).isSome then r
          else { r with asked := r.asked ++ [(group, place)] }
        pure group
      | _ => failBack (.badGroupName spelled) back
  checkBehind group
  return group

/-- The opening of a parenthesis at `start`, after the parenthesis itself. -/
def opening (start : Nat) : Read Opening := do
  if !(← accept '?') then return .capture none
  let some token ← next | failBack .unexpectedEnd 0
  match token with
  | ['P'] =>
    if ← accept '<' then
      let spelled ← name '>' "group name"
      checkName spelled
      return .capture (some spelled)
    if ← accept '=' then return .reference (← namedReference)
    let some after ← next | failBack .unexpectedEnd 0
    failBack (.unknownExtension ('P' :: after)) (after.length + 2)
  | [':'] => return .plain {} {}
  | ['#'] => do
    skipComment start ((← get).ahead.length + 1)
    return .comment
  | ['='] => return .look false false
  | ['!'] => return .look false true
  | ['<'] =>
    let some after ← next | failBack .unexpectedEnd 0
    match after with
    | ['='] => return .look true false
    | ['!'] => return .look true true
    | _ => failBack (.unknownExtension ('<' :: after)) (after.length + 2)
  | ['('] => return .conditional (← condition)
  | ['>'] => return .atomic
  | _ =>
    if isFlag token || token == ['-'] then
      match ← inlineFlags token with
      | none => return .switches
      | some (on, off) => return .plain on off
    else failBack (.unknownExtension token) (token.length + 1)

/-- Opens a capture group; `name` is its name, if it has one. -/
def openGroup (name : Option (List Char)) : Read Nat := do
  let r ← get
  let group := r.widths.length
  set { r with widths := r.widths ++ [none] }
  if let some spelled := name then
    match r.names.lookup spelled with
    | some old => failBack (.redefinedGroup spelled group old) (spelled.length + 1)
    | none => modify fun r => { r with names := (spelled, group) :: r.names }
  return group

/-- Closes a capture group with its expression. -/
def closeGroup (group : Nat) (body : Node) : Read Unit :=
  modify fun r => { r with widths := r.widths.set group (some (body.width r.widths)) }

/-- Takes the parenthesis that closes what was opened at `start`. -/
def close (start : Nat) : Read Unit := do
  if !(← accept ')') then failAt .unterminatedGroup start

/-- Whether verbose patterns skip the character. -/
def isSkipped (c : Char) : Bool := c == ' ' || (9 ≤ c.toNat && c.toNat ≤ 13)

/-- Skips the rest of a line. -/
def skipLine : Nat → Read Unit
  | 0 => return ()
  | fuel + 1 => do
    match ← next with
    | none => return ()
    | some t => if t == ['\n'] then return () else skipLine fuel

mutual

/-- The branches of an alternation; `top` outside all parentheses, `first` before the first bar. -/
def alternatives : Nat → Bool → Bool → Bool → Read (List Node)
  | 0, _, _, _ => return []
  | fuel + 1, verbose, top, first => do
    let parts ← sequence fuel verbose (top && first) []
    if ← accept '|' then
      let r ← get
      let others ← alternatives fuel (if top then r.flags.verbose else verbose) top false
      return .sequence parts :: others
    else return [.sequence parts]

/-- The parts of a sequence; `first` where global switches may stand, `done` the parts read so far,
    the last one first. -/
def sequence : Nat → Bool → Bool → List Node → Read (List Node)
  | 0, _, _, done => return done.reverse
  | fuel + 1, verbose, first, done => do
    match ← peek with
    | none | some ['|'] | some [')'] => return done.reverse
    | some token => do
      let place ← here
      let _ ← next
      match token with
      | ['\\', c] => sequence fuel verbose first ((← escape c).node :: done)
      | ['['] => sequence fuel verbose first ((← characterSet) :: done)
      | ['?'] => sequence fuel verbose first (← repeated place 0 (some 1) done)
      | ['*'] => sequence fuel verbose first (← repeated place 0 none done)
      | ['+'] => sequence fuel verbose first (← repeated place 1 none done)
      | ['\x7b'] =>
        match ← braces with
        | some (least, most) => sequence fuel verbose first (← repeated place least most done)
        | none => sequence fuel verbose first (.char '\x7b'.toNat :: done)
      | ['.'] => sequence fuel verbose first (.any :: done)
      | ['^'] => sequence fuel verbose first (.anchor .start :: done)
      | ['$'] => sequence fuel verbose first (.anchor .finish :: done)
      | ['('] =>
        match ← opening place with
        | .comment => sequence fuel verbose first done
        | .reference group => sequence fuel verbose first (.reference group :: done)
        | .switches => do
          if !first || !done.isEmpty then failAt .flagsNotAtStart place
          let r ← get
          sequence fuel r.flags.verbose first done
        | .look behind negated => do
          let outer := (← get).behind
          if behind && outer.isNone then
            modify fun r => { r with behind := some r.widths.length }
          let branches ← alternatives fuel verbose false false
          if behind && outer.isNone then modify fun r => { r with behind := none }
          close place
          sequence fuel verbose first (.look behind negated (.alternatives branches) :: done)
        | .conditional group => do
          let yes ← sequence fuel verbose false []
          let no ←
            if ← accept '|' then
              let no ← sequence fuel verbose false []
              if (← peek) == some ['|'] then failBack .manyBranches 0
              pure no
            else pure []
          close place
          sequence fuel verbose first (.conditional group (.sequence yes) (.sequence no) :: done)
        | .atomic => do
          let branches ← alternatives fuel verbose false false
          close place
          sequence fuel verbose first (.atomic (.alternatives branches) :: done)
        | .plain on off => do
          let branches ← alternatives fuel ((verbose || on.verbose) && !off.verbose) false false
          close place
          sequence fuel verbose first (.group none on off (.alternatives branches) :: done)
        | .capture name => do
          let group ← openGroup name
          let branches ← alternatives fuel verbose false false
          close place
          closeGroup group (.alternatives branches)
          sequence fuel verbose first (.group (some group) {} {} (.alternatives branches) :: done)
      | [c] =>
        if verbose && isSkipped c then sequence fuel verbose first done
        else if verbose && c == '#' then do
          skipLine ((← get).ahead.length + 1)
          sequence fuel verbose first done
        else sequence fuel verbose first (.char c.toNat :: done)
      | _ => sequence fuel verbose first done

end

mutual

/-- Checks an expression as a whole: look-behinds have one width, within the limit. -/
def Node.check (groups : List (Option Width)) (template : Bool) : Node → Except Fault Unit
  | .sequence parts => checkAll groups template parts
  | .alternatives branches => checkAll groups template branches
  | .group _ _ _ body | .atomic body => body.check groups template
  | .repetition style _ _ body =>
    if template then .error (.templateRepeat (style == .possessive) (style == .reluctant))
    else body.check groups template
  | .conditional _ yes no =>
    match yes.check groups template with
    | .ok () => no.check groups template
    | .error e => .error e
  | .look behind _ body =>
    let (low, high) := body.width groups
    if behind && repeatLimit < low then .error .longLookBehind
    else if behind && low != high then .error .variableLookBehind
    else body.check groups template
  | _ => .ok ()
termination_by structural n => n

/-- Checks some expressions in order. -/
def checkAll (groups : List (Option Width)) (template : Bool) : List Node → Except Fault Unit
  | [] => .ok ()
  | n :: rest =>
    match n.check groups template with
    | .ok () => checkAll groups template rest
    | .error e => .error e
termination_by structural n => n

end

/-- The whole pattern. -/
def whole : Read Pattern := do
  let fuel := 3 * (← get).ahead.length + 3
  moveTo (← get).ahead
  let root := Node.alternatives (← alternatives fuel false true true)
  let r ← get
  if r.flags.ascii && r.flags.unicode then throw .incompatibleFlags
  if (← peek).isSome then failBack .unbalanced 0
  for (group, place) in r.asked do
    if r.widths.length ≤ group then
      failAt (.groupReference (Decimal.natText group)) place
  root.check r.widths r.flags.template
  return ⟨root, r.widths, r.flags⟩

/-- The pattern that a text spells. -/
def read (source : List Char) : Except Fault Pattern :=
  whole.run' ⟨tokens 0 source, source.length, {}, [], [none], none, []⟩

end Phrasebook.Pattern
