import Phrasebook.Calendar

namespace Phrasebook.Yaml

/-!
# Dates and times in scalars

A stamp is a date, `2001-12-14`, or a date with a time, `2001-12-14t21:59:43.10-05:00`.

* `Stamp.read?` — the digits of a text that is a stamp;
* `Stamp.isCanonical` — a stamp that plain scalars are read as: a date alone needs two digits for
  month and day;
* `Stamp.date`, `Stamp.moment` — what it names, which need not exist.
-/

/-- The time of a stamp: the digits of its fraction, and the offset in minutes if it has one. -/
structure StampTime where
  hour : Nat
  minute : Nat
  second : Nat
  fraction : List Char
  offset : Option Int
  deriving DecidableEq, Repr

/-- A date in digits, with a time or without. -/
structure Stamp where
  year : List Char
  month : List Char
  day : List Char
  time : Option StampTime
  deriving DecidableEq, Repr

namespace Stamp

/-- The value of digits. -/
def valueOf (digits : List Char) : Nat :=
  digits.foldl (fun n c => n * 10 + (c.toNat - '0'.toNat)) 0

/-- As many digits as a text starts with, but no more than `most`; no result if they are fewer than
    `least`. -/
def digits? (least most : Nat) (text : List Char) : Option (List Char × List Char) :=
  let run := (text.take most).takeWhile Char.isDigit
  if run.length < least then none else some (run, text.drop run.length)

/-- The text after a character that it starts with. -/
def after? (c : Char) : List Char → Option (List Char)
  | d :: rest => if d == c then some rest else none
  | [] => none

/-- The end of a text, or a line feed that is its last character. -/
def isEnd (text : List Char) : Bool := text == [] || text == ['\n']

/-- Spaces and tabs. -/
def isGap (c : Char) : Bool := c == ' ' || c == '\t'

/-- The offset at the end of a text: nothing, `Z`, or hours and minutes with a sign. -/
def offset? (text : List Char) : Option (Option Int) :=
  if isEnd text then some none
  else match text.dropWhile isGap with
    | 'Z' :: rest => if isEnd rest then some (some 0) else none
    | sign :: rest =>
      if sign != '+' && sign != '-' then none
      else do
        let (hour, rest) ← digits? 1 2 rest
        let (minute, rest) ← match rest with
          | ':' :: rest => digits? 2 2 rest
          | rest => some ([], rest)
        if !isEnd rest then none
        else
          let minutes : Int := valueOf hour * 60 + valueOf minute
          some (some (if sign == '-' then -minutes else minutes))
    | [] => none

/-- The time at the end of a text. -/
def time? (text : List Char) : Option StampTime := do
  let (hour, rest) ← digits? 1 2 text
  let (minute, rest) ← digits? 2 2 (← after? ':' rest)
  let (second, rest) ← digits? 2 2 (← after? ':' rest)
  let (fraction, rest) := match rest with
    | '.' :: rest => (rest.takeWhile Char.isDigit, rest.dropWhile Char.isDigit)
    | rest => ([], rest)
  let offset ← offset? rest
  return ⟨valueOf hour, valueOf minute, valueOf second, fraction, offset⟩

/-- What separates a date from a time: a `T`, or blanks. -/
def dropSeparator? : List Char → Option (List Char)
  | c :: rest =>
    if c == 'T' || c == 't' then some rest
    else if isGap c then some (rest.dropWhile isGap)
    else none
  | [] => none

/-- The stamp of a text. -/
def read? (text : List Char) : Option Stamp := do
  let (year, rest) ← digits? 4 4 text
  let (month, rest) ← digits? 1 2 (← after? '-' rest)
  let (day, rest) ← digits? 1 2 (← after? '-' rest)
  if isEnd rest then return ⟨year, month, day, none⟩
  else
    let time ← time? (← dropSeparator? rest)
    return ⟨year, month, day, some time⟩

/-- Whether a plain scalar of this form is a stamp. -/
def isCanonical (s : Stamp) : Bool :=
  s.time.isSome || (s.month.length == 2 && s.day.length == 2)

/-- The day. -/
def date (s : Stamp) : Date := ⟨valueOf s.year, valueOf s.month, valueOf s.day⟩

/-- Microseconds of a fraction: its first six digits. -/
def microseconds (fraction : List Char) : Nat :=
  let digits := fraction.take 6
  valueOf digits * Nat.pow 10 (6 - digits.length)

/-- The moment, if there is a time. -/
def moment? (s : Stamp) : Option Moment :=
  s.time.map fun t =>
    { date := s.date, hour := t.hour, minute := t.minute, second := t.second
      microsecond := microseconds t.fraction, offset := t.offset }

end Stamp

end Phrasebook.Yaml
