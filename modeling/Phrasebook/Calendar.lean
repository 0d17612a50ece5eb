import Phrasebook.Decimal.Notation

namespace Phrasebook

/-!
# Dates and moments

Days of the proleptic calendar and moments on them, with or without an offset from universal time.

* `Date.check`, `Moment.check` — whether the day and the time exist, or else what does not;
* `Date.dayNumber` — days counted from 1 January of the year 1, which is day 1;
* `Moment.instant?` — microseconds of universal time, by which moments with an offset compare;
* `Date.isoText`, `Moment.isoText` — the written forms.
-/

/-- A day of the calendar. -/
structure Date where
  year : Nat
  month : Nat
  day : Nat
  deriving DecidableEq, Repr

/-- What does not exist in the calendar or on the clock. -/
inductive CalendarFault where
  | year (n : Nat)
  | month
  | day
  | hour
  | minute
  | second
  /-- An offset of a day or more, in minutes. -/
  | offset (minutes : Int)
  deriving DecidableEq, Repr

/-- A span of whole minutes: days rounded down, and the seconds beyond them. -/
def spanText (minutes : Int) : List Char :=
  let seconds := minutes * 60
  let days := Int.fdiv seconds 86400
  let rest := seconds - days * 86400
  let pieces := (if days == 0 then [] else ["days=".toList ++ Decimal.intText days])
    ++ (if rest == 0 then [] else ["seconds=".toList ++ Decimal.intText rest])
  let inner := if pieces.isEmpty then ['0'] else [',', ' '].intercalate pieces
  "datetime.timedelta(".toList ++ inner ++ [')']

/-- The fault in words. -/
def CalendarFault.message : CalendarFault → String
  | .year n => "year " ++ toString n ++ " is out of range"
  | .month => "month must be in 1..12"
  | .day => "day is out of range for month"
  | .hour => "hour must be in 0..23"
  | .minute => "minute must be in 0..59"
  | .second => "second must be in 0..59"
  | .offset minutes =>
    "offset must be a timedelta strictly between -timedelta(hours=24) and timedelta(hours=24), not "
      ++ String.ofList (spanText minutes) ++ "."

namespace Date

/-- Whether the year has a 29 February. -/
def isLeap (year : Nat) : Bool := year % 4 == 0 && (year % 100 != 0 || year % 400 == 0)

/-- The number of days of a month. -/
def daysIn (year month : Nat) : Nat :=
  if month == 2 then (if isLeap year then 29 else 28)
  else if month == 4 || month == 6 || month == 9 || month == 11 then 30
  else 31

/-- Whether the day exists, in a year from 1 to 9999. -/
def check (d : Date) : Except CalendarFault Unit :=
  if d.year < 1 || 9999 < d.year then .error (.year d.year)
  else if d.month < 1 || 12 < d.month then .error .month
  else if d.day < 1 || daysIn d.year d.month < d.day then .error .day
  else .ok ()

/-- The number of days before a year. -/
def daysBeforeYear (year : Nat) : Nat :=
  let y := year - 1
  y * 365 + y / 4 - y / 100 + y / 400

/-- The number of days of a year before a month. -/
def daysBeforeMonth (year month : Nat) : Nat :=
  (List.range (month - 1)).foldl (fun days m => days + daysIn year (m + 1)) 0

/-- The day counted from 1 January of the year 1, which is day 1. -/
def dayNumber (d : Date) : Nat := daysBeforeYear d.year + daysBeforeMonth d.year d.month + d.day

/-- The text of `n` with leading zeros up to `width` digits. -/
def padded (width n : Nat) : List Char :=
  let digits := Decimal.natText n
  List.replicate (width - digits.length) '0' ++ digits

/-- Year, month and day with hyphens between them. -/
def isoText (d : Date) : List Char :=
  padded 4 d.year ++ '-' :: padded 2 d.month ++ '-' :: padded 2 d.day

/-- Order of days. -/
def isBefore (a b : Date) : Bool := a.dayNumber < b.dayNumber

end Date

/-- A time on a day; `offset` is the distance east of universal time in minutes, where known. -/
structure Moment where
  date : Date
  hour : Nat
  minute : Nat
  second : Nat
  microsecond : Nat
  offset : Option Int
  deriving DecidableEq, Repr

namespace Moment

/-- Whether the moment exists; an offset of a day or more is found first. -/
def check (t : Moment) : Except CalendarFault Unit := do
  match t.offset with
  | some minutes => if 1440 ≤ minutes.natAbs then throw (.offset minutes)
  | none => pure ()
  t.date.check
  if 23 < t.hour then throw .hour
  if 59 < t.minute then throw .minute
  if 59 < t.second then throw .second

/-- Microseconds since the start of day 0, on the clock of the moment itself. -/
def localMicroseconds (t : Moment) : Int :=
  (((t.date.dayNumber * 24 + t.hour) * 60 + t.minute) * 60 + t.second : Nat) * 1000000
    + t.microsecond

/-- Microseconds of universal time, for a moment with an offset. -/
def instant? (t : Moment) : Option Int :=
  t.offset.map fun minutes => t.localMicroseconds - minutes * 60000000

/-- Moments agree when both have an offset and name the same instant, or neither has one and they
    show the same time. -/
def sameAs (s t : Moment) : Bool :=
  match s.instant?, t.instant? with
  | some a, some b => a == b
  | none, none => s == t
  | _, _ => false

/-- Order of moments; a moment with an offset and one without cannot be compared. -/
def isBefore? (s t : Moment) : Option Bool :=
  match s.instant?, t.instant? with
  | some a, some b => some (a < b)
  | none, none => some (s.localMicroseconds < t.localMicroseconds)
  | _, _ => none

/-- An offset as sign, hours and minutes. -/
def offsetText (minutes : Int) : List Char :=
  (if minutes < 0 then '-' else '+')
    :: Date.padded 2 (minutes.natAbs / 60) ++ ':' :: Date.padded 2 (minutes.natAbs % 60)

/-- Date, `T`, time, a fraction of six digits unless it is zero, and the offset if there is one. -/
def isoText (t : Moment) : List Char :=
  t.date.isoText ++ 'T' :: Date.padded 2 t.hour ++ ':' :: Date.padded 2 t.minute
    ++ ':' :: Date.padded 2 t.second
    ++ (if t.microsecond == 0 then [] else '.' :: Date.padded 6 t.microsecond)
    ++ (match t.offset with | none => [] | some minutes => offsetText minutes)

end Moment

end Phrasebook
