/-!
# Dates and times

A moment is a day, a time of day or both, and with both may come the distance from
universal time.  It is shown in its usual form on its own, and part by part inside a
list or a table.
-/

namespace ScopeAtlas.Data

/-- A day of the calendar. -/
structure Day where
  year : Nat
  month : Nat
  day : Nat
deriving Repr, DecidableEq, Inhabited

/-- A time of day. -/
structure Clock where
  hour : Nat
  minute : Nat
  second : Nat
  microsecond : Nat := 0
deriving Repr, DecidableEq, Inhabited

/-- A date, a time of day, or both. -/
inductive Moment where
  | date (day : Day)
  | time (clock : Clock)
  /-- A time on a day; `offset` is the distance from universal time in minutes. -/
  | instant (day : Day) (clock : Clock) (offset : Option Int)
deriving Repr, DecidableEq, Inhabited

namespace Day

/-- The days of a month. -/
def daysOf (year month : Nat) : Nat :=
  if month == 2 then
    if year % 4 == 0 && (year % 100 != 0 || year % 400 == 0) then 29 else 28
  else if month == 4 || month == 6 || month == 9 || month == 11 then 30
  else 31

/-- The calendar has the day. -/
def isValid (day : Day) : Bool :=
  1 ≤ day.year && day.year ≤ 9999 && 1 ≤ day.month && day.month ≤ 12 && 1 ≤ day.day &&
    day.day ≤ daysOf day.year day.month

/-- The days of a year before a month of it. -/
def daysBefore (year month : Nat) : Nat :=
  (List.range' 1 (month - 1)).foldl (fun days earlier => days + daysOf year earlier) 0

/-- The number of a day, counted from the first day of the year one. -/
def ordinal (day : Day) : Nat :=
  let past := day.year - 1
  past * 365 + past / 4 - past / 100 + past / 400 + daysBefore day.year day.month + day.day

end Day

/-- The microseconds of a day that have passed at a time. -/
def Clock.elapsed (clock : Clock) : Nat :=
  ((clock.hour * 60 + clock.minute) * 60 + clock.second) * 1000000 + clock.microsecond

/-- The day has such a time. -/
def Clock.isValid (clock : Clock) : Bool :=
  clock.hour < 24 && clock.minute < 60 && clock.second < 60 && clock.microsecond < 1000000

namespace Moment

/-- Where an instant with a distance from universal time lies, in microseconds of universal time. -/
def universal? : Moment → Option Int
  | .instant day clock (some offset) =>
      some (day.ordinal * 86400000000 + clock.elapsed - offset * 60000000)
  | _ => none

/-- The moments are equal.  Instants with a distance from universal time are compared as points of
universal time, and never equal one without. -/
def same (first second : Moment) : Bool :=
  match first.universal?, second.universal? with
  | some a, some b => a == b
  | none, none => first == second
  | _, _ => false

/-- A number with zeros in front, up to a width. -/
def padded (width number : Nat) : String :=
  let digits := Nat.toDigits 10 number
  String.ofList (List.replicate (width - digits.length) '0' ++ digits)

def dayText (day : Day) : String :=
  padded 4 day.year ++ "-" ++ padded 2 day.month ++ "-" ++ padded 2 day.day

/-- Fractions of a second are shown when there are any. -/
def clockText (clock : Clock) : String :=
  padded 2 clock.hour ++ ":" ++ padded 2 clock.minute ++ ":" ++ padded 2 clock.second ++
    (if clock.microsecond == 0 then "" else "." ++ padded 6 clock.microsecond)

def offsetText (minutes : Int) : String :=
  (if minutes < 0 then "-" else "+") ++ padded 2 (minutes.natAbs / 60) ++ ":" ++
    padded 2 (minutes.natAbs % 60)

/-- A moment on its own. -/
def text : Moment → String
  | .date day => dayText day
  | .time clock => clockText clock
  | .instant day clock offset =>
      dayText day ++ " " ++ clockText clock ++ (offset.map offsetText).getD ""

/-- Zero seconds are left out, as are zero microseconds. -/
def clockParts (clock : Clock) : List Nat :=
  [clock.hour, clock.minute] ++
    (if clock.microsecond != 0 then [clock.second, clock.microsecond]
      else if clock.second != 0 then [clock.second] else [])

/-- Parts between round brackets. -/
def call (name : String) (parts : List String) : String :=
  name ++ "(" ++ String.intercalate ", " parts ++ ")"

/-- A distance from universal time inside another value: whole days, which may be negative, and
seconds. -/
def offsetParts (minutes : Int) : String :=
  let days := minutes / 1440
  let seconds := minutes % 1440 * 60
  if minutes == 0 then "datetime.timezone.utc"
  else
    call "datetime.timezone" [call "datetime.timedelta"
      ((if days == 0 then [] else ["days=" ++ toString days]) ++
        (if seconds == 0 then [] else ["seconds=" ++ toString seconds]))]

def dayParts (day : Day) : List Nat := [day.year, day.month, day.day]

/-- A moment inside another value. -/
def inner : Moment → String
  | .date day => call "datetime.date" ((dayParts day).map toString)
  | .time clock => call "datetime.time" ((clockParts clock).map toString)
  | .instant day clock offset =>
      call "datetime.datetime" ((dayParts day ++ clockParts clock).map toString ++
        (offset.map fun minutes => "tzinfo=" ++ offsetParts minutes).toList)

end Moment

end ScopeAtlas.Data
