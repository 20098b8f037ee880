import Triage.Decimal.Places

/-!
# Dates and times in configuration files

A configuration file may hold a date, a time of day, or both, the latter with or
without a distance from universal time.  No setting of this library is a date, so a
moment is only ever shown, in full detail inside an error message and in the standard
notation elsewhere, or held against another one.  Two moments whose distances from
universal time are known are the same when universal time is the same at both.
-/

namespace Triage

set_option autoImplicit false

open Triage.Decimal (padded)

/-- A day of the calendar. -/
structure Day where
  year : Nat
  month : Nat
  day : Nat
deriving Repr, DecidableEq, Inhabited

/-- A time of day. -/
structure Clock where
  hour : Nat
  minute : Nat
  second : Nat
  microsecond : Nat
deriving Repr, DecidableEq, Inhabited

/-- A day, a time of day, or a time on a day. -/
inductive Moment where
  | onDay (day : Day)
  | atClock (clock : Clock)
  /-- `offset` is the distance from universal time in minutes. -/
  | instant (day : Day) (clock : Clock) (offset : Option Int)
deriving Repr, DecidableEq, Inhabited

namespace Moment

/-- Whether a year is a leap year. -/
def isLeapYear (year : Nat) : Bool :=
  year % 4 == 0 && (year % 100 != 0 || year % 400 == 0)

/-- The number of days of a month. -/
def daysIn (year month : Nat) : Nat :=
  if month = 2 then (if isLeapYear year then 29 else 28)
  else if month = 4 || month = 6 || month = 9 || month = 11 then 30
  else 31

/-- Whether a day is in the calendar, which starts with the year one. -/
def isValidDay (day : Day) : Bool :=
  1 ≤ day.year && 1 ≤ day.month && day.month ≤ 12 && 1 ≤ day.day &&
    day.day ≤ daysIn day.year day.month

/-- The number of days from the start of the calendar to a day. -/
def dayNumber (day : Day) : Nat :=
  let years := day.year - 1
  365 * years + years / 4 - years / 100 + years / 400 +
    ((List.range (day.month - 1)).map fun month => daysIn day.year (month + 1)).foldl (· + ·) 0 +
    (day.day - 1)

/-- The microseconds from the start of the calendar to a time on a day. -/
def microseconds (day : Day) (clock : Clock) : Nat :=
  (((dayNumber day * 24 + clock.hour) * 60 + clock.minute) * 60 + clock.second) * 1000000 +
    clock.microsecond

/-- Universal time at a moment, in microseconds from the start of the calendar, when the
distance from it is known. -/
def universal? : Moment → Option Int
  | .instant day clock (some offset) => some (microseconds day clock - offset * 60000000)
  | _ => none

/-- A number with at least `width` digits. -/
def digits (width number : Nat) : String := String.ofList (padded width (toString number).toList)

/-- A day in standard notation. -/
def dayText (day : Day) : String :=
  digits 4 day.year ++ "-" ++ digits 2 day.month ++ "-" ++ digits 2 day.day

/-- A time of day in standard notation, microseconds only when there are some. -/
def clockText (clock : Clock) : String :=
  digits 2 clock.hour ++ ":" ++ digits 2 clock.minute ++ ":" ++ digits 2 clock.second ++
    if clock.microsecond = 0 then "" else "." ++ digits 6 clock.microsecond

/-- A distance from universal time in standard notation. -/
def offsetText (offset : Int) : String :=
  (if offset < 0 then "-" else "+") ++ digits 2 (offset.natAbs / 60) ++ ":" ++
    digits 2 (offset.natAbs % 60)

/-- A moment in standard notation. -/
def display : Moment → String
  | .onDay day => dayText day
  | .atClock clock => clockText clock
  | .instant day clock offset =>
      dayText day ++ " " ++ clockText clock ++ (offset.map offsetText).getD ""

/-- The parts of a time of day without the zeros at its end, hour and minute always. -/
def clockParts (clock : Clock) : List String :=
  let shown := [clock.hour, clock.minute] ++
    if clock.microsecond ≠ 0 then [clock.second, clock.microsecond]
    else if clock.second ≠ 0 then [clock.second]
    else []
  shown.map toString

/-- The parts of a day. -/
def dayParts (day : Day) : List String := [day.year, day.month, day.day].map toString

/-- A distance from universal time in full detail; a negative one counts up from the
day before. -/
def offsetDetail (offset : Int) : String :=
  let days := offset.fdiv 1440
  let seconds := offset.fmod 1440 * 60
  let shown := (if days = 0 then [] else ["days=" ++ toString days]) ++
    (if seconds = 0 then [] else ["seconds=" ++ toString seconds])
  if offset = 0 then "datetime.timezone.utc"
  else "datetime.timezone(datetime.timedelta(" ++ ", ".intercalate shown ++ "))"

/-- A moment in full detail. -/
def inspect : Moment → String
  | .onDay day => "datetime.date(" ++ ", ".intercalate (dayParts day) ++ ")"
  | .atClock clock => "datetime.time(" ++ ", ".intercalate (clockParts clock) ++ ")"
  | .instant day clock offset =>
      let zone := (offset.map fun offset => ["tzinfo=" ++ offsetDetail offset]).getD []
      "datetime.datetime(" ++ ", ".intercalate (dayParts day ++ clockParts clock ++ zone) ++ ")"

end Moment

end Triage
