import Triage.Moment

/-!
# Time stamps

A time stamp is a moment in universal time, counted in microseconds from the first
day of 1970 and written as a day, a time of day and the offset zero.  Days are counted
in eras of four hundred years that start in March, so that the leap day is the last
day of a year.
-/

namespace Triage.TimeStamp

set_option autoImplicit false

/-- The days from the start of the first era to the first day of 1970. -/
def daysBefore1970 : Nat := 719468

/-- The days of an era. -/
def daysOfEra : Nat := 146097

/-- The day that comes a number of days after the first day of 1970. -/
def dayAfter (count : Nat) : Day :=
  let days := count + daysBefore1970
  let era := days / daysOfEra
  let dayOfEra := days % daysOfEra
  let yearOfEra := (dayOfEra - dayOfEra / 1460 + dayOfEra / 36524 - dayOfEra / 146096) / 365
  let dayOfYear := dayOfEra - (365 * yearOfEra + yearOfEra / 4 - yearOfEra / 100)
  let monthFromMarch := (5 * dayOfYear + 2) / 153
  let month := if monthFromMarch < 10 then monthFromMarch + 3 else monthFromMarch - 9
  { year := era * 400 + yearOfEra + if month ≤ 2 then 1 else 0
    month
    day := dayOfYear - (153 * monthFromMarch + 2) / 5 + 1 }

/-- The time of day that comes a number of microseconds after midnight. -/
def clockAfter (microseconds : Nat) : Clock :=
  let seconds := microseconds / 1000000
  ⟨seconds / 3600, seconds / 60 % 60, seconds % 60, microseconds % 1000000⟩

/-- The microseconds of a day. -/
def microsecondsOfDay : Nat := 86400000000

/-- The time stamp of a number of microseconds after the start of 1970. -/
def text (microseconds : Nat) : String :=
  Moment.dayText (dayAfter (microseconds / microsecondsOfDay)) ++ "T" ++
    Moment.clockText (clockAfter (microseconds % microsecondsOfDay)) ++ Moment.offsetText 0

end Triage.TimeStamp
