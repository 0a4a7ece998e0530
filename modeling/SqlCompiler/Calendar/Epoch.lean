import SqlCompiler.Calendar.Basic

/-!
# Instants

An instant is a count of nanoseconds since the start of 1970 in universal time. Its *stamp* is the
text of its whole second: `2026-10-17T09:30:12`. The calendar has the years from 1 to 9999.
-/

namespace SqlCompiler

/-- Nanoseconds since the start of 1970 in universal time. -/
structure Instant where
  nanoseconds : Int
deriving DecidableEq

/-- Days since the start of 1970 to the date, counted in eras of 400 years that begin in March, so
that a leap day is the last of its year. -/
def Date.ofDays (days : Int) : Date :=
  let shifted := days + 719468
  let era := shifted / 146097
  let dayOfEra := (shifted % 146097).toNat
  let yearOfEra := (dayOfEra - dayOfEra / 1460 + dayOfEra / 36524 - dayOfEra / 146096) / 365
  let dayOfYear := dayOfEra - (365 * yearOfEra + yearOfEra / 4 - yearOfEra / 100)
  let monthIndex := (5 * dayOfYear + 2) / 153
  let month := if monthIndex < 10 then monthIndex + 3 else monthIndex - 9
  { year := (era * 400 + yearOfEra + (if month ≤ 2 then 1 else 0)).toNat
    month
    day := dayOfYear - (153 * monthIndex + 2) / 5 + 1 }

namespace Instant

/-- A count of milliseconds. -/
def ofMilliseconds (n : Int) : Instant :=
  ⟨n * 1000000⟩

/-- The whole second that the instant lies in. -/
def second (t : Instant) : Int :=
  t.nanoseconds / 1000000000

/-- The nanoseconds since the start of the second. -/
def nanosecond (t : Instant) : Nat :=
  (t.nanoseconds % 1000000000).toNat

/-- Date and time of a whole second. -/
def dateTimeOfSecond (n : Int) : DateTime :=
  let rest := (n % 86400).toNat
  { date := Date.ofDays (n / 86400)
    time := ⟨rest / 3600, rest / 60 % 60, rest % 60, 0, none⟩ }

/-- Whether the calendar has the instant. -/
def isInCalendar (t : Instant) : Bool :=
  -62135596800 ≤ t.second && t.second ≤ 253402300799

/-- A date and a time of day in whole seconds. The year has as many digits as it needs. -/
def stampText (t : DateTime) : String :=
  Text.padded 1 t.date.year ++ "-" ++ Text.padded 2 t.date.month ++ "-" ++ Text.padded 2 t.date.day
    ++ "T" ++ t.time.text

/-- The text of the whole second. -/
def stamp (t : Instant) : String :=
  stampText (dateTimeOfSecond t.second)

example : (ofMilliseconds 1760693412999).stamp = "2025-10-17T09:30:12" := by decide +kernel
example : (ofMilliseconds (-1)).stamp = "1969-12-31T23:59:59" := by decide +kernel

end Instant

end SqlCompiler
