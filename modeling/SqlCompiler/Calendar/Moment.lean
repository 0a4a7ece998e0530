import SqlCompiler.Calendar.Basic

/-!
# The same time

Two times are the same if both are local and agree, or if both have an offset and are the same time
in universal time.
-/

namespace SqlCompiler

/-- Days from the start of the year 0 to the date, counted in years that begin in March. -/
def Date.days (d : Date) : Nat :=
  let (year, month) := if d.month < 3 then (d.year - 1, d.month + 9) else (d.year, d.month - 3)
  365 * year + year / 4 - year / 100 + year / 400 + (153 * month + 2) / 5 + d.day

namespace TimeOfDay

/-- Whole seconds since midnight. -/
def seconds (t : TimeOfDay) : Nat :=
  3600 * t.hour + 60 * t.minute + t.second

/-- Whether two times of day are the same. Offsets are taken in whole seconds. -/
def isSame (t u : TimeOfDay) : Bool :=
  match t.offset, u.offset with
  | none, none => t == u
  | some m, some n =>
    t.microsecond == u.microsecond
      && (m == n && t.seconds == u.seconds
        || m != n && t.seconds - m / 1000000 == u.seconds - n / 1000000)
  | _, _ => false

end TimeOfDay

namespace DateTime

/-- Microseconds since the start of the year 0 as the local clock counts them. -/
def microseconds (t : DateTime) : Nat :=
  (86400 * t.date.days + t.time.seconds) * 1000000 + t.time.microsecond

/-- Whether a date and a time are the same as others. -/
def isSame (t u : DateTime) : Bool :=
  match t.time.offset, u.time.offset with
  | none, none => t == u
  | some m, some n => t.microseconds - m == u.microseconds - n
  | _, _ => false

end DateTime

end SqlCompiler
