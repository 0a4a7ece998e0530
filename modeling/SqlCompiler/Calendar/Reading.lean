import SqlCompiler.Calendar.Epoch
import SqlCompiler.Number.Arithmetic

/-!
# Times as they are read

A file has a time to the nanosecond. It is read as a binary number of seconds, which is rounded to
microseconds before it is a date and a time of day. Both steps round to the nearest number, so a
time late in a second may be read as the start of the next one.
-/

namespace SqlCompiler.Instant

/-- The number nearest to a thousand-millionth. -/
def nano : Double :=
  .ofFraction false 1 1000000000

/-- The seconds since the start of 1970, as a binary number: the whole ones and the others are
rounded on their own and then together. -/
def toDouble (t : Instant) : Double :=
  (Double.ofInt t.second).add (nano.times t.nanosecond)

/-- The instant of a number of seconds, in whole microseconds. What is left over of a whole second
is rounded, and may come to a whole one. -/
def ofDouble (x : Double) : Instant :=
  let microsecond := ((x.sub (.ofInt x.truncate)).times 1000000).round
  ⟨x.truncate * 1000000000 + microsecond * 1000⟩

/-- The instant as which the time of a file is read. -/
def asRead (t : Instant) : Instant :=
  ofDouble t.toDouble

example : (ofMilliseconds 1700000000999).asRead = ofMilliseconds 1700000000999 := by decide +kernel
example : (⟨1700000000999999900⟩ : Instant).asRead = ⟨1700000001000000000⟩ := by decide +kernel

end SqlCompiler.Instant
