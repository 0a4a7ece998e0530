import SqlCompiler.Calendar.Epoch
import SqlCompiler.Calendar.Moment

/-!
# Stamps of local times

A date and a time of day with an offset are a point in universal time. Their stamp is the one of the
whole second that it lies in.
-/

namespace SqlCompiler.DateTime

/-- Microseconds since the start of 1970 in universal time, of a date and a time of day at an offset
from it. -/
def universal (t : DateTime) (offset : Int) : Int :=
  t.microseconds - offset - 719469 * 86400000000

/-- The whole second in universal time. -/
def secondAt (t : DateTime) (offset : Int) : Int :=
  t.universal offset / 1000000

/-- The instant. -/
def instantAt (t : DateTime) (offset : Int) : Instant :=
  ⟨t.universal offset * 1000⟩

/-- The year in universal time. -/
def yearAt (t : DateTime) (offset : Int) : Nat :=
  (Instant.dateTimeOfSecond (t.secondAt offset)).date.year

/-- The stamp of a date and a time of day that has an offset. -/
def stamp? (t : DateTime) : Option String :=
  t.time.offset.map fun offset => (t.instantAt offset).stamp

example : stamp? ⟨⟨2024, 3, 1⟩, ⟨1, 30, 5, 999999, some 7200000000⟩⟩ =
    some "2024-02-29T23:30:05" := by
  decide +kernel

end SqlCompiler.DateTime
