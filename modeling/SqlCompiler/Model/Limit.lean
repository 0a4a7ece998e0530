import SqlCompiler.Calendar.Written
import SqlCompiler.Schema.Checked

/-!
# Limits

The field of a model class may limit its values: by bounds, by a number they are multiples of, or
by how long they are. `Measure` says what limits mean for the values of a type, and so what they
can be.
-/

namespace SqlCompiler.Model

/-- Limits on the values of a field. -/
inductive Limit
  | above
  | atLeast
  | below
  | atMost
  | multipleOf
  | minLength
  | maxLength
deriving DecidableEq

namespace Limit

/-- Every limit, in the order in which a field states them. -/
def all : List Limit :=
  [above, atLeast, below, atMost, multipleOf, minLength, maxLength]

/-- The name of a limit among the options of a field. -/
def name : Limit → String
  | above => "gt"
  | atLeast => "ge"
  | below => "lt"
  | atMost => "le"
  | multipleOf => "multiple_of"
  | minLength => "min_length"
  | maxLength => "max_length"

/-- The member of a column that a limit becomes. -/
def columnKey? : Limit → Option String
  | above => some "exclusiveMinimum"
  | atLeast => some "minimum"
  | below => some "exclusiveMaximum"
  | atMost => some "maximum"
  | maxLength => some "maxLength"
  | multipleOf | minLength => none

/-- Whether a limit counts members or characters. -/
def isLength : Limit → Bool
  | minLength | maxLength => true
  | _ => false

end Limit

/-- What limits mean for the values of a type. -/
inductive Measure
  | whole
  | real
  | decimal
  | length
  | moment
  | day
  | clock
  | duration
  | unmeasured
deriving DecidableEq

namespace Measure

/-- Whether values are measured by a limit. -/
def takes (m : Measure) (limit : Limit) : Bool :=
  match m with
  | whole | real | decimal | moment | day | clock | duration => !limit.isLength
  | length => limit.isLength
  | unmeasured => false

/-- Whether a value that is no point in time means one: by its text, or by a number of seconds, of
which the whole ones count. -/
def means (text : List Char → Bool) (number : Int → Bool) : Value → Bool
  | .text s => text s.toList
  | .bytes bs => (Text.ofUtf8? bs).any fun s => text s.toList
  | .int n => number n
  | .float x => x.floor?.any number
  | .decimal d => !d.isSignalling && d.toDouble.floor?.any number
  | _ => false

/-- Whether a value means a whole number. -/
def isWhole (v : Value) : Bool :=
  match Checked.int v with
  | .valid _ => true
  | .invalid _ => false

/-- Whether a value can be a limit: what means a whole number limits whole ones, any number limits
other numbers, one that is not negative limits lengths, and what means a point in time of some sort
limits those. -/
def allows (m : Measure) (v : Value) : Bool :=
  match m, v with
  | whole, v => isWhole v
  | real, .int n => (Double.ofInt n).isFinite
  | real, .bool _ | real, .float _ => true
  | real, .decimal d => !d.isSignalling
  | decimal, .int _ | decimal, .float _ | decimal, .decimal _ => true
  | decimal, .text s => Numeral.isExact s
  | length, .int n => Word.fitsUnsigned n
  | length, .bool _ => true
  | moment, .dateTime _ | moment, .date _ => true
  | moment, v => means Written.isMoment Written.isMomentNumber v
  | day, .date _ => true
  | day, v => means Written.isDate (fun _ => false) v
  | clock, .time _ => true
  | clock, v => means Written.isClock Written.isClockNumber v
  | duration, .bool _ => true
  | duration, v => means Written.isDuration Written.isDurationNumber v
  | unmeasured, _ => true
  | _, _ => false

/-- Whether a value can be a limit of a sort. That points in time are multiples of something means
nothing, and nothing is wrong with saying so. -/
def allowsAs (m : Measure) (limit : Limit) (v : Value) : Bool :=
  match m, limit with
  | moment, .multipleOf | day, .multipleOf | clock, .multipleOf | duration, .multipleOf => true
  | _, _ => m.allows v

/-- Whether some limit is no possible one. Of several limits of one sort the last counts, and
nothing counts from the first limit on that the values are not measured by. -/
def refuses (m : Measure) (limits : List (Limit × Value)) : Bool :=
  let counting := limits.takeWhile fun (limit, _) => m.takes limit
  Limit.all.any fun limit =>
    match counting.reverse.lookup limit with
    | some v => !m.allowsAs limit v
    | none => false

end Measure

end SqlCompiler.Model
