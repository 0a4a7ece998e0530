import SqlCompiler.Text.Digit

/-!
# Dates and times

Dates of the Gregorian calendar, times of day to the microsecond, and both together. Each has one
ISO 8601 text; `ofText?` reads what `text` writes, and shorter forms of a time.
-/

namespace SqlCompiler

/-- A day of the Gregorian calendar. -/
structure Date where
  year : Nat
  month : Nat
  day : Nat
deriving DecidableEq

/-- A time of day, with its offset from universal time in microseconds if it is known. -/
structure TimeOfDay where
  hour : Nat
  minute : Nat
  second : Nat
  microsecond : Nat
  offset : Option Int
deriving DecidableEq

/-- A day and a time on it. -/
structure DateTime where
  date : Date
  time : TimeOfDay
deriving DecidableEq

open Text (padded)

/-- Year, month and day with hyphens. -/
def Date.text (d : Date) : String :=
  padded 4 d.year ++ "-" ++ padded 2 d.month ++ "-" ++ padded 2 d.day

/-- A fraction of a second, if there is one. -/
def fractionText (microseconds : Nat) : String :=
  if microseconds = 0 then "" else "." ++ padded 6 microseconds

/-- Hours and minutes of a number of seconds. -/
def minutesText (seconds : Nat) : String :=
  padded 2 (seconds / 3600) ++ ":" ++ padded 2 (seconds / 60 % 60)

/-- Sign, hours and minutes of an offset, and its seconds with their fraction if there are any. -/
def offsetText (microseconds : Int) : String :=
  let fraction := microseconds.natAbs % 1000000
  let seconds := microseconds.natAbs / 1000000
  (if microseconds < 0 then "-" else "+") ++ minutesText seconds
    ++ if seconds % 60 = 0 ∧ fraction = 0 then ""
      else ":" ++ padded 2 (seconds % 60) ++ fractionText fraction

/-- Sign, hours and minutes of an offset, which is rounded to seconds, a half away from zero, and
written without them; universal time is written `Z`. -/
def zuluOffsetText (microseconds : Int) : String :=
  let seconds := (microseconds.natAbs + 500000) / 1000000
  if seconds = 0 then "Z" else (if microseconds < 0 then "-" else "+") ++ minutesText seconds

/-- Hours, minutes and seconds, and a fraction if there is one. -/
def TimeOfDay.localText (t : TimeOfDay) : String :=
  padded 2 t.hour ++ ":" ++ padded 2 t.minute ++ ":" ++ padded 2 t.second
    ++ fractionText t.microsecond

/-- The local time and the offset. -/
def TimeOfDay.text (t : TimeOfDay) : String :=
  t.localText ++ (t.offset.map offsetText).getD ""

/-- The local time and the offset in minutes, universal time written `Z`. -/
def TimeOfDay.zuluText (t : TimeOfDay) : String :=
  t.localText ++ (t.offset.map zuluOffsetText).getD ""

/-- Date and time with a separator. -/
def DateTime.text (separator : String) (t : DateTime) : String :=
  t.date.text ++ separator ++ t.time.text

/-- Date and time with a `T`, the offset in minutes, universal time written `Z`. -/
def DateTime.zuluText (t : DateTime) : String :=
  t.date.text ++ "T" ++ t.time.zuluText

/-- Reads two digits. -/
def twoDigits? : List Char → Option (Nat × List Char)
  | a :: b :: rest => (Text.digitsValue? [a, b]).map (·, rest)
  | _ => none

/-- Reads a date of ten characters and gives the rest. -/
def Date.read? : List Char → Option (Date × List Char)
  | a :: b :: c :: d :: '-' :: rest => do
    let year ← Text.digitsValue? [a, b, c, d]
    let (month, rest) ← twoDigits? rest
    let '-' :: rest := rest | none
    let (day, rest) ← twoDigits? rest
    return (⟨year, month, day⟩, rest)
  | _ => none

/-- Reads a colon and two digits, if they are there. -/
def readPart : List Char → Nat × List Char
  | ':' :: rest => (twoDigits? rest).getD (0, ':' :: rest)
  | rest => (0, rest)

/-- Reads a fraction of a second, in microseconds. -/
def readFraction : List Char → Nat × List Char
  | '.' :: rest =>
    let digits := rest.takeWhile Char.isDigit
    (((Text.digitsValue? ((digits ++ List.replicate 6 '0').take 6))).getD 0,
      rest.dropWhile Char.isDigit)
  | rest => (0, rest)

/-- Reads an offset that ends the text. One of less than a second is none from universal time. -/
def readOffset? : List Char → Option (Option Int)
  | [] => some none
  | ['Z'] => some (some 0)
  | sign :: rest => do
    let negative ← if sign = '-' then some true else if sign = '+' then some false else none
    let (hours, rest) ← twoDigits? rest
    let (minutes, rest) := readPart rest
    let (seconds, rest) := readPart rest
    let (microseconds, rest) := readFraction rest
    if rest.isEmpty then
      let whole := hours * 3600 + minutes * 60 + seconds
      let n : Int := if whole = 0 then 0 else (whole * 1000000 + microseconds : Nat)
      return some (if negative then -n else n)
    else none

/-- Reads a time of day that ends the text. -/
def TimeOfDay.read? (s : List Char) : Option TimeOfDay := do
  let (hour, rest) ← twoDigits? s
  let (minute, rest) := readPart rest
  let (second, rest) := readPart rest
  let (microsecond, rest) := readFraction rest
  return ⟨hour, minute, second, microsecond, ← readOffset? rest⟩

/-- Reads a date. -/
def Date.ofText? (s : String) : Option Date :=
  match Date.read? s.toList with
  | some (d, []) => some d
  | _ => none

/-- Reads a time of day. -/
def TimeOfDay.ofText? (s : String) : Option TimeOfDay :=
  TimeOfDay.read? s.toList

/-- Reads a date and a time behind any separator; a date alone means midnight. -/
def DateTime.ofText? (s : String) : Option DateTime := do
  let (date, rest) ← Date.read? s.toList
  match rest with
  | [] => return ⟨date, ⟨0, 0, 0, 0, none⟩⟩
  | _ :: rest => return ⟨date, ← TimeOfDay.read? rest⟩

end SqlCompiler
