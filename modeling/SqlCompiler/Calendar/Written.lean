import SqlCompiler.Calendar.Basic
import SqlCompiler.Number.Numeral

/-!
# Points in time as they are written

The texts that mean a date, a time of day, both together, or a duration, and the numbers that mean
one: seconds since the start of 1970 or of the day, or the seconds of a duration. Only whether there
is a meaning is told here.
-/

namespace SqlCompiler

/-- The number of days in a month. -/
def daysInMonth (year month : Nat) : Nat :=
  if month = 2 then
    if year % 4 = 0 && (year % 100 != 0 || year % 400 = 0) then 29 else 28
  else if [4, 6, 9, 11].contains month then 30 else 31

/-- Whether there is such a date. -/
def Date.isPossible (d : Date) : Bool :=
  1 ≤ d.month && d.month ≤ 12 && 1 ≤ d.day && d.day ≤ daysInMonth d.year d.month

/-- A day has so many seconds. -/
def secondsOfDay : Int :=
  86400

namespace Written

/-! ## Numbers -/

/-- The second since the start of 1970 that a number means. A large one counts milliseconds. -/
def second (n : Int) : Int :=
  if n.natAbs ≤ 20000000000 then n else n / 1000

/-- Whether a number means a second in the years 0 to 9999. -/
def isMomentNumber (n : Int) : Bool :=
  -62167219200 ≤ second n && second n ≤ 253402300799

/-- Whether a number means a date, which is the second in which its day starts. -/
def isDateNumber (n : Int) : Bool :=
  isMomentNumber n && second n % secondsOfDay = 0

/-- Whether a number means a time of day. -/
def isClockNumber (n : Int) : Bool :=
  0 ≤ n && n < secondsOfDay

/-- Whether a number means a duration of fewer than a thousand million days. -/
def isDurationNumber (n : Int) : Bool :=
  n.natAbs / secondsOfDay < 1000000000

/-- The number of whole seconds in a text: digits behind a sign or none, a fraction after them or
not. -/
def number? (s : List Char) : Option Int :=
  let (negative, body) := Numeral.signed s
  let digits := body.takeWhile Char.isDigit
  if digits.isEmpty then none
  else
    match body.dropWhile Char.isDigit with
    | [] => (Text.digitsValue? digits).map (Numeral.withSign negative)
    | '.' :: _ => (Decimal.ofMagnitude? negative body).bind (·.toDouble.floor?)
    | _ => none

/-! ## Texts -/

/-- What follows a fraction of a second, which starts with a point or a comma and has a digit. -/
def dropFraction? : List Char → Option (List Char)
  | c :: rest =>
    if c == '.' || c == ',' then
      if rest.head?.any Char.isDigit then some (rest.dropWhile Char.isDigit) else none
    else some (c :: rest)
  | [] => some []

/-- What follows two digits that are below a bound. -/
def dropBelow? (bound : Nat) (s : List Char) : Option (List Char) :=
  match twoDigits? s with
  | some (n, rest) => if n < bound then some rest else none
  | none => none

/-- What follows a minute and, if they are there, a second and its fraction. -/
def dropMinute? (s : List Char) : Option (List Char) := do
  match ← dropBelow? 60 s with
  | ':' :: rest => dropFraction? (← dropBelow? 60 rest)
  | rest => some rest

/-- What follows a time of day. -/
def dropClock? (s : List Char) : Option (List Char) := do
  match ← dropBelow? 24 s with
  | ':' :: rest => dropMinute? rest
  | _ => none

/-- Whether a text is an offset from universal time, or nothing. -/
def isOffset : List Char → Bool
  | [] | ['Z'] | ['z'] => true
  | sign :: rest => ['+', '-', '−'].contains sign && match dropBelow? 24 rest with
    | some (':' :: minutes) | some minutes => dropBelow? 60 minutes == some []
    | none => false

/-- Whether a text is a time of day. -/
def isClock (s : List Char) : Bool :=
  (dropClock? s).any isOffset

/-- What follows a date. -/
def dropDate? (s : List Char) : Option (List Char) :=
  match Date.read? s with
  | some (d, rest) => if d.isPossible then some rest else none
  | none => none

/-- Whether a text is a date, or a number that means one. -/
def isDate (s : List Char) : Bool :=
  dropDate? s == some [] || (number? s).any isDateNumber

/-- Whether a text is a date and a time of day, or a number that means both. -/
def isMoment (s : List Char) : Bool :=
  (match dropDate? s with
    | some (separator :: time) => ['T', 't', ' ', '_'].contains separator && isClock time
    | _ => false)
  || (number? s).any isMomentNumber

/-! ## Durations -/

/-- How much of a number has been read: nothing, digits, or digits and a point. -/
inductive NumberPart
  | nothing
  | whole
  | fraction

/-- Whether characters are numbers with units: years to days, and hours to seconds behind a `T`.
Only the last number may have a fraction. -/
def areParts (inDay isLast : Bool) (read : NumberPart) : List Char → Bool
  | [] => match read with
    | .nothing => true
    | _ => false
  | c :: rest =>
    let isUnit := (if inDay then ['H', 'M', 'S'] else ['Y', 'M', 'W', 'D']).contains c
    match read with
    | .nothing =>
      if c == 'T' then !inDay && areParts true isLast .nothing rest
      else c.isDigit && !isLast && areParts inDay isLast .whole rest
    | .whole =>
      if c.isDigit then areParts inDay isLast .whole rest
      else if c == '.' || c == ',' then areParts inDay true .fraction rest
      else isUnit && areParts inDay isLast .nothing rest
    | .fraction =>
      if c.isDigit then areParts inDay isLast .fraction rest
      else isUnit && areParts inDay isLast .nothing rest

/-- Whether a text is hours, which may be many, and minutes, with seconds or without. -/
def isSpan (s : List Char) : Bool :=
  match s.dropWhile Char.isDigit with
  | ':' :: rest => 5 ≤ s.length && s.length - rest.length ≤ 11 && dropMinute? rest == some []
  | _ => false

/-- What follows the word for days, which may be shortened and have a comma behind it. -/
def dropDayWord? (s : List Char) : Option (List Char) :=
  let words := ["days", "day", "d"].map String.toList
  (words.find? (·.isPrefixOf (s.map Char.toLower))).map fun word =>
    match s.drop word.length with
    | ',' :: rest => rest
    | rest => rest

/-- Whether a text is a number of days and, behind a space, hours or not. -/
def isDaySpan (s : List Char) : Bool :=
  let rest := s.dropWhile Char.isDigit
  let word := match rest with
    | ' ' :: word => word
    | word => word
  rest.length < s.length && match dropDayWord? word with
    | some [] => true
    | some (' ' :: hours) => isSpan hours
    | _ => false

/-- Whether a text is a duration, behind a sign or none. -/
def isDuration (s : List Char) : Bool :=
  match (Numeral.signed s).2 with
  | 'P' :: parts => 3 ≤ s.length && areParts false false .nothing parts
  | body => if body.any (·.toLower == 'd') then isDaySpan body else isSpan body

example : isMoment "2024-02-29T23:59:59.5+05:30".toList = true := by decide
example : isDate "2023-02-29".toList = false := by decide
example : isDate "86400".toList = true := by decide
example : isClock "24:00".toList = false := by decide
example : isDuration "-P1Y2M3DT4H5.5S".toList = true := by decide
example : isDuration "3 days, 100:15".toList = true := by decide

end Written

end SqlCompiler
