import SqlCompiler.Number.Double

/-!
# Fewest decimal digits that read back

A binary number is written with the fewest decimal digits that round to it, and of those with the
digits nearest to it. The test runs in exact arithmetic: on the decimal grid of `n` digits only the
two neighbours of the value can lie in the interval that rounds to it.
-/

namespace SqlCompiler.Shortest

/-- The fractions that round to a value, over one denominator: from `low` to `high`, the ends
included or not. -/
structure Interval where
  low : Nat
  value : Nat
  high : Nat
  denominator : Nat
  closed : Bool

/-- The interval of `mantissa · 2 ^ exponent`. Below a power of two the gap is half as wide. -/
def Interval.of (mantissa : Nat) (exponent : Int) : Interval :=
  let narrow := mantissa = Double.hiddenBit && exponent > -1074
  let (unit, denominator) := Double.scaleBinary 1 1 (exponent - 2)
  { low := (4 * mantissa - if narrow then 1 else 2) * unit
    value := 4 * mantissa * unit
    high := (4 * mantissa + 2) * unit
    denominator
    closed := mantissa % 2 == 0 }

/-- The least power of ten that lifts `num / den` to one or more, up to a bound. -/
def liftPower (num den : Nat) : Nat → Nat
  | 0 => 0
  | fuel + 1 => if num ≥ den then 0 else liftPower (num * 10) den fuel + 1

/-- The number of digits before the point: `10 ^ (p - 1) ≤ num / den < 10 ^ p`. -/
def pointPosition (num den : Nat) : Int :=
  if num ≥ den then (Nat.toDigits 10 (num / den)).length
  else 1 - (liftPower num den 400 : Int)

/-- Whether `count` units of a grid lie in the interval, the unit being `unit / scale`. -/
def Interval.holds (i : Interval) (count unit scale : Nat) : Bool :=
  let x := count * unit * i.denominator
  if i.closed then i.low * scale ≤ x && x ≤ i.high * scale
  else i.low * scale < x && x < i.high * scale

/-- The neighbour of the value on the grid of the power of ten that rounds to it, the nearer of two,
of two equally near the even one. -/
def Interval.neighbour? (i : Interval) (power : Int) : Option Nat :=
  let (unit, scale) : Nat × Nat := match power with
    | .ofNat k => (Nat.pow 10 k, 1)
    | .negSucc k => (1, Nat.pow 10 (k + 1))
  let num := i.value * scale
  let den := i.denominator * unit
  let down := num / den
  let twice := 2 * (num % den)
  let nearest := if twice < den || (twice == den && down % 2 == 0) then down else down + 1
  let other := if nearest = down then down + 1 else down
  if i.holds nearest unit scale then some nearest
  else if i.holds other unit scale then some other
  else none

/-- The first grid with a hit, from `digits` digits on, at most `fuel` of them. The upper neighbour
of a value just below a power of ten is that power. -/
def Interval.search (i : Interval) (point : Int) : Nat → Nat → Nat × Int
  | _, 0 => (0, 0)
  | digits, fuel + 1 =>
    match i.neighbour? (point - digits) with
    | some count => if count = Nat.pow 10 digits then (1, point) else (count, point - digits)
    | none => i.search point (digits + 1) fuel

/-- Coefficient and power of ten of the shortest decimal that reads back as
`mantissa · 2 ^ exponent`. Seventeen digits always suffice. -/
def decimal (mantissa : Nat) (exponent : Int) : Nat × Int :=
  let i := Interval.of mantissa exponent
  i.search (pointPosition i.value i.denominator) 1 17

example : decimal 1 (-1074) = (5, -324) := by decide +kernel
example : decimal 7555786372591432 (-76) = (1, -7) := by decide +kernel
example : decimal (3 * (Double.hiddenBit / 2)) (-52) = (15, -1) := by decide +kernel

end SqlCompiler.Shortest
