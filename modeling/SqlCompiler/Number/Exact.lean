import SqlCompiler.Number.Decimal

/-!
# Numbers of any kind

Whole, binary and decimal numbers denote numbers with finitely many decimal digits, or what is none.
A `Number` says which, in one way for each: `coefficient · 10 ^ exponent` with as few digits as
possible.
-/

namespace SqlCompiler

/-- A number that is denoted: a finite one by its digits without zeros at the end and their place,
zero by no digits. -/
inductive Number
  | finite (coefficient exponent : Int)
  | infinite (negative : Bool)
  | nan
deriving DecidableEq

namespace Number

/-- A magnitude without zeros at the end of its digits, and the place of the last one. -/
def reduce (coefficient : Nat) (exponent : Int) : Nat × Int :=
  if h : coefficient = 0 then (0, 0)
  else if coefficient % 10 = 0 then reduce (coefficient / 10) (exponent + 1)
  else (coefficient, exponent)
termination_by coefficient
decreasing_by exact Nat.div_lt_self (by omega) (by omega)

/-- The number `± coefficient · 10 ^ exponent`. -/
def scaled (negative : Bool) (coefficient : Nat) (exponent : Int) : Number :=
  let (digits, place) := reduce coefficient exponent
  finite (if negative then -(digits : Int) else digits) place

/-- The number that a whole one is. -/
def ofInt (n : Int) : Number :=
  scaled (n < 0) n.natAbs 0

/-- The number that a binary one denotes. A half is five tenths. -/
def ofDouble (x : Double) : Number :=
  match x.view with
  | .nan => nan
  | .infinite negative => infinite negative
  | .finite negative mantissa exponent =>
    match exponent with
    | .ofNat k => scaled negative (mantissa <<< k) 0
    | .negSucc k => scaled negative (mantissa * Nat.pow 5 (k + 1)) (.negSucc k)

/-- The number that a decimal one denotes. -/
def ofDecimal : Decimal → Number
  | .finite negative coefficient exponent => scaled negative coefficient exponent
  | .infinite negative => infinite negative
  | .nan .. => nan

/-- Whether two numbers are the same; what is none is not. -/
def equal (x y : Number) : Bool :=
  x != nan && x == y

example : ofDouble (Double.ofScaled false 25 (-2)) = ofDecimal (.finite false 2500 (-4)) := by
  decide +kernel
example : equal (ofInt 300) (ofDecimal (.finite false 3 2)) = true := by decide +kernel

end Number

end SqlCompiler
