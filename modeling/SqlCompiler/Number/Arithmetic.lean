import SqlCompiler.Number.Double

/-!
# Arithmetic on binary floating-point numbers

Sums, differences and multiples are computed exactly and then rounded once, as the format prescribes.
-/

namespace SqlCompiler.Double

/-- A finite number as `n · 2 ^ e`. -/
def scaled? (x : Double) : Option (Int × Int) :=
  match x.view with
  | .finite negative mantissa exponent => some (if negative then -mantissa else mantissa, exponent)
  | _ => none

/-- The number nearest to `n · 2 ^ e`. -/
def ofScaledBinary (n e : Int) : Double :=
  let (num, den) := scaleBinary n.natAbs 1 e
  ofFraction (n < 0) num den

/-- The sum of two numbers. Infinities of both signs have none. -/
def add (x y : Double) : Double :=
  match x.scaled?, y.scaled? with
  | some (m, e), some (n, f) =>
    let low := min e f
    ofScaledBinary (m <<< (e - low).toNat + n <<< (f - low).toNat) low
  | some _, none => y
  | none, some _ => x
  | none, none => if x = y then x else nan

/-- The difference of two numbers, for finite ones. -/
def sub (x y : Double) : Double :=
  match x.scaled?, y.scaled? with
  | some (m, e), some (n, f) =>
    let low := min e f
    ofScaledBinary (m <<< (e - low).toNat - n <<< (f - low).toNat) low
  | _, _ => nan

/-- The multiple of a number, for finite ones. -/
def times (k : Int) (x : Double) : Double :=
  match x.scaled? with
  | some (n, e) => ofScaledBinary (k * n) e
  | none => nan

example : ((ofScaled false 125 (-2)).sub (ofInt 1)).times 1000 = ofInt 250 := by decide

end SqlCompiler.Double
