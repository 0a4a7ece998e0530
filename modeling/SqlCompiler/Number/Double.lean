/-!
# Binary floating-point numbers

A number of the binary64 format is kept as its 64 bits, so that equality is decidable and a zero
keeps its sign. `Double.view` reads the bits as an exact rational; `Double.ofScaled` goes the other
way and rounds a fraction to the nearest number, a tie to the even one.
-/

namespace SqlCompiler

/-- A binary64 number. -/
structure Double where
  bits : UInt64
deriving DecidableEq, Inhabited

namespace Double

/-- What the bits mean: a finite number is `mantissa · 2 ^ exponent`, with its sign. -/
inductive View
  | nan
  | infinite (negative : Bool)
  | finite (negative : Bool) (mantissa : Nat) (exponent : Int)
deriving DecidableEq

/-- The least mantissa of a normal number, two to the power of 52: one more than all fraction bits.
-/
def hiddenBit : Nat :=
  0x10000000000000

/-- The bit of the sign, above the eleven of the exponent. -/
def signBit : Nat :=
  2048 * hiddenBit

/-- The number that the bits stand for. -/
def view (x : Double) : View :=
  let n := x.bits.toNat
  let negative := n / signBit == 1
  let fraction := n % hiddenBit
  match n / hiddenBit % 2048 with
  | 0 => .finite negative fraction (-1074)
  | 2047 => if fraction = 0 then .infinite negative else .nan
  | biased => .finite negative (hiddenBit + fraction) (biased - 1075)

/-- The number with a sign and the bits of its magnitude. -/
def ofMagnitude (negative : Bool) (magnitude : Nat) : Double :=
  ⟨UInt64.ofNat ((if negative then signBit else 0) + magnitude)⟩

/-- The infinity of a sign. -/
def infinity (negative : Bool) : Double :=
  ofMagnitude negative (2047 * hiddenBit)

/-- Not a number. -/
def nan : Double :=
  ofMagnitude false (2047 * hiddenBit + hiddenBit / 2)

/-- A quotient rounded to the nearest whole number, a tie to the even one. -/
def roundQuotient (num den : Nat) : Nat :=
  let q := num / den
  let r := num % den
  if 2 * r < den || (2 * r == den && q % 2 == 0) then q else q + 1

/-- A quotient of powers of two applied to `num / den`, as numerator and denominator. -/
def scaleBinary (num den : Nat) (exponent : Int) : Nat × Nat :=
  match exponent with
  | .ofNat k => (num <<< k, den)
  | .negSucc k => (num, den <<< (k + 1))

/-- The exponent at which `num / den` has a mantissa of a normal number, or the least one. -/
def nearestExponent (num den : Nat) : Int :=
  let guess : Int := (num.log2 : Int) - den.log2 - 52
  let low := scaleBinary num den (-guess)
  max (-1074) (if low.1 / low.2 < hiddenBit then guess - 1 else guess)

/-- The magnitude bits of the number nearest to `num / den`. -/
def nearestMagnitude (num den : Nat) : Nat :=
  if num = 0 then 0
  else
    let exponent := nearestExponent num den
    let (n, d) := scaleBinary num den (-exponent)
    min (2047 * hiddenBit) (roundQuotient n d + (exponent + 1074).toNat * hiddenBit)

/-- The number nearest to the fraction `num / den`. -/
def ofFraction (negative : Bool) (num den : Nat) : Double :=
  ofMagnitude negative (nearestMagnitude num den)

/-- The number nearest to `coefficient · 10 ^ exponent`. Beyond the four hundredth power of ten the
answer is known without the power. -/
def ofScaled (negative : Bool) (coefficient : Nat) (exponent : Int) : Double :=
  let size : Int := (Nat.toDigits 10 coefficient).length
  if coefficient = 0 || size + exponent < -400 then ofMagnitude negative 0
  else if size + exponent > 400 then infinity negative
  else match exponent with
    | .ofNat k => ofFraction negative (coefficient * Nat.pow 10 k) 1
    | .negSucc k => ofFraction negative coefficient (Nat.pow 10 (k + 1))

/-- The number nearest to a whole one. -/
def ofInt (n : Int) : Double :=
  ofFraction (n < 0) n.natAbs 1

/-- Neither infinite nor `nan`. -/
def isFinite (x : Double) : Bool :=
  match x.view with
  | .finite .. => true
  | _ => false

/-- Zero of either sign. -/
def isZero (x : Double) : Bool :=
  match x.view with
  | .finite _ 0 _ => true
  | _ => false

/-- The whole number that a finite one equals. -/
def whole? (x : Double) : Option Int :=
  match x.view with
  | .finite negative mantissa exponent =>
    let (n, d) := scaleBinary mantissa 1 exponent
    if n % d = 0 then some (if negative then -(n / d : Nat) else (n / d : Nat)) else none
  | _ => none

/-- The largest whole number that is not above a finite one. -/
def floor? (x : Double) : Option Int :=
  match x.view with
  | .finite negative mantissa exponent =>
    let (n, d) := scaleBinary mantissa 1 exponent
    some ((if negative then -(n : Int) else n) / d)
  | _ => none

/-- A finite number cut to a whole one, toward zero. -/
def truncate (x : Double) : Int :=
  match x.view with
  | .finite negative mantissa exponent =>
    let (n, d) := scaleBinary mantissa 1 exponent
    if negative then -(n / d : Nat) else (n / d : Nat)
  | _ => 0

/-- A finite number rounded to the nearest whole one, a tie to the even one. -/
def round (x : Double) : Int :=
  match x.view with
  | .finite negative mantissa exponent =>
    let (n, d) := scaleBinary mantissa 1 exponent
    if negative then -(roundQuotient n d : Nat) else (roundQuotient n d : Nat)
  | _ => 0

example : (ofScaled false 15 (-1)).view = .finite false (3 * (hiddenBit / 2)) (-52) := by
  decide +kernel
example : ofScaled false 5 (-324) = ⟨1⟩ := by decide +kernel
example : ofScaled true 1 400 = infinity true := by decide +kernel

end Double

end SqlCompiler
