import SqlCompiler.Number.Text

/-!
# Decimal numbers

An exact decimal keeps its coefficient and exponent, so `2.50` differs from `2.5` in text. It is
written positionally when the exponent is not positive and the value is not below `10 ^ -6`, else
with an `E`.
-/

namespace SqlCompiler

/-- A decimal number `± coefficient · 10 ^ exponent`, or what is none: a quiet or signalling `NaN`
carries a diagnostic number. -/
inductive Decimal
  | finite (negative : Bool) (coefficient : Nat) (exponent : Int)
  | infinite (negative : Bool)
  | nan (negative signalling : Bool) (payload : Option Nat)
deriving DecidableEq

namespace Decimal

/-- The text of a finite magnitude. -/
def magnitudeText (coefficient : Nat) (exponent : Int) : List Char :=
  let digits := Text.digitsOn 10 coefficient []
  let point := exponent + digits.length
  if exponent ≤ 0 && point > -6 then
    if exponent = 0 then digits else
      match point with
      | .ofNat 0 => "0.".toList ++ digits
      | .ofNat k => digits.take k ++ '.' :: digits.drop k
      | .negSucc k => "0.".toList ++ List.replicate (k + 1) '0' ++ digits
  else
    let mantissa := match digits with
      | d :: e :: rest => d :: '.' :: e :: rest
      | short => short
    let power := point - 1
    mantissa ++ 'E' :: (if power < 0 then '-' else '+') :: Text.digitsOn 10 power.natAbs []

/-- The text of a decimal number. -/
def text : Decimal → String
  | .finite negative coefficient exponent =>
    (if negative then "-" else "") ++ String.ofList (magnitudeText coefficient exponent)
  | .infinite negative => (if negative then "-" else "") ++ "Infinity"
  | .nan negative signalling payload =>
    (if negative then "-" else "") ++ (if signalling then "sNaN" else "NaN")
      ++ (payload.map fun n => intText n).getD ""

/-- Zero of either sign and any exponent. -/
def isZero : Decimal → Bool
  | .finite _ 0 _ => true
  | _ => false

/-- The nearest binary number. -/
def toDouble : Decimal → Double
  | .finite negative coefficient exponent => Double.ofScaled negative coefficient exponent
  | .infinite negative => Double.infinity negative
  | .nan .. => Double.nan

/-- Neither infinite nor `NaN`. -/
def isFinite : Decimal → Bool
  | .finite .. => true
  | _ => false

/-- A signalling `NaN`, which takes part in no calculation. -/
def isSignalling : Decimal → Bool
  | .nan _ signalling _ => signalling
  | _ => false

/-- The whole number that a finite one equals. -/
def whole? : Decimal → Option Int
  | .finite negative coefficient exponent =>
    let (n, d) : Nat × Nat := match exponent with
      | .ofNat k => (coefficient * Nat.pow 10 k, 1)
      | .negSucc k => (coefficient, Nat.pow 10 (k + 1))
    if n % d = 0 then some (if negative then -(n / d : Nat) else (n / d : Nat)) else none
  | _ => none

/-- A finite number cut to a whole one, toward zero. -/
def truncate : Decimal → Int
  | .finite negative coefficient exponent =>
    let n := match exponent with
      | .ofNat k => coefficient * Nat.pow 10 k
      | .negSucc k => coefficient / Nat.pow 10 (k + 1)
    if negative then -(n : Int) else n
  | _ => 0

/-- Reads an exponent behind its letter: a sign or none, and digits. -/
def exponent? : List Char → Option Int
  | '-' :: ds => (magnitude? ds).map fun n => -(n : Int)
  | '+' :: ds => (magnitude? ds).map Int.ofNat
  | ds => (magnitude? ds).map Int.ofNat
where
  /-- Reads digits, at least one. -/
  magnitude? (ds : List Char) : Option Nat :=
    if ds.isEmpty || !ds.all Char.isDigit then none else Text.digitsValue? ds

/-- Reads digits, an optional fraction and an optional exponent. -/
def ofMagnitude? (negative : Bool) (s : List Char) : Option Decimal := do
  let whole := s.takeWhile Char.isDigit
  let (fraction, rest) := match s.dropWhile Char.isDigit with
    | '.' :: r => (r.takeWhile Char.isDigit, r.dropWhile Char.isDigit)
    | r => ([], r)
  let exponent : Int ← match rest with
    | [] => some 0
    | e :: ds => if e.toLower = 'e' then exponent? ds else none
  if whole.isEmpty && fraction.isEmpty then none
  else
    let coefficient ← Text.digitsValue? (whole ++ fraction)
    return .finite negative coefficient (exponent - fraction.length)

/-- Reads the text of a decimal number. -/
def ofText? (s : String) : Option Decimal :=
  let (negative, body) := match s.toList with
    | '-' :: r => (true, r)
    | '+' :: r => (false, r)
    | r => (false, r)
  let named (name : String) : Option (List Char) :=
    if name.toList.isPrefixOf body then some (body.drop name.length) else none
  let payload (ds : List Char) : Option Nat := if ds.isEmpty then none else Text.digitsValue? ds
  match named "Infinity", named "NaN", named "sNaN" with
  | some [], _, _ => some (.infinite negative)
  | _, some ds, _ => some (.nan negative false (payload ds))
  | _, _, some ds => some (.nan negative true (payload ds))
  | _, _, _ => ofMagnitude? negative body

end Decimal

end SqlCompiler
