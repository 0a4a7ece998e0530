import SqlCompiler.Number.Arithmetic
import SqlCompiler.Value

/-!
# Sums of values

Values of one kind that consist of others are put one behind the other; whole and binary numbers are
added.
-/

namespace SqlCompiler.Value

/-- The whole number that a value is. -/
def whole? : Value → Option Int
  | int n => some n
  | bool b => some (if b then 1 else 0)
  | _ => none

/-- The binary number that a value is or that is near it. -/
def real? : Value → Option Double
  | float x => some x
  | v => v.whole?.map Double.ofInt

/-- The sum of two values, if they have one. -/
def plus? : Value → Value → Option Value
  | text s, text t => some (text (s ++ t))
  | bytes as, bytes bs => some (bytes (as ++ bs))
  | list vs, list ws => some (list (vs ++ ws))
  | tuple vs, tuple ws => some (tuple (vs ++ ws))
  | v, w =>
    match v.whole?, w.whole? with
    | some m, some n => some (int (m + n))
    | _, _ => do return float ((← v.real?).add (← w.real?))

end SqlCompiler.Value
