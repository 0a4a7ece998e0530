import SqlCompiler.Calendar.Moment
import SqlCompiler.Number.Exact
import SqlCompiler.Value

/-!
# Equal values

Numbers are equal when they denote the same number, of whatever kind they are; a `NaN` equals
nothing. Times with an offset are equal when they are the same time of the world. Lists and tuples
are compared member by member, sets and objects without regard to order.
-/

namespace SqlCompiler.Value

/-- The number that a value denotes. -/
def number? : Value → Option Number
  | bool b => some (.ofInt (if b then 1 else 0))
  | int n => some (.ofInt n)
  | float x => some (.ofDouble x)
  | decimal d => some (.ofDecimal d)
  | _ => none

/-- Whether two values are numbers and denote the same one. -/
def sameNumber (v w : Value) : Bool :=
  match v.number?, w.number? with
  | some x, some y => x.equal y
  | _, _ => false

mutual

/-- Whether two values are equal. -/
def equal : Value → Value → Bool
  | null, null => true
  | text s, text t => s == t
  | bytes as, bytes bs => as == bs
  | date d, date e => d == e
  | time t, time u => t.isSame u
  | dateTime t, dateTime u => t.isSame u
  | list vs, list ws | tuple vs, tuple ws => equalAll vs ws
  | set vs, set ws | set vs, frozenSet ws | frozenSet vs, set ws | frozenSet vs, frozenSet ws =>
    vs.length == ws.length && areAmong vs ws
  | object ms, object ns => ms.length == ns.length && agree ms ns
  | v, w => v.sameNumber w

/-- Whether two lists of values are equal member by member. -/
def equalAll : List Value → List Value → Bool
  | [], [] => true
  | v :: vs, w :: ws => equal v w && equalAll vs ws
  | _, _ => false

/-- Whether each of the values equals one of the others. -/
def areAmong : List Value → List Value → Bool
  | [], _ => true
  | v :: vs, ws => ws.any (equal v ·) && areAmong vs ws

/-- Whether each of the members is found among others. -/
def agree : List (String × Value) → List (String × Value) → Bool
  | [], _ => true
  | (k, v) :: ms, ns => (Members.get? ns k).any (equal v ·) && agree ms ns

end

/-- Whether a value equals itself. Of what it consists, each member is the same as itself even if it
is a `NaN`. -/
def isSelfEqual (v : Value) : Bool :=
  match v.number? with
  | some x => x.equal x
  | none => true

example : equal (int 1) (float (Double.ofInt 1)) = true := by decide +kernel
example : equal (bool true) (decimal (.finite false 10 (-1))) = true := by decide +kernel
example : equal (list [int 1]) (tuple [int 1]) = false := by decide +kernel

end SqlCompiler.Value
