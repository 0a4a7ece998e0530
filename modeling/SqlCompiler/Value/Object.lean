import SqlCompiler.Error

/-!
# Values as objects

An object may also be given as the members themselves, each a pair of a key and a value; of two
pairs with one key the later counts, in the place of the earlier.
-/

namespace SqlCompiler.Value

/-- Puts a pair among members. A key that is no text finds nothing later, but must be one that can
be looked up. -/
def putPair (members : Members) (pair : Value) : Except Error Members :=
  match pair.elements? with
  | some [text key, v] => .ok (members.put key v)
  | some [key, _] => if key.isKey then .ok members else .error (.misuse .notKey)
  | some _ => .error (.misuse .badNumber)
  | none => .error (.misuse .notIterable)

/-- A value as an object: itself, or what consists of pairs of a key and a value. -/
def toMembers (v : Value) : Except Error Members :=
  match v, v.elements? with
  | object members, _ => .ok members
  | _, some pairs => pairs.foldlM putPair []
  | _, none => .error (.misuse .notIterable)

end SqlCompiler.Value
