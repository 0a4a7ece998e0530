import SqlCompiler.Number.Decimal
import SqlCompiler.Calendar.Basic

/-!
# Values

The data that schemas and conditions are made of and that statements carry as arguments: what a JSON
document can hold, and beyond it decimals, bytes, dates and times, tuples and sets. The members of
an object keep their order.
-/

namespace SqlCompiler

/-- A value. Texts are sequences of code points; a set lists its members once each. -/
inductive Value
  | null
  | bool (b : Bool)
  | int (n : Int)
  | float (x : Double)
  | decimal (d : Decimal)
  | text (s : String)
  | bytes (bs : List UInt8)
  | date (d : Date)
  | time (t : TimeOfDay)
  | dateTime (t : DateTime)
  | list (items : List Value)
  | tuple (items : List Value)
  | set (items : List Value)
  | frozenSet (items : List Value)
  | object (members : List (String × Value))
deriving Inhabited

namespace Value

/-- The name of a value's kind, as messages give it. -/
def kind : Value → String
  | null => "NoneType"
  | bool _ => "bool"
  | int _ => "int"
  | float _ => "float"
  | decimal _ => "Decimal"
  | text _ => "str"
  | bytes _ => "bytes"
  | date _ => "date"
  | time _ => "time"
  | dateTime _ => "datetime"
  | list _ => "list"
  | tuple _ => "tuple"
  | set _ => "set"
  | frozenSet _ => "frozenset"
  | object _ => "dict"

/-- Null, false, zero and whatever is empty counts as absent. -/
def isPresent : Value → Bool
  | null => false
  | bool b => b
  | int n => n != 0
  | float x => !x.isZero
  | decimal d => !d.isZero
  | text s => !s.isEmpty
  | bytes bs => !bs.isEmpty
  | date _ | time _ | dateTime _ => true
  | list items | tuple items | set items | frozenSet items => !items.isEmpty
  | object members => !members.isEmpty

/-- Whether the value is null. -/
def isNull : Value → Bool
  | null => true
  | _ => false

mutual

/-- Whether a value can be looked up as a key: what can change cannot, nor what holds it. -/
def isKey : Value → Bool
  | list _ | set _ | object _ => false
  | tuple items => areKeys items
  | decimal d => !d.isSignalling
  | _ => true

/-- Whether each of the values can be looked up as a key. -/
def areKeys : List Value → Bool
  | [] => true
  | v :: rest => isKey v && areKeys rest

end

/-- What a value consists of, one after the other: the items of a list, the keys of an object, the
characters of a text, the numbers of bytes. Other values do not consist of anything. -/
def elements? : Value → Option (List Value)
  | list items | tuple items | set items | frozenSet items => some items
  | object members => some (members.map fun (k, _) => text k)
  | text s => some (s.toList.map fun c => text (String.singleton c))
  | bytes bs => some (bs.map fun b => int b.toNat)
  | _ => none

/-- The text of a text value. -/
def text? : Value → Option String
  | text s => some s
  | _ => none

/-- A present text, or null. -/
def ofText? : Option String → Value
  | some s => text s
  | none => null

end Value

/-- The members of an object, in order. -/
abbrev Members := List (String × Value)

namespace Members

/-- The value under a key. -/
def get? (members : Members) (key : String) : Option Value :=
  members.lookup key

/-- The value under a key, null if there is none. -/
def getD (members : Members) (key : String) : Value :=
  (members.get? key).getD .null

/-- The keys, in order. -/
def keys (members : Members) : List String :=
  members.map (·.1)

/-- Puts a value under a key: in place if the key is there, else at the end. -/
def put : Members → String → Value → Members
  | [], key, v => [(key, v)]
  | (k, old) :: rest, key, v => if k = key then (key, v) :: rest else (k, old) :: put rest key v

/-- Puts the members of `newer` one after the other. -/
def merge (members newer : Members) : Members :=
  newer.foldl (fun m (k, v) => m.put k v) members

end Members

end SqlCompiler
