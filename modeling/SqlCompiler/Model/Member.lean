import SqlCompiler.Dialect.ColumnType
import SqlCompiler.Error
import SqlCompiler.Number.Numeral

/-!
# Members of enumerations

The members of an enumeration may be texts or whole numbers too. The value that a member is given
with is then made one; what cannot be made a whole number is refused.
-/

namespace SqlCompiler.Model

/-- What the members of an enumeration are besides members. -/
inductive MemberKind
  | plain
  | text
  | integer
deriving DecidableEq

/-- The whole number of a setting in bytes, all of them ASCII characters. -/
def wholeOfBytes? (bytes : List UInt8) : Option Int :=
  if bytes.all (· < 128) then
    Numeral.ofSetting? (String.ofList (bytes.map fun b => Char.ofNat b.toNat))
  else none

/-- The whole number that a finite number is cut to, or why there is none. -/
def wholeOfView (whole : Int) : Double.View → Except MemberFault Int
  | .finite .. => .ok whole
  | .infinite _ => .error .notFinite
  | .nan => .error .unreadable

/-- The whole number that a value is made. -/
def wholeOf : Value → Except MemberFault Int
  | .int n => .ok n
  | .bool b => .ok (if b then 1 else 0)
  | .float x => wholeOfView x.truncate x.view
  | .decimal (.finite negative coefficient exponent) =>
    .ok (Decimal.truncate (.finite negative coefficient exponent))
  | .decimal (.infinite _) => .error .notFinite
  | .decimal (.nan ..) => .error .unreadable
  | .text s => (Numeral.ofSetting? s).elim (.error .unreadable) .ok
  | .bytes bs => (wholeOfBytes? bs).elim (.error .unreadable) .ok
  | _ => .error .wrongKind

namespace MemberKind

/-- The column type of an enumeration. -/
def columnType : MemberKind → ColumnType
  | integer => .integer
  | plain | text => .string

/-- The value of a member that is given with a value. A tuple says what to make the value of: nothing
makes the least one, and more than one value makes none. -/
def value (kind : MemberKind) (given : Value) : Except MemberFault Value :=
  match kind, given with
  | plain, given => .ok given
  | text, .tuple [] => .ok (.text "")
  | text, .tuple [given] => .ok (.text given.plain)
  | text, .tuple _ => .error .wrongKind
  | text, given => .ok (.text given.plain)
  | integer, .tuple [] => .ok (.int 0)
  | integer, .tuple [given] => (wholeOf given).map .int
  | integer, given => (wholeOf given).map .int

/-- The values of members, those that can be made. -/
def values (kind : MemberKind) (members : Members) : List Value :=
  members.filterMap fun (_, given) => (kind.value given).toOption

/-- Why the members of an enumeration cannot be made, if they cannot. -/
def fault? (kind : MemberKind) (members : Members) : Option MemberFault :=
  members.findSome? fun (_, given) =>
    match kind.value given with
    | .ok _ => none
    | .error e => some e

end MemberKind

end SqlCompiler.Model
