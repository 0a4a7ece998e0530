import SqlCompiler.Condition.Compile
import SqlCompiler.Error

/-!
# Orders

An order lists columns and their directions. Only `DESC`, in any case, sorts downward. No order at
all is written `NULL`.
-/

namespace SqlCompiler

/-- A column to sort by. -/
structure SortKey where
  column : String
  descending : Bool
deriving DecidableEq

namespace SortKey

/-- Whether a value asks for the downward direction. -/
def isDescending (direction : Value) : Bool :=
  Text.upper direction.plain == "DESC"

/-- The sort keys of an object, in order. -/
def ofMembers (members : Members) : List SortKey :=
  members.map fun (column, direction) => ⟨column, isDescending direction⟩

/-- A sort key as it stands in a statement. -/
def sql (quote : String) (key : SortKey) : Except Sql.FragmentError String := do
  let column ← (Sql.Fragment.identifier (columnPath key.column)).render? quote
  return column ++ (if key.descending then " DESC" else " ASC")

/-- Sort keys as they stand in a statement. -/
def listSql (quote : String) (keys : List SortKey) : Except Sql.FragmentError String := do
  return joinWith ", " (← keys.mapM (sql quote))

end SortKey

/-- The profile of the dialect that a value names. -/
def Profile.ofValue (v : Value) : Except Error Profile :=
  match Dialect.ofValue? v with
  | some d => .ok d.profile
  | none => .error (.dialect v)

/-- An order given as a value. Without a dialect the common quotes are used. -/
def compileOrder (order dialect : Value) : Except Error String := do
  if !order.isPresent then return "NULL"
  let quote ← match dialect with
    | .null => pure "\""
    | v => (·.identifierQuote) <$> Profile.ofValue v
  match order with
  | .object members => (SortKey.listSql quote (SortKey.ofMembers members)).mapError .fragment
  | _ => throw (.misuse .noMembers)

end SqlCompiler
