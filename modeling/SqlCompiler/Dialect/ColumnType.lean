/-!
# Column types

The kinds of values that columns hold, before a dialect chooses its own type for them.
-/

namespace SqlCompiler

/-- What a column holds, independent of the dialect. -/
inductive ColumnType
  | boolean
  | integer
  | number
  | string
  | date
  | object
  | array
deriving DecidableEq, Repr, Inhabited

namespace ColumnType

/-- Every column type. -/
def all : List ColumnType :=
  [boolean, integer, number, string, date, object, array]

/-- The name of a column type in schema documents. -/
def name : ColumnType → String
  | boolean => "boolean"
  | integer => "integer"
  | number => "number"
  | string => "string"
  | date => "date"
  | object => "object"
  | array => "array"

/-- The column type of a name. -/
def ofName? (s : String) : Option ColumnType :=
  all.find? fun t => t.name = s

/-- Whether values are stored as JSON documents. -/
def isJson : ColumnType → Bool
  | object | array => true
  | _ => false

theorem mem_all (t : ColumnType) : t ∈ all := by
  cases t <;> simp [all]

theorem ofName?_name (t : ColumnType) : ofName? t.name = some t := by
  cases t <;> decide

end ColumnType

end SqlCompiler
