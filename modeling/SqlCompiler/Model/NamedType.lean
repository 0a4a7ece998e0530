import SqlCompiler.Dialect.ColumnType
import SqlCompiler.Model.Limit

/-!
# Named types

A class file writes types by name. `NamedType` tells apart the names that mean something for a
column; some of the others are known, and what is neither has to be defined in the file.
-/

namespace SqlCompiler.Model

/-- The types that have a name. -/
inductive NamedType
  | boolean
  | integer
  | real
  | decimal
  | text
  | bytes
  | moment
  | day
  | clock
  | duration
  | mapping
  | list
  | tuple
  | set
  | frozenSet
  | integerAlias
  | nothing
  | anyModel
  | other
  | unknown
deriving DecidableEq

namespace NamedType

/-- Names that are known and mean nothing for a column. -/
def otherNames : List String :=
  ["Any", "object", "TypeVar", "complex", "type", "Type", "Enum", "IntEnum", "Annotated", "Literal",
    "Optional", "Union", "Sequence", "Mapping", "Iterable", "Callable", "UUID", "Path"]

/-- The type of a name. -/
def ofName (name : String) : NamedType :=
  match name with
  | "bool" => boolean
  | "int" => integer
  | "float" => real
  | "Decimal" => decimal
  | "str" => text
  | "bytes" => bytes
  | "datetime" => moment
  | "date" => day
  | "time" => clock
  | "timedelta" => duration
  | "dict" | "Dict" => mapping
  | "list" | "List" => list
  | "tuple" | "Tuple" => tuple
  | "set" | "Set" => set
  | "frozenset" | "FrozenSet" => frozenSet
  | "NewTypeInt" => integerAlias
  | "None" => nothing
  | "BaseModel" => anyModel
  | name => if otherNames.contains name then other else unknown

/-- The column type of a named type. What has none of its own is kept as text. -/
def columnType : NamedType → ColumnType
  | boolean => .boolean
  | integer => .integer
  | real | decimal => .number
  | moment | day => .date
  | mapping | anyModel => .object
  | list | tuple | set => .array
  | text | bytes | clock | duration | frozenSet | integerAlias | nothing | other | unknown =>
    .string

/-- What limits mean for a named type. -/
def measure : NamedType → Measure
  | integer | integerAlias => .whole
  | real => .real
  | decimal => .decimal
  | moment => .moment
  | day => .day
  | clock => .clock
  | duration => .duration
  | text | bytes | mapping | list | tuple | set | frozenSet => .length
  | boolean | nothing | anyModel | other | unknown => .unmeasured

/-- Whether the type of a name can be applied to so many types. -/
def isApplicable (name : String) (count : Nat) : Bool :=
  match name with
  | "List" | "Set" | "FrozenSet" => count = 1
  | "Dict" => count = 2
  | "dict" => 2 ≤ count
  | "list" | "set" | "frozenset" | "tuple" | "Tuple" => true
  | "Any" | "object" | "TypeVar" | "complex" => false
  | name => ofName name = other

end NamedType

end SqlCompiler.Model
