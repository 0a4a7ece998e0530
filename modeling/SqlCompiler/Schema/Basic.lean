import SqlCompiler.Dialect.Basic
import SqlCompiler.Dialect.ColumnType

/-!
# Schemas

A schema describes one table: its columns in order, which of them must have a value, its indices,
its relations to other tables, its checks, and where the description was generated from.
-/

namespace SqlCompiler

/-- When a date column gets the current time by itself. -/
inductive DateOn
  | insert
  | update
deriving DecidableEq, Repr

namespace DateOn

/-- The name of a moment in schema documents. -/
def name : DateOn → String
  | insert => "insert"
  | update => "update"

/-- The moment of a name. -/
def ofName? (s : String) : Option DateOn :=
  [insert, update].find? fun d => d.name = s

end DateOn

/-- How many rows a relation joins. It does not show in statements. -/
inductive RelationType
  | manyToOne
  | manyToMany
deriving DecidableEq, Repr

namespace RelationType

/-- The name of a relation type in schema documents. -/
def name : RelationType → String
  | manyToOne => "many-to-one"
  | manyToMany => "many-to-many"

/-- The relation type of a name. -/
def ofName? (s : String) : Option RelationType :=
  [manyToOne, manyToMany].find? fun t => t.name = s

end RelationType

/-- A bound of a column's values. -/
inductive Bound
  | int (n : Int)
  | float (x : Double)
  | text (s : String)
deriving DecidableEq

/-- A bound as a value. -/
def Bound.value : Bound → Value
  | int n => .int n
  | float x => .float x
  | text s => .text s

/-- The expression that a generated column computes: one for all dialects, or one for each of some
dialects, given by name. -/
inductive Generation
  | everywhere (sql : String)
  | byDialect (sqls : List (String × String))
deriving DecidableEq

/-- The expression for a dialect. -/
def Generation.expression? (g : Generation) (dialect : Dialect) : Option String :=
  match g with
  | everywhere sql => some sql
  | byDialect sqls => sqls.lookup dialect.name

/-- A column of a table. A null `default` means that there is none. An `index` names the columns of
an index that the column asks for. -/
structure Column where
  type : ColumnType := .string
  maxLength : Option Nat := none
  minimum : Option Bound := none
  maximum : Option Bound := none
  exclusiveMinimum : Option Bound := none
  exclusiveMaximum : Option Bound := none
  primaryKey : Bool := false
  unique : Bool := false
  default : Value := .null
  dateOn : Option DateOn := none
  generation : Option Generation := none
  constraint : Option String := none
  index : Option (List String) := none
  description : Option String := none
  format : Option String := none
  readOnly : Bool := false

namespace Column

/-- Whole-numbered primary keys are numbered automatically. -/
def isAutoIncrement (c : Column) : Bool :=
  c.primaryKey && c.type == .integer

/-- The expression that the column computes in a dialect. -/
def generatedExpression? (c : Column) (dialect : Dialect) : Option String :=
  c.generation.bind fun g => g.expression? dialect

end Column

/-- An index over columns in order. The column at the position `array` holds an array, whose members
are indexed. -/
structure Index where
  columns : List String
  array : Option Nat := none
  unique : Bool := false
  subType : Option String := none
  name : Option String := none
deriving DecidableEq

/-- A reference from a column to the `id` of another table. -/
structure Relation where
  column : String
  target : String
  type : RelationType := .manyToOne
  onDelete : Option String := none
  onUpdate : Option String := none
deriving DecidableEq

/-- A named check of a table, possibly for one dialect only. -/
structure CheckConstraint where
  name : Option String := none
  check : String
  enforced : Option Bool := none
  provider : Option Dialect := none
  comment : Option String := none
deriving DecidableEq

/-- Whether a check is meant for a dialect. -/
def CheckConstraint.appliesTo (c : CheckConstraint) (dialect : Dialect) : Bool :=
  match c.provider with
  | none => true
  | some d => d == dialect

/-- A check of a table: an expression alone, or with further properties. -/
inductive Constraint
  | expression (sql : String)
  | check (c : CheckConstraint)
deriving DecidableEq

/-- Whether a check is meant for a dialect. -/
def Constraint.appliesTo (c : Constraint) (dialect : Dialect) : Bool :=
  match c with
  | expression _ => true
  | check c => c.appliesTo dialect

/-- A table. -/
structure Schema where
  table : Option String := none
  type : Option String := none
  description : Option String := none
  columns : List (String × Column) := []
  required : List String := []
  fulltext : List String := []
  indices : List Index := []
  relations : List (String × Relation) := []
  constraints : List Constraint := []
  id : Option String := none
  etag : Option String := none

namespace Schema

/-- The name of the table, by default the type in lower case. An empty name is none. -/
def tableName (s : Schema) : Option String :=
  match s.table with
  | some "" | none =>
    match s.type with
    | some "" | none => none
    | some t => some (Text.lower t)
  | some name => some name

/-- The names of the columns, in order. -/
def columnNames (s : Schema) : List String :=
  s.columns.map (·.1)

/-- The column of a name. -/
def column? (s : Schema) (name : String) : Option Column :=
  s.columns.lookup name

/-- Whether a column must have a value. -/
def isRequired (s : Schema) (name : String) : Bool :=
  s.required.contains name

end Schema

end SqlCompiler
