import SqlCompiler.Dialect.Profile
import SqlCompiler.Schema.Basic

/-!
# Constraint clauses

Foreign keys and checks inside a table. Their names begin with the stem of the table.
-/

namespace SqlCompiler.Ddl

open Sql (Fragment)

/-- The action on the rows that refer to a row: upper case, words set off by spaces. -/
def referentialAction (action : String) : String :=
  Text.strip (String.ofList ((Text.upper action).toList.map fun c =>
    if c = '-' ∨ c = '_' then ' ' else c))

/-- A clause that is there if there is an action; an empty action is none. -/
def actionClause (event : String) (action : Option String) : List Fragment :=
  match action with
  | some "" | none => []
  | some a => [.verbatim (" ON " ++ event ++ " " ++ referentialAction a)]

/-- A foreign key to the `id` of another table. -/
def foreignKey (stem name : String) (r : Relation) : Fragment :=
  .sequence ([.verbatim "CONSTRAINT ", .name (stem ++ "_" ++ name), .verbatim " FOREIGN KEY (",
      .name r.column, .verbatim ") REFERENCES ", .name r.target, .verbatim " (id)"]
    ++ actionClause "DELETE" r.onDelete ++ actionClause "UPDATE" r.onUpdate)

/-- A check, named where the dialect names checks. -/
def checkClause (profile : Profile) (name : Option String) (expression : Fragment)
    (enforced : Option Bool) : Fragment :=
  let head := match name with
    | some n =>
      if profile.supportsNamedChecks then [.verbatim "CONSTRAINT ", .name n, .verbatim " "] else []
    | none => []
  let tail := if enforced = some false && profile.supportsNotEnforced then
    [.verbatim " NOT ENFORCED"] else []
  .sequence (head ++ [.verbatim "CHECK (", expression, .verbatim ")"] ++ tail)

/-- A column compared with a bound. -/
def boundTest (name operator : String) (bound : Option Bound) : List Fragment :=
  match bound with
  | some b => [.sequence [.name name, .verbatim (" " ++ operator ++ " "), .literal b.value]]
  | none => []

/-- What is demanded of the values of a column: its own constraint, else its bounds. -/
def columnExpression? (name : String) (c : Column) : Option Fragment :=
  let bounds := boundTest name ">=" c.minimum ++ boundTest name ">" c.exclusiveMinimum
    ++ boundTest name "<=" c.maximum ++ boundTest name "<" c.exclusiveMaximum
  match c.constraint with
  | some "" | none => if bounds.isEmpty then none else some (.joined " AND " bounds)
  | some sql => some (.verbatim sql)

/-- The check of a column. -/
def columnCheck? (profile : Profile) (stem name : String) (c : Column) : Option Fragment :=
  (columnExpression? name c).map fun expression =>
    checkClause profile (some (stem ++ "_" ++ name)) expression none

/-- The name of a check, in lower case; an empty name is none. -/
def checkName? (stem : String) (name : Option String) : Option String :=
  match name with
  | some "" | none => none
  | some n => some (Text.lower (stem ++ "_" ++ n))

/-- A check of the table. -/
def tableCheck (profile : Profile) (stem : String) : Constraint → Fragment
  | .expression sql => checkClause profile none (.verbatim sql) none
  | .check c => checkClause profile (checkName? stem c.name) (.verbatim c.check) c.enforced

end SqlCompiler.Ddl
