import SqlCompiler.Text.Blank
import SqlCompiler.Text.Case
import SqlCompiler.Value

/-!
# Dialects

The SQL dialects that statements are written in, and the names by which they are selected.
-/

namespace SqlCompiler

/-- A family of database systems that shares one way of writing SQL. -/
inductive Dialect
  | mysql
  | postgres
  | sqlite
deriving DecidableEq, Repr

namespace Dialect

/-- Every dialect. -/
def all : List Dialect :=
  [mysql, postgres, sqlite]

/-- The name of a dialect. -/
def name : Dialect → String
  | mysql => "mysql"
  | postgres => "postgres"
  | sqlite => "sqlite"

/-- Other names of the dialects. -/
def aliases : List (String × Dialect) :=
  [("mariadb", mysql), ("postgresql", postgres), ("pg", postgres), ("sqlite3", sqlite)]

/-- The dialect of a name, in any case, blanks around it ignored. -/
def ofName? (s : String) : Option Dialect :=
  let key := Text.lower (Text.strip s)
  (all.find? fun d => d.name = key).or (aliases.lookup key)

/-- The dialect that a value names; only a text names one. -/
def ofValue? : Value → Option Dialect
  | .text s => ofName? s
  | _ => none

theorem mem_all (d : Dialect) : d ∈ all := by
  cases d <;> simp [all]

theorem ofName?_name (d : Dialect) : ofName? d.name = some d := by
  cases d <;> decide

end Dialect

end SqlCompiler
