/-!
# Operators of conditions

The comparisons that a condition can make, the keys that stand for them, and their spelling in SQL.
-/

namespace SqlCompiler

/-- What a condition can ask of a column. -/
inductive Operator
  | eq
  | neq
  | gt
  | gte
  | lt
  | lte
  | isIn
  | notIn
  | between
  | contains
  | search
  | regex
deriving DecidableEq, Repr

namespace Operator

/-- Every operator. -/
def all : List Operator :=
  [eq, neq, gt, gte, lt, lte, isIn, notIn, between, contains, search, regex]

/-- The key that stands for an operator in conditions. -/
def name : Operator → String
  | eq => "eq"
  | neq => "neq"
  | gt => "gt"
  | gte => "gte"
  | lt => "lt"
  | lte => "lte"
  | isIn => "in"
  | notIn => "nin"
  | between => "between"
  | contains => "contains"
  | search => "match"
  | regex => "regex"

/-- The usual spelling of an operator in statements. -/
def sql : Operator → String
  | eq => "="
  | neq => "!="
  | gt => ">"
  | gte => ">="
  | lt => "<"
  | lte => "<="
  | isIn => "IN"
  | notIn => "NOT IN"
  | between => "BETWEEN"
  | contains => "MEMBER OF"
  | search => "MATCH"
  | regex => "REGEXP"

/-- Whether each member of the operand becomes an argument of its own. -/
def explodes : Operator → Bool
  | isIn | notIn => true
  | _ => false

/-- The operator of a key. -/
def ofName? (s : String) : Option Operator :=
  all.find? fun op => op.name = s

theorem mem_all (op : Operator) : op ∈ all := by
  cases op <;> simp [all]

theorem ofName?_name (op : Operator) : ofName? op.name = some op := by
  cases op <;> decide

end Operator

end SqlCompiler
