import SqlCompiler.Condition.Operator
import SqlCompiler.Value

/-!
# Conditions

A condition is a conjunction of entries. An entry tests a column, combines further conditions, or is
a piece of SQL that the caller vouches for.
-/

namespace SqlCompiler

/-- How a combination joins its conditions. -/
inductive Combinator
  | and
  | or
deriving DecidableEq, Repr

/-- The key of a combinator in conditions. -/
def Combinator.name : Combinator → String
  | and => "and"
  | or => "or"

/-- The word between two joined conditions. -/
def Combinator.sql : Combinator → String
  | and => "AND"
  | or => "OR"

/-- The combinator of a key. -/
def Combinator.ofName? (s : String) : Option Combinator :=
  [Combinator.and, .or].find? fun c => c.name = s

/-- The operators that compare a column with one value. -/
inductive Comparison
  | eq
  | neq
  | gt
  | gte
  | lt
  | lte
deriving DecidableEq, Repr

/-- The operator of a comparison. -/
def Comparison.operator : Comparison → Operator
  | eq => .eq
  | neq => .neq
  | gt => .gt
  | gte => .gte
  | lt => .lt
  | lte => .lte

/-- What is asked of one column. -/
inductive Predicate
  | compare (comparison : Comparison) (operand : Value)
  | isMember (negated : Bool) (operands : List Value)
  | between (low high : Value)
  | contains (operand : Value)
  | matchesRegex (operand : Value)
  | search (term : Value)

/-- An entry of a condition. -/
inductive Entry
  | test (column : String) (predicate : Predicate)
  | verbatim (sql : String)
  | combine (combinator : Combinator) (children : List (List Entry))

/-- A conjunction of entries; without entries it is true. -/
abbrev Condition := List Entry

end SqlCompiler
