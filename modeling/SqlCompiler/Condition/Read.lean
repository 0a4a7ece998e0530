import SqlCompiler.Condition.Compile
import SqlCompiler.Error
import SqlCompiler.Log.Basic

/-!
# Reading conditions

A condition is given as a value: an object whose keys are columns, combinators, or the key of
verbatim SQL. Reading goes through it in order and stops at the first thing that cannot be compiled,
so a condition that is read compiles for the dialect it was read for.
-/

namespace SqlCompiler

namespace ConditionTarget

open Log (Logged)

/-- Where records about conditions come from. -/
def source : Log.Source :=
  .of "dbx.query.conditions" .condition

/-- Refuses a column with an empty name in its path. -/
def checkColumn (column : String) : Except Error Unit :=
  if (columnPath column).contains "" then .error (.fragment (.badName (.text ""))) else .ok ()

/-- Refuses what a search would mention and cannot: the columns of the full-text index, or the
column itself where there is no such search. -/
def checkSearch (target : ConditionTarget) (column : String) : Except Error Unit :=
  match target.searchTemplate? with
  | some _ =>
    if target.fulltextColumns.contains "" then .error (.fragment (.badName (.text ""))) else .ok ()
  | none => checkColumn column

/-- The members of a list, tuple or set. -/
def collection? : Value → Option (List Value)
  | .list items | .tuple items | .set items | .frozenSet items => some items
  | _ => none

/-- The two members of a pair. -/
def pair? : Value → Option (Value × Value)
  | .list [low, high] | .tuple [low, high] => some (low, high)
  | _ => none

/-- A comparison with a value. -/
def readComparison (column : String) (comparison : Comparison) (operand : Value) :
    Except Error Predicate := do
  checkColumn column
  return .compare comparison operand

/-- What an operator asks of a column. -/
def readOperand (target : ConditionTarget) (column : String) (operator : Operator)
    (operand : Value) : Except Error Predicate :=
  match operator with
  | .eq => readComparison column .eq operand
  | .neq => readComparison column .neq operand
  | .gt => readComparison column .gt operand
  | .gte => readComparison column .gte operand
  | .lt => readComparison column .lt operand
  | .lte => readComparison column .lte operand
  | .isIn | .notIn =>
    match collection? operand with
    | none => .error (.condition (.membersNotList column operator.name))
    | some [] => .ok (.isMember (operator == .notIn) [])
    | some operands => do
      checkColumn column
      return .isMember (operator == .notIn) operands
  | .between =>
    match pair? operand with
    | none => .error (.condition (.rangeNotPair column))
    | some (low, high) => do
      checkColumn column
      return .between low high
  | .contains => do
    checkColumn column
    return .contains operand
  | .regex => do
    checkColumn column
    return .matchesRegex operand
  | .search => do
    if operand.isPresent then target.checkSearch column
    return .search operand

/-- The record about operators that do not count. -/
def ignoredMessage (column : String) (ignored : List String) (used : String) : String :=
  "Predicate on '" ++ column ++ "' ignores operators " ++ Value.displayNames ignored
    ++ ", using '" ++ used ++ "'"

/-- The test of a column. Of several operators the last one counts. -/
def readTest (target : ConditionTarget) (column : String) (v : Value) : Logged Error Entry :=
  match v with
  | .object members =>
    match members.getLast? with
    | none => throw (.condition (.emptyPredicate column))
    | some (key, operand) =>
      match Operator.ofName? key with
      | none => throw (.condition (.unknownOperator column key))
      | some operator => do
        if members.length > 1 then
          Log.emit source .debug
            (ignoredMessage column ((Members.keys members).dropLast) key)
        return .test column (← target.readOperand column operator operand)
  | v => do return .test column (← readComparison column .eq v)

mutual

/-- Reads a condition. Null asks for nothing. -/
def read (target : ConditionTarget) : Value → Logged Error Condition
  | .null => return []
  | .object members => readEntries target members
  | v => throw (.condition (.notMapping v.kind))

/-- Reads the entries of a condition, in order. -/
def readEntries (target : ConditionTarget) : List (String × Value) → Logged Error Condition
  | [] => return []
  | (key, v) :: rest => do
    let entry ← match Combinator.ofName? key with
      | some combinator => readCombination target combinator v
      | none =>
        if key = "$sql" then
          match v with
          | .text s => pure (Entry.verbatim s)
          | _ => throw (.condition .verbatimNotText)
        else readTest target key v
    return entry :: (← readEntries target rest)

/-- Reads combined conditions. -/
def readCombination (target : ConditionTarget) (combinator : Combinator) :
    Value → Logged Error Entry
  | .list items | .tuple items => return .combine combinator (← readChildren target items)
  | _ => throw (.condition (.notList combinator.name))

/-- Reads each of the values as a condition, in order. -/
def readChildren (target : ConditionTarget) : List Value → Logged Error (List Condition)
  | [] => return []
  | v :: rest => do
    let child ← read target v
    return child :: (← readChildren target rest)

end

/-- Reads a condition and compiles it. -/
def compile (target : ConditionTarget) (v : Value) : Logged Error Sql.Prepared := do
  return target.prepare (← target.read v)

end ConditionTarget

end SqlCompiler
