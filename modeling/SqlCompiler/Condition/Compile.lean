import SqlCompiler.Condition.Basic
import SqlCompiler.Dialect.Profile
import SqlCompiler.Sql.Placeholder

/-!
# Conditions as SQL

A condition becomes a fragment and a list of arguments, two separate functions of the condition: the
fragment holds a placeholder where the list holds an argument, and no operand ever reaches the text
of the statement. A search without a term asks for nothing and leaves no trace.
-/

namespace SqlCompiler

open Sql (Fragment)

/-- What conditions are compiled for: a dialect, the columns of the full-text index, and the
language of its search. -/
structure ConditionTarget where
  profile : Profile
  fulltextColumns : List String
  language : String

/-- A column as it stands in a statement; dots set off the table that it belongs to. -/
def columnPath (column : String) : List String :=
  Text.split '.' column

/-- The columns of a full-text index as one expression, the same in the index and in a search. -/
def fulltextExpression (profile : Profile) (columns : List String) : Fragment :=
  if profile.fulltextCoalesce then
    .joined "||' '||" (columns.map fun c =>
      .sequence [.verbatim "COALESCE(", .name c, .verbatim ",'')"])
  else .joined "," (columns.map .name)

/-- A text between the wildcards of a pattern. -/
def wildcards (v : Value) : Value :=
  .text ("%" ++ v.plain ++ "%")

namespace ConditionTarget

/-- The full-text search of the dialect, if there are columns to search in. -/
def searchTemplate? (target : ConditionTarget) : Option (Sql.Template SearchSlot) :=
  if target.fulltextColumns.isEmpty then none else target.profile.fulltextMatch

/-- The spelling of a comparison. Null is compared by `IS`. -/
def comparisonSql (comparison : Comparison) (operand : Value) : String :=
  match comparison, operand with
  | .eq, .null => "IS"
  | .neq, .null => "IS NOT"
  | _, _ => comparison.operator.sql

/-- A column, an operator and a placeholder. -/
def infixed (column : List String) (operator : String) : Fragment :=
  .sequence [.identifier column, .verbatim " ", .verbatim operator, .verbatim " ", .placeholder]

/-- The fragment of a predicate; none if nothing is asked. -/
def predicateFragment (target : ConditionTarget) (column : List String) :
    Predicate → Option Fragment
  | .compare comparison operand => some (infixed column (comparisonSql comparison operand))
  | .isMember negated [] => some (.verbatim (if negated then "TRUE" else "FALSE"))
  | .isMember negated operands =>
    let operator := if negated then Operator.notIn else Operator.isIn
    some (.sequence [.identifier column, .verbatim " ", .verbatim operator.sql, .verbatim " (",
      .joined "," (operands.map fun _ => .placeholder), .verbatim ")"])
  | .between _ _ =>
    some (.sequence [.identifier column, .verbatim " BETWEEN ", .placeholder, .verbatim " AND ",
      .placeholder])
  | .contains _ =>
    some (target.profile.containsTemplate.fill fun
      | .column => .identifier column
      | .value => .placeholder)
  | .matchesRegex _ => some (infixed column target.profile.regexOperator)
  | .search term =>
    if term.isPresent then
      match target.searchTemplate? with
      | some template => some (template.fill fun
        | .columns => fulltextExpression target.profile target.fulltextColumns
        | .term => .placeholder
        | .language => .literal (.text target.language))
      | none => some (infixed column "LIKE")
    else none

/-- The arguments of a predicate, in the order of its placeholders. -/
def predicateArguments (target : ConditionTarget) : Predicate → List Value
  | .compare _ operand => [operand]
  | .isMember _ operands => operands
  | .between low high => [low, high]
  | .contains operand =>
    [if target.profile.containsWrapsLike then wildcards operand else operand]
  | .matchesRegex operand => [operand]
  | .search term =>
    if term.isPresent then
      match target.searchTemplate? with
      | some _ => [.text (term.plain ++ target.profile.fulltextTermSuffix)]
      | none => [wildcards term]
    else []

/-- The conjunction of fragments; without any it is true. -/
def conjunction : List Fragment → Fragment
  | [] => .verbatim "TRUE"
  | parts => .joined " AND " parts

/-- A fragment in parentheses. -/
def parenthesized (f : Fragment) : Fragment :=
  .sequence [.verbatim "(", f, .verbatim ")"]

mutual

/-- The fragment of an entry; none if nothing is asked. -/
def entryFragment (target : ConditionTarget) : Entry → Option Fragment
  | .test column predicate => target.predicateFragment (columnPath column) predicate
  | .verbatim sql => some (parenthesized (.verbatim sql))
  | .combine _ [] => some (.verbatim "TRUE")
  | .combine combinator children =>
    some (parenthesized (.joined (" " ++ combinator.sql ++ " ") (childFragments target children)))

/-- The fragments of the entries that ask for something. -/
def entryFragments (target : ConditionTarget) : List Entry → List Fragment
  | [] => []
  | entry :: rest =>
    match entryFragment target entry with
    | some f => f :: entryFragments target rest
    | none => entryFragments target rest

/-- The fragments of combined conditions. -/
def childFragments (target : ConditionTarget) : List (List Entry) → List Fragment
  | [] => []
  | child :: rest => conjunction (entryFragments target child) :: childFragments target rest

end

/-- The fragment of a condition. -/
def fragment (target : ConditionTarget) (condition : Condition) : Fragment :=
  conjunction (target.entryFragments condition)

mutual

/-- The arguments of an entry, in the order of its placeholders. -/
def entryArguments (target : ConditionTarget) : Entry → List Value
  | .test _ predicate => target.predicateArguments predicate
  | .verbatim _ => []
  | .combine _ children => childArguments target children

/-- The arguments of a condition, in the order of its placeholders. -/
def arguments (target : ConditionTarget) : List Entry → List Value
  | [] => []
  | entry :: rest => entryArguments target entry ++ arguments target rest

/-- The arguments of combined conditions. -/
def childArguments (target : ConditionTarget) : List (List Entry) → List Value
  | [] => []
  | child :: rest => arguments target child ++ childArguments target rest

end

/-- The statement text and the arguments of a condition. -/
def prepare (target : ConditionTarget) (condition : Condition) : Sql.Prepared :=
  ⟨(target.fragment condition).render target.profile.identifierQuote, target.arguments condition⟩

end ConditionTarget

end SqlCompiler
