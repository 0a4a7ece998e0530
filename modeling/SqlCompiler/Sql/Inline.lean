import SqlCompiler.Sql.Literal
import SqlCompiler.Text.Digit

/-!
# Statements with their arguments written in

For readers of the log a statement is shown with arguments in place of its marks. Every question
mark and every dollar sign with digits behind it counts as a mark, wherever it stands.
-/

namespace SqlCompiler.Sql

/-- The literal of the next argument. When there are no more, it is that of a question mark. -/
def nextLiteral : List Value → List Char
  | v :: _ => (literal v).toList
  | [] => (literal (.text "?")).toList

/-- Writes arguments in place of marks, in order. -/
def inlineMarks (arguments : List Value) : List Char → List Char
  | [] => []
  | c :: rest =>
    if c = '?' then nextLiteral arguments ++ inlineMarks arguments.tail rest
    else if c = '$' ∧ rest.head?.any Text.isDecimalDigit then
      have := (List.dropWhile_suffix Text.isDecimalDigit (l := rest)).length_le
      nextLiteral arguments ++ inlineMarks arguments.tail (rest.dropWhile Text.isDecimalDigit)
    else c :: inlineMarks arguments rest
termination_by s => s.length
decreasing_by all_goals simp only [List.length_cons]; omega

/-- A statement with its arguments written in. -/
def inline (sql : String) (arguments : List Value) : String :=
  String.ofList (inlineMarks arguments sql.toList)

end SqlCompiler.Sql
