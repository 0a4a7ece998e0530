import SqlCompiler.Text.Split

/-!
# Identifiers

A plain word stands for itself; any other name is enclosed in the quote of the dialect, with the
quotes inside doubled. One line break at the end of a plain word does not make it need quotes.
-/

namespace SqlCompiler.Sql

/-- A letter of ASCII or the low line. -/
def isNameStart (c : Char) : Bool :=
  c.isAlpha || c == '_'

/-- A letter or digit of ASCII, the low line or the dollar sign. -/
def isNameChar (c : Char) : Bool :=
  c.isAlphanum || c == '_' || c == '$'

/-- A name that needs no quotes. -/
def isPlainWord : List Char → Bool
  | [] => false
  | c :: rest =>
    isNameStart c && (rest.dropWhile isNameChar == [] || rest.dropWhile isNameChar == ['\n'])

/-- A name as it stands in a statement. -/
def quoteIdentifier (quote name : String) : String :=
  if isPlainWord name.toList then name else Text.enclose quote name

example : isPlainWord "unit_price$".toList ∧ ¬ isPlainWord "unit price".toList
    ∧ ¬ isPlainWord "".toList := by decide

end SqlCompiler.Sql
