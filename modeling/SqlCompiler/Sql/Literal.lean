import SqlCompiler.Json.Text
import SqlCompiler.Text.Split

/-!
# Literals

A value written into the text of a statement. Numbers, truth values and null are bare; everything
else is a text between apostrophes, lists and objects as compact JSON.
-/

namespace SqlCompiler.Sql

/-- A text between apostrophes, those inside doubled. -/
def quoteText (s : String) : String :=
  Text.enclose "'" s

/-- The text between the apostrophes of a literal, for a value whose literal has them. -/
def literalBody? : Value → Option String
  | .null | .bool _ | .int _ | .float _ | .decimal _ => none
  | .list items => some (Json.text .compact (.list items))
  | .tuple items => some (Json.text .compact (.tuple items))
  | .object members => some (Json.text .compact (.object members))
  | v => some v.plain

/-- A value as it stands in a statement. -/
def literal (v : Value) : String :=
  match literalBody? v with
  | some body => quoteText body
  | none =>
    match v with
    | .null => "NULL"
    | .bool b => if b then "true" else "false"
    | v => v.plain

end SqlCompiler.Sql
