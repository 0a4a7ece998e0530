import SqlCompiler.Ddl.Column
import SqlCompiler.Ddl.Constraint
import SqlCompiler.Ddl.Index
import SqlCompiler.Log.Basic
import SqlCompiler.Schema.Read
import SqlCompiler.Sql.Keywords

/-!
# Tables

The statements that create a table: the table itself with its columns, foreign keys and checks, then
its indices, then its full-text index. Checks and indices are sorted by their text, so the order of
their declaration does not show.
-/

namespace SqlCompiler.Ddl

open Sql (Fragment)

/-- Texts sorted by their code points. -/
def sortTexts (texts : List String) : List String :=
  texts.mergeSort fun a b => decide (a ≤ b)

namespace Target

/-- The text of a fragment with the keywords of the dialect. -/
def finish (t : Target) (f : Fragment) : String :=
  Sql.respellWords t.profile.keywordSpellings (f.render t.profile.identifierQuote)

/-- The foreign keys of a table, in order of declaration, where the dialect has them. -/
def relations (t : Target) (stem : String) (s : Schema) : List Fragment :=
  if t.profile.supportsForeignKeys then s.relations.map fun (name, r) => foreignKey stem name r
  else []

/-- The checks of a table: those of columns, then those of the table that are meant for the dialect.
-/
def checks (t : Target) (stem : String) (s : Schema) : List Fragment :=
  s.columns.filterMap (fun (name, c) => columnCheck? t.profile stem name c)
    ++ (s.constraints.filter fun c => c.appliesTo t.profile.dialect).map (tableCheck t.profile stem)

/-- The index that a column asks for; its first column of arrays is indexed by member. -/
def columnIndex? (s : Schema) (c : Column) : Option Index :=
  match c.index with
  | none | some [] => none
  | some columns =>
    let isArray := fun name => (s.column? name).any fun c => c.type == .array
    some { columns, array := columns.findIdx? isArray }

/-- The declared indices, then those that columns ask for. -/
def indices (s : Schema) : List Index :=
  s.indices ++ s.columns.filterMap fun (_, c) => columnIndex? s c

/-- The statements of the indices. -/
def indexFragments (t : Target) (stem table : String) (s : Schema) : List Fragment :=
  (indices s).map (createIndex t.profile t.settings stem table)

/-- The statement of the full-text index. -/
def fulltextFragments (t : Target) (stem table : String) (s : Schema) : List Fragment :=
  (createFulltext? t.profile t.settings stem table s.fulltext).toList

/-- Every identifier and clause of a table. -/
def fragments (t : Target) (table : String) (s : Schema) : List Fragment :=
  let stem := Text.lower table
  s.columns.map (fun (name, _) => .name name) ++ t.relations stem s ++ t.checks stem s
    ++ t.indexFragments stem table s ++ t.fulltextFragments stem table s

/-- The texts of the foreign keys. -/
def relationTexts (t : Target) (stem : String) (s : Schema) : List String :=
  (t.relations stem s).map t.finish

/-- The texts of the checks, sorted. -/
def checkTexts (t : Target) (stem : String) (s : Schema) : List String :=
  sortTexts ((t.checks stem s).map t.finish)

/-- The texts of the index statements, each once, sorted. -/
def indexTexts (t : Target) (stem table : String) (s : Schema) : List String :=
  sortTexts ((t.indexFragments stem table s).map t.finish).eraseDups

/-- The text of the full-text index. -/
def fulltextTexts (t : Target) (stem table : String) (s : Schema) : List String :=
  (t.fulltextFragments stem table s).map t.finish

/-- The width of the longest column name and a space. -/
def namePad (t : Target) (s : Schema) : Int :=
  ((s.columnNames.map fun name => (t.nameText name).length).max?.getD 0 : Nat) + 1

/-- The lines of the columns, in order of declaration. -/
def columnLines (t : Target) (s : Schema) : List String :=
  s.columns.map fun (name, c) =>
    Sql.respellWords t.profile.keywordSpellings
      (t.columnLine name c (s.isRequired name) (t.namePad s))

/-- The lines between the parentheses of a table. -/
def bodyLines (t : Target) (stem : String) (s : Schema) : List String :=
  t.columnLines s
    ++ (t.relationTexts stem s ++ t.checkTexts stem s).map (spaces t.settings.padWidth ++ ·)

/-- The statement that creates a table. -/
def createTable (t : Target) (table : String) (s : Schema) : String :=
  "CREATE TABLE IF NOT EXISTS " ++ t.nameText table ++ " (\n"
    ++ joinWith ",\n" (t.bodyLines (Text.lower table) s) ++ "\n);"

/-- All statements of a table. -/
def tableStatements (t : Target) (table : String) (s : Schema) : List String :=
  let stem := Text.lower table
  t.createTable table s :: t.indexTexts stem table s ++ t.fulltextTexts stem table s

/-- Where records about statements come from. -/
def source : Log.Source :=
  .of "dbx.schema.ddl_compiler" .ddl

/-- The record about the statements of a table. -/
def tableMessage (statements columns : Nat) (table : String) : String :=
  "Generated " ++ intText statements ++ " DDL statements for " ++ table ++ " ("
    ++ intText columns ++ " columns)"

/-- The name of a table: the one that is asked for, or the schema's own. An empty name is none. -/
def chooseName? (override : Option String) (s : Schema) : Option String :=
  match override with
  | some "" | none => s.tableName.filter (!·.isEmpty)
  | some name => some name

/-- All statements of a schema, refused if the table has no name or no columns, or a name in it is
empty. -/
def statements? (t : Target) (s : Schema) (override : Option String) :
    Except Error (String × List String) :=
  match chooseName? override s with
  | none => .error (.schema .unnamed)
  | some table =>
    if s.columns.isEmpty then .error (.schema (.noColumns table))
    else
      match Fragment.nameErrorIn? (t.fragments table s) with
      | some e => .error (.fragment e)
      | none => .ok (table, t.tableStatements table s)

/-- All statements of a schema, with their record. -/
def statements (t : Target) (s : Schema) (override : Option String) :
    Log.Logged Error (List String) := do
  let (table, texts) ← t.statements? s override
  Log.block (Log.naming [(.table, table), (.dialect, t.profile.dialect.name),
      (.operation, "create_table")]) do
    Log.emit source .debug (tableMessage texts.length s.columns.length table)
  return texts

/-- All statements of several schemas given as values, one after the other. -/
def allStatements (t : Target) : List Value → Log.Logged Error (List String)
  | [] => return []
  | v :: rest => do
    let s ← Schema.ofValue v
    let first ← t.statements s none
    return first ++ (← allStatements t rest)

/-- All statements of several schemas, with a record of their number. -/
def generateAll (t : Target) (schemas : List Value) : Log.Logged Error (List String) := do
  let texts ← t.allStatements schemas
  Log.emit source .info ("Generated " ++ intText texts.length ++ " DDL statements for "
    ++ t.profile.dialect.name)
  return texts

end Target

end SqlCompiler.Ddl
