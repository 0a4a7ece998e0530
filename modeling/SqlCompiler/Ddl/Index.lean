import SqlCompiler.Condition.Compile
import SqlCompiler.Schema.Basic
import SqlCompiler.Settings

/-!
# Index statements
-/

namespace SqlCompiler.Ddl

open Sql (Fragment)

/-- The usual name of an index: the stem of the table, the columns, and a suffix if there is one. -/
def indexName (stem : String) (columns : List String) (suffix : String) : String :=
  let name := stem ++ "_" ++ joinWith "_" columns
  if suffix.isEmpty then name else name ++ "_" ++ suffix

/-- A text that is there, or another one; an empty text is not there. -/
def textOr (s : Option String) (other : String) : String :=
  match s with
  | some "" | none => other
  | some t => t

/-- The columns of an index from a position on. The column that holds an array is indexed by a cast
of its members. -/
def indexColumns (profile : Profile) (settings : CompilerSettings) (i : Index) :
    Nat → List String → List Fragment
  | _, [] => []
  | position, column :: rest =>
    (if i.array = some position then
      .sequence [.verbatim "(CAST(", .name column, .verbatim " AS ",
        .verbatim (textOr i.subType settings.arraySubtype), .verbatim profile.arrayCastSuffix,
        .verbatim "))"]
      else .name column) :: indexColumns profile settings i (position + 1) rest

/-- The name of an index: its own, or the usual one. -/
def Index.nameFor (stem : String) (i : Index) : String :=
  textOr i.name (indexName stem i.columns "")

/-- The statement that creates an index. -/
def createIndex (profile : Profile) (settings : CompilerSettings) (stem table : String)
    (i : Index) : Fragment :=
  .sequence [.verbatim "CREATE ", .verbatim (if i.unique then "UNIQUE " else ""),
    .verbatim "INDEX ", .name (Index.nameFor stem i), .verbatim " ON ", .name table, .verbatim " (",
    .joined "," (indexColumns profile settings i 0 i.columns), .verbatim ");"]

/-- The statement that creates the full-text index, if the dialect has one and there are columns. -/
def createFulltext? (profile : Profile) (settings : CompilerSettings) (stem table : String)
    (columns : List String) : Option Fragment :=
  if columns.isEmpty then none
  else
    profile.fulltextIndex.map fun template =>
      .sequence [template.fill fun
        | .name => .name (stem ++ "_" ++ settings.fulltextIndexSuffix)
        | .table => .name table
        | .columns => fulltextExpression profile columns
        | .language => .literal (.text settings.fulltextLanguage),
        .verbatim ";"]

end SqlCompiler.Ddl
