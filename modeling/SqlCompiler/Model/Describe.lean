import SqlCompiler.Model.Class
import SqlCompiler.Text.Blank

/-!
# Describing model classes

A model class is described as the document of a schema: each field becomes a column, fields that do
not accept null are required, and the table metadata of the class is taken over.
-/

namespace SqlCompiler.Model

/-- The default of a column: the default of the field, or what its factory makes if that is a list
or object with members. -/
def columnDefault? (options : Options) : Option Value :=
  match options.default with
  | some v => if v.isNull then made else some v
  | none => made
where
  /-- What the factory makes. -/
  made : Option Value :=
    match options.factory with
    | some (.constant (.list (v :: vs))) => some (.list (v :: vs))
    | some (.constant (.object (m :: ms))) => some (.object (m :: ms))
    | _ => none

namespace Field

/-- The members of a column that limits become. -/
def limitMembers (limits : List (Limit × Value)) : Members :=
  limits.filterMap fun (limit, v) => limit.columnKey?.map (·, v)

/-- The column of a field. Extra members of the field are put over all others. -/
def column (f : Field) : Members :=
  let (type, options) := f.resolved
  let typed : Members := [("type", .text type.columnType.name)]
  let limited := typed.merge (limitMembers options.limits)
  let defaulted := match columnDefault? options with
    | some v => limited.put "default" v
    | none => limited
  let described := match options.description.join with
    | some s => if s.isEmpty then defaulted else defaulted.put "description" (.text s)
    | none => defaulted
  described.merge options.extra

/-- The name of the column: the alias of the field if it has one, else its name. -/
def columnName (f : Field) : String :=
  match f.resolved.2.aliasName.join with
  | some s => if s.isEmpty then f.name else s
  | none => f.name

/-- Whether the column needs a value. -/
def isRequired (f : Field) : Bool :=
  !f.resolved.1.acceptsNull

end Field

/-- The first line of a documentation text, none if the text is blank. -/
def summary? (doc : String) : Option String :=
  let s := Text.strip doc
  if s.isEmpty then none else some (String.ofList (s.toList.takeWhile (· != '\n')))

/-- The members of a schema that metadata becomes, and the names of the metadata. -/
def metadataKeys : List (String × String) :=
  [("table", "sql_table"), ("fullText", "sql_full_text"), ("indices", "sql_indices"),
    ("relations", "sql_relations"), ("constraints", "sql_constraints")]

namespace Lineage

/-- The metadata that has a value. -/
def metadataMembers (l : Lineage) : Members :=
  metadataKeys.filterMap fun (key, name) =>
    let v := l.metadata name
    if v.isPresent then some (key, v) else none

/-- The columns, by name. -/
def columns (l : Lineage) : Members :=
  l.fields.foldl (fun columns f => columns.put f.columnName (.object f.column)) []

/-- The names of the required columns. -/
def required (l : Lineage) : List String :=
  (l.fields.filter Field.isRequired).map Field.columnName

/-- The schema document of a class. -/
def describe (l : Lineage) : Members :=
  [("type", .text l.self.name), ("properties", .object l.columns),
    ("required", .list (l.required.map .text))]
    ++ ((l.self.doc.bind summary?).map fun s => ("description", Value.text s)).toList
    ++ l.metadataMembers

end Lineage

end SqlCompiler.Model
