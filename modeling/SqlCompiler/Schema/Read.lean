import SqlCompiler.Schema.Basic
import SqlCompiler.Schema.Checked
import SqlCompiler.Error

/-!
# Reading schemas

A schema is read from a value, usually a JSON document that a generator wrote. Loose forms are
brought into shape first: a missing type, flags given as text, names in one text with commas
between, longer descriptions. Then every field is checked, and when all are valid, that each column
that is mentioned is declared.
-/

namespace SqlCompiler

open Checked (field requiredField)

/-- The names in a text with commas between, without blanks around them and without empty ones. -/
def splitNames (s : String) : List String :=
  ((Text.split ',' s).map Text.strip).filter (!·.isEmpty)

/-- A list of names, or a text of names with commas between. -/
def namesOfValue (v : Value) : Value :=
  match v with
  | .text s => .list ((splitNames s).map .text)
  | v => v

/-- A text up to its first line break. -/
def firstLine (s : String) : String :=
  String.ofList (s.toList.takeWhile (· != '\n'))

/-- What a check gives, its faults as an error of the document. -/
def Checked.toExcept {α : Type} : Checked α → Except Error α
  | valid a => .ok a
  | invalid issues => .error (.document issues)

namespace Bound

/-- A number or a text. What is one already stays what it is, and a decimal number becomes a binary
one. Bytes are the first of them that they can be read as. -/
def check : Value → Checked Bound
  | .float x => .valid (float x)
  | .text s => .valid (text s)
  | .decimal d => if d.isSignalling then anyOf (.decimal d) else .valid (float d.toDouble)
  | v => anyOf v
where
  /-- The first of a whole number, a binary number and a text that a value can be read as. -/
  anyOf (v : Value) : Checked Bound :=
    ((int <$> (Checked.int v).below (.key "int")).either
        (float <$> (Checked.real v).below (.key "float"))).either
      (text <$> (Checked.text v).below (.key "str"))

end Bound

namespace Generation

/-- A text, or an object of texts. -/
def check (v : Value) : Checked Generation :=
  (everywhere <$> (Checked.text v).below (.key "str")).either
    (byDialect <$> (Checked.object Checked.text v).below (.key "dict[str,str]"))

end Generation

namespace Column

/-- The name of a column type, in any case; JSON means an object. -/
def checkType : Value → Checked ColumnType
  | .text s =>
    let name := Text.lower s
    if name = "json" then .valid .object else Checked.named ColumnType.ofName? name
  | v => Checked.name ColumnType.ofName? v

/-- A flag given as any text is set. -/
def setFlag (data : Members) (key : String) : Members :=
  match data.get? key with
  | some (.text _) => data.put key (.bool true)
  | _ => data

/-- Brings the document of a column into shape. -/
def normalize (data : Members) : Members :=
  let data := if (data.getD "type").isPresent then data else data.put "type" (.text "string")
  let data := match data.get? "format" with
    | some (.text "date-time") => data.put "type" (.text "date")
    | _ => data
  ["primaryKey", "primary_key", "unique"].foldl setFlag data

/-- Checks every field of a column. -/
def checkFields (data : Members) : Checked Column :=
  let bound := Checked.optional Bound.check
  Column.mk
    <$> field data "type" "type" .string checkType
    <*> field data "maxLength" "max_length" none (Checked.optional Checked.nat)
    <*> field data "minimum" "minimum" none bound
    <*> field data "maximum" "maximum" none bound
    <*> field data "exclusiveMinimum" "exclusive_minimum" none bound
    <*> field data "exclusiveMaximum" "exclusive_maximum" none bound
    <*> field data "primaryKey" "primary_key" false Checked.bool
    <*> field data "unique" "unique" false Checked.bool
    <*> field data "default" "default" .null Checked.valid
    <*> field data "dateOn" "date_on" none (Checked.optional (Checked.name DateOn.ofName?))
    <*> field data "as" "as_" none (Checked.optional Generation.check)
    <*> field data "constraint" "constraint" none (Checked.optional Checked.text)
    <*> field data "index" "index" none
      (fun v => Checked.optional (Checked.list Checked.text) (namesOfValue v))
    <*> field data "description" "description" none
      (fun v => (·.map firstLine) <$> Checked.optional Checked.text v)
    <*> field data "format" "format" none (Checked.optional Checked.text)
    <*> field data "readOnly" "read_only" false Checked.bool

/-- Reads a column. -/
def check : Value → Checked Column
  | .object data => checkFields (normalize data)
  | _ => .fail .notModel

end Column

namespace Index

/-- The reason why an array position is refused. -/
def arrayOutside (position : Nat) (columns : List String) : String :=
  "Index array position " ++ intText position ++ " is outside " ++ Value.displayNames columns

/-- The columns of an index: a list of names that is not empty. -/
def checkColumns (v : Value) : Checked (List String) :=
  (Checked.list Checked.text (namesOfValue v)).andThen fun columns =>
    if columns.isEmpty then .fail .tooShort else .valid columns

/-- Refuses an array position outside the columns. -/
def checkArray (i : Index) : Checked Index :=
  match i.array with
  | some position =>
    if position < i.columns.length then .valid i
    else .fail (.broken (arrayOutside position i.columns))
  | none => .valid i

/-- Checks every field of an index, then the array position. -/
def checkFields (data : Members) : Checked Index :=
  Checked.andThen
    (Index.mk
      <$> requiredField data "properties" checkColumns
      <*> field data "array" "array" none (Checked.optional Checked.nat)
      <*> field data "unique" "unique" false Checked.bool
      <*> field data "subType" "sub_type" none (Checked.optional Checked.text)
      <*> field data "name" "name" none (Checked.optional Checked.text))
    checkArray

/-- Reads an index. -/
def check : Value → Checked Index
  | .object data => checkFields data
  | _ => .fail .notModel

end Index

namespace Relation

/-- Reads a relation. -/
def check : Value → Checked Relation
  | .object data =>
    Relation.mk
      <$> requiredField data "join" Checked.text
      <*> requiredField data "target" Checked.text
      <*> field data "type" "type" .manyToOne (Checked.name RelationType.ofName?)
      <*> field data "delete" "delete" none (Checked.optional Checked.text)
      <*> field data "update" "update" none (Checked.optional Checked.text)
  | _ => .fail .notModel

end Relation

namespace CheckConstraint

/-- A dialect by any of its names; bytes must be its own name. -/
def checkProvider : Value → Checked Dialect
  | .text s => Checked.named Dialect.ofName? s
  | v => Checked.name (fun s => Dialect.all.find? fun d => d.name = s) v

/-- Reads a check with its properties. -/
def check? : Value → Checked CheckConstraint
  | .object data =>
    CheckConstraint.mk
      <$> field data "name" "name" none (Checked.optional Checked.text)
      <*> requiredField data "check" Checked.text
      <*> field data "enforced" "enforced" none (Checked.optional Checked.bool)
      <*> field data "provider" "provider" none (Checked.optional checkProvider)
      <*> field data "comment" "comment" none (Checked.optional Checked.text)
  | _ => .fail .notModel

end CheckConstraint

/-- A text, or a check with its properties. -/
def Constraint.read (v : Value) : Checked Constraint :=
  (expression <$> (Checked.text v).below (.key "str")).either
    (check <$> (CheckConstraint.check? v).below (.key "CheckConstraint"))

namespace Schema

/-- The table is by default named like the type, in lower case. -/
def nameTable (data : Members) : Members :=
  let type := data.getD "type"
  if !(data.getD "table").isPresent && type.isPresent then
    data.put "table" (.text (Text.lower type.plain))
  else data

/-- Names given in one text become a list. -/
def splitMember (data : Members) (key : String) : Members :=
  match data.get? key with
  | some (.text s) => data.put key (namesOfValue (.text s))
  | _ => data

/-- The index of a column, given in one text, becomes a list; an empty text means the column. -/
def splitIndex (name : String) (column : Value) : Value :=
  match column with
  | .object data =>
    match Members.get? data "index" with
    | some (.text s) =>
      .object (Members.put data "index" (namesOfValue (.text (if s.isEmpty then name else s))))
    | _ => column
  | v => v

/-- Brings the document of a schema into shape. -/
def normalize (data : Members) : Members :=
  let data := ["fullText", "full_text"].foldl splitMember (nameTable data)
  match data.get? "properties" with
  | some (.object columns) =>
    data.put "properties"
      (.object (columns.map fun (name, column) => (name, splitIndex name column)))
  | _ => data

/-- The first of some names that is not declared. -/
def undeclared? (declared names : List String) : Option String :=
  names.find? fun n => !declared.contains n

/-- Every mention of columns, with the part of the schema that mentions them. -/
def references (s : Schema) : List (String × List String) :=
  [("required", s.required), ("fullText", s.fulltext)]
    ++ s.indices.map (fun i => ("index", i.columns))
    ++ s.columns.filterMap (fun (name, c) =>
      c.index.map fun names => ("index of column '" ++ name ++ "'", names))
    ++ s.relations.map (fun (name, r) => ("relation '" ++ name ++ "'", [r.column]))

/-- The reason why a mention is refused. -/
def undeclaredReference (place name : String) : String :=
  place ++ " references undeclared column '" ++ name ++ "'"

/-- Refuses a schema that mentions a column that it does not declare. -/
def checkReferences (s : Schema) : Checked Schema :=
  match s.references.findSome? fun (place, names) =>
      (undeclared? s.columnNames names).map fun name => (place, name) with
  | some (place, name) => .fail (.broken (undeclaredReference place name))
  | none => .valid s

/-- Checks every field of a schema, then the mentions of columns. -/
def checkFields (data : Members) : Checked Schema :=
  let text := Checked.optional Checked.text
  Checked.andThen
    (Schema.mk
      <$> field data "table" "table" none text
      <*> field data "type" "type" none text
      <*> field data "description" "description" none text
      <*> field data "properties" "properties" [] (Checked.object Column.check)
      <*> field data "required" "required" [] (Checked.list Checked.text)
      <*> field data "fullText" "full_text" [] (Checked.list Checked.text)
      <*> field data "indices" "indices" [] (Checked.list Index.check)
      <*> field data "relations" "relations" [] (Checked.object Relation.check)
      <*> field data "constraints" "constraints" [] (Checked.list Constraint.read)
      <*> field data "$id" "id" none text
      <*> field data "etag" "etag" none text)
    checkReferences

/-- Reads a schema. -/
def check : Value → Checked Schema
  | .object data => checkFields (normalize data)
  | _ => .fail .notModel

/-- Reads a schema; what is wrong with it is reported under its table or type. -/
def ofValue (v : Value) : Except Error Schema :=
  match v with
  | .object data =>
    match checkFields (normalize data) with
    | .valid s => .ok s
    | .invalid issues =>
      let table := Members.getD data "table"
      let type := Members.getD data "type"
      .error (.schema (.invalid (if table.isPresent then table else type) issues))
  | v => .error (.schema (.notMapping v.kind))

end Schema

end SqlCompiler
