import SqlCompiler.Error
import SqlCompiler.Schema.Basic
import SqlCompiler.Text.Utf8

/-!
# Writing schemas

The document of a schema lists its fields in a fixed order and leaves out what is absent or as it
would be anyway. A default that holds bytes which encode no text has no document.
-/

namespace SqlCompiler

namespace Value

mutual

/-- A value in the form that JSON has for it: dates and decimals as text, tuples and sets as lists,
null for numbers that are not finite. Bytes become the text that they encode. -/
def documentForm : Value → Except Error Value
  | float x => .ok (if x.isFinite then float x else null)
  | decimal d => .ok (text d.text)
  | bytes bs =>
    match Text.ofUtf8? bs with
    | some s => .ok (text s)
    | none => .error (.misuse .undecodableText)
  | date d => .ok (text d.text)
  | time t => .ok (text t.zuluText)
  | dateTime t => .ok (text t.zuluText)
  | list items | tuple items | set items | frozenSet items => do
    return list (← documentForms items)
  | object members => do return object (← memberForms members)
  | v => .ok v

/-- Each of the values in document form. -/
def documentForms : List Value → Except Error (List Value)
  | [] => .ok []
  | v :: rest => do return (← documentForm v) :: (← documentForms rest)

/-- Each member in document form. -/
def memberForms : List (String × Value) → Except Error (List (String × Value))
  | [] => .ok []
  | (k, v) :: rest => do return (k, ← documentForm v) :: (← memberForms rest)

end

end Value

/-- A member that is there if its value is. -/
def memberOf (key : String) (v : Option Value) : Members :=
  (v.map fun v => (key, v)).toList

/-- A flag that is there if it is set. -/
def flagMember (key : String) (b : Bool) : Members :=
  if b then [(key, .bool true)] else []

/-- A list that is there if it has members. -/
def listMember (key : String) (items : List Value) : Members :=
  if items.isEmpty then [] else [(key, .list items)]

/-- An object that is there if it has members. -/
def objectMember (key : String) (members : Members) : Members :=
  if members.isEmpty then [] else [(key, .object members)]

/-- Names as a list of texts. -/
def nameList (names : List String) : Value :=
  .list (names.map .text)

/-- The value of a generation: a text, or an object of texts. -/
def Generation.value : Generation → Value
  | everywhere sql => .text sql
  | byDialect sqls => .object (sqls.map fun (k, v) => (k, .text v))

/-- The member of a default, if there is one. -/
def defaultMember (default : Value) : Except Error Members :=
  if default.isNull then .ok []
  else default.documentForm.map fun v => [("default", v)]

/-- The document of a column. -/
def Column.members (c : Column) : Except Error Members := do
  return (if c.type = .string then [] else [("type", .text c.type.name)])
    ++ memberOf "maxLength" (c.maxLength.map fun n => .int n)
    ++ memberOf "minimum" (c.minimum.map Bound.value)
    ++ memberOf "maximum" (c.maximum.map Bound.value)
    ++ memberOf "exclusiveMinimum" (c.exclusiveMinimum.map Bound.value)
    ++ memberOf "exclusiveMaximum" (c.exclusiveMaximum.map Bound.value)
    ++ flagMember "primaryKey" c.primaryKey
    ++ flagMember "unique" c.unique
    ++ (← defaultMember c.default)
    ++ memberOf "dateOn" (c.dateOn.map fun d => .text d.name)
    ++ memberOf "as" (c.generation.map Generation.value)
    ++ memberOf "constraint" (c.constraint.map .text)
    ++ memberOf "index" (c.index.map nameList)
    ++ memberOf "description" (c.description.map .text)
    ++ memberOf "format" (c.format.map .text)
    ++ flagMember "readOnly" c.readOnly

/-- The document of an index. -/
def Index.members (i : Index) : Members :=
  [("properties", nameList i.columns)]
    ++ memberOf "array" (i.array.map fun n => .int n)
    ++ flagMember "unique" i.unique
    ++ memberOf "subType" (i.subType.map .text)
    ++ memberOf "name" (i.name.map .text)

/-- The document of a relation. -/
def Relation.members (r : Relation) : Members :=
  [("join", .text r.column), ("target", .text r.target)]
    ++ (if r.type = .manyToOne then [] else [("type", .text r.type.name)])
    ++ memberOf "delete" (r.onDelete.map .text)
    ++ memberOf "update" (r.onUpdate.map .text)

/-- The document of a check. -/
def CheckConstraint.members (c : CheckConstraint) : Members :=
  memberOf "name" (c.name.map .text)
    ++ [("check", .text c.check)]
    ++ memberOf "enforced" (c.enforced.map .bool)
    ++ memberOf "provider" (c.provider.map fun d => .text d.name)
    ++ memberOf "comment" (c.comment.map .text)

/-- The value of a check: its expression alone, or its document. -/
def Constraint.value : Constraint → Value
  | expression sql => .text sql
  | check c => .object c.members

/-- The documents of columns, by name. -/
def columnMembers : List (String × Column) → Except Error Members
  | [] => .ok []
  | (name, c) :: rest => do return (name, .object (← c.members)) :: (← columnMembers rest)

/-- The document of a schema around the documents of its columns. -/
def Schema.membersAround (s : Schema) (columns : Members) : Members :=
  memberOf "table" (s.table.map .text)
    ++ memberOf "type" (s.type.map .text)
    ++ memberOf "description" (s.description.map .text)
    ++ objectMember "properties" columns
    ++ listMember "required" (s.required.map .text)
    ++ listMember "fullText" (s.fulltext.map .text)
    ++ listMember "indices" (s.indices.map fun i => .object i.members)
    ++ objectMember "relations" (s.relations.map fun (name, r) => (name, .object r.members))
    ++ listMember "constraints" (s.constraints.map Constraint.value)
    ++ memberOf "$id" (s.id.map .text)
    ++ memberOf "etag" (s.etag.map .text)

/-- The document of a schema. -/
def Schema.members (s : Schema) : Except Error Members := do
  return s.membersAround (← columnMembers s.columns)

/-- The document of a schema as a value. -/
def Schema.document (s : Schema) : Except Error Value :=
  s.members.map .object

end SqlCompiler
