import SqlCompiler.Schema.Read
import SqlCompiler.Schema.Write

/-!
# Base columns

Columns that many tables share: a key, the times of insertion and of the last update, and the tag of
an external resource. A schema is given those that are asked for and that it does not declare; they
come before its own columns.
-/

namespace SqlCompiler.Schema

/-- The documents of the base columns. -/
def baseColumns : List (String × Members) :=
  [("id", [("type", .text "integer"), ("primaryKey", .bool true),
      ("description", .text "Unique identifier, auto-generated. It's the primary key.")]),
    ("inserted", [("type", .text "date"), ("dateOn", .text "insert"),
      ("index", .list [.text "inserted"]),
      ("description", .text "Timestamp when current record is inserted")]),
    ("updated", [("type", .text "date"), ("dateOn", .text "update"),
      ("index", .list [.text "updated"]),
      ("description", .text "Timestamp when current record is updated")]),
    ("etag", [("type", .text "string"), ("maxLength", .int 1024),
      ("description",
        .text "Possible ETag for all resources that are external. Allows for better synch-ing.")])]

/-- Why a name that is no base column is refused. -/
def notBaseColumn (name : Value) : Error :=
  if name.isKey then .schema (.notBaseColumn name (baseColumns.map (·.1))) else .misuse .notKey

/-- The documents of the base columns that are asked for and not declared, each once, in the order
in which they are asked for. What names no base column is refused. -/
def addedColumns (declared : List String) : List Value → Except Error Members
  | [] => .ok []
  | .text name :: rest =>
    match baseColumns.lookup name with
    | none => .error (notBaseColumn (.text name))
    | some document => do
      let added ← addedColumns (name :: declared) rest
      return if declared.contains name then added else (name, .object document) :: added
  | v :: _ => .error (notBaseColumn v)

/-- What names the base columns that a value asks for: those it consists of. -/
def askedFor (v : Value) : Except Error (List Value) :=
  v.elements?.elim (.error (.misuse .notIterable)) .ok

/-- The schema with the base columns that are asked for, none if it declares them all. The schema is
read from its document with further columns before its own. -/
def enhanced? (s : Schema) (names : List Value) : Except Error (Option Schema) := do
  let columns ← columnMembers s.columns
  let added ← addedColumns s.columnNames names
  if added.isEmpty then return none
  else return some (← ofValue (.object (s.membersAround (added ++ columns))))

/-- The schema with the base columns that are asked for. -/
def enhance (s : Schema) (names : List String) : Except Error Schema := do
  return (← s.enhanced? (names.map .text)).getD s

end SqlCompiler.Schema
