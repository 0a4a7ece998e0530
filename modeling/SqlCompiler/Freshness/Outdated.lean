import SqlCompiler.Calendar.Reading
import SqlCompiler.Freshness.Source
import SqlCompiler.Log.Basic
import SqlCompiler.Schema.Read
import SqlCompiler.Settings

/-!
# Outdated schemas

A generated schema is outdated when its file was modified in a later second than its stamp, or when
the content of the file has another tag. The second check reads the file and is made only when the
first one finds nothing.
-/

namespace SqlCompiler

/-- A schema that is read already, or the value to read it from. -/
inductive SchemaSource
  | read (s : Schema)
  | raw (v : Value)

/-- The schema of a source. -/
def SchemaSource.toSchema : SchemaSource → Except Error Schema
  | read s => .ok s
  | raw v => Schema.ofValue v

namespace Freshness

open Log (Logged)

/-- Where records about freshness come from. -/
def source : Log.Source :=
  .of "dbx.schema.freshness" .freshness

/-- An error of a file as a failure. -/
def ofFile {α : Type} (x : Except FileError α) : Except Error α :=
  x.mapError .file

/-- The record about a file that was modified too late. -/
def modifiedMessage (path : Path) (modified stamp : String) : String :=
  path.text ++ " modified at " ++ modified ++ ", schema stamped "
    ++ (if stamp.isEmpty then "never" else stamp)

/-- The record about a file with other content. -/
def changedMessage (path : Path) (old : Option String) (new : String) : String :=
  path.text ++ " content changed (" ++ old.getD "None" ++ " -> " ++ new ++ ")"

/-- The verdict on a schema, and the record that goes with it. -/
inductive Verdict
  | fresh
  | modifiedLater (modified : String)
  | contentChanged (tag : String)
deriving DecidableEq

/-- The stamp of the time as which that of a file is read, which the calendar must have. -/
def modifiedStamp (tree : FileTree) (path : Path) : Except Error String := do
  let modified := (← ofFile (tree.modified path)).asRead
  if modified.isInCalendar then return modified.stamp else throw (.misuse .badNumber)

/-- Compares the stamp of a schema with the time of its file, then the tags. -/
def judge (tree : FileTree) (path : Path) (stamp : String) (tag : Option String) :
    Except Error Verdict := do
  let modified ← modifiedStamp tree path
  if stamp < modified then return .modifiedLater modified
  let current ← ofFile (fileEtag tree path)
  if tag = some current then return .fresh else return .contentChanged current

/-- The context of a check. -/
def checkContext (s : Schema) (id : String) : Log.Change :=
  ⟨[(.table, Value.ofText? s.tableName), (.schemaId, .text id),
    (.operation, .text "is_outdated")], []⟩

/-- The id of a schema, and the file it refers to. -/
def sourceOf (s : Schema) (base : Option BaseDirectory) : Except Error (String × Path) :=
  match s.id with
  | some "" | none => .error (.schema (.noIdentity s.tableName))
  | some id =>
    match sourcePath id base with
    | .ok path => .ok (id, path)
    | .error e => .error (.schema e)

/-- Whether a schema must be generated anew. -/
def isOutdated (tree : FileTree) (base : Option BaseDirectory) (schema : SchemaSource) :
    Logged Error Bool := do
  let s ← schema.toSchema
  let (id, path) ← sourceOf s base
  let stamp := stampOf id
  Log.block (checkContext s id) do
    match ← judge tree path stamp s.etag with
    | .fresh => return false
    | .modifiedLater modified =>
      Log.emit source .debug (modifiedMessage path modified stamp)
      return true
    | .contentChanged tag =>
      Log.emit source .debug (changedMessage path s.etag tag)
      return true

/-- The names of the outdated schemas among those given, in order. -/
def outdatedNames (tree : FileTree) (base : Option BaseDirectory) :
    List (String × SchemaSource) → Logged Error (List String)
  | [] => return []
  | (name, schema) :: rest => do
    let outdated ← isOutdated tree base schema
    let names ← outdatedNames tree base rest
    return if outdated then name :: names else names

/-- How many checks may run at a time: as asked for, else as set. Less than one is refused. -/
def chooseWorkers (asked : Option Int) (settings : FreshnessSettings) : Except Error (Option Int) :=
  let workers := match asked with
    | some 0 | none => settings.maxWorkers
    | some n => some n
  match workers with
  | some n => if n ≤ 0 then .error (.misuse .badNumber) else .ok workers
  | none => .ok none

/-- The names of the outdated schemas, in order, with a record of their number. The checks are
independent of each other and of any open context. -/
def outdatedSchemas (tree : FileTree) (base : Option BaseDirectory) (settings : FreshnessSettings)
    (workers : Option Int) (schemas : List (String × SchemaSource)) :
    Logged Error (List String) := do
  if schemas.isEmpty then return []
  let _ ← chooseWorkers workers settings
  let names ← Log.apart (outdatedNames tree base schemas)
  Log.emit source .info
    (intText names.length ++ " of " ++ intText schemas.length ++ " schemas outdated")
  return names

end Freshness

end SqlCompiler
