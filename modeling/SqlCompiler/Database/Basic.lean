import SqlCompiler.Database.Client
import SqlCompiler.Ddl.Table
import SqlCompiler.Number.Arithmetic
import SqlCompiler.Sql.Bind
import SqlCompiler.Sql.Inline

/-!
# Databases

A database runs statements of one dialect through a client. Statements are written once, with
question marks or named parameters, and are prepared for the dialect right before they are sent.
Each statement that ran leaves a record with its arguments written in; one that failed leaves an
error record and ends in a driver error, unless the failure is already one of the library's own.
-/

namespace SqlCompiler

/-- A client, the dialect it understands, the settings of statements, and the weight from which on
records are kept. -/
structure Database (σ : Type) where
  client : Client σ
  profile : Profile
  settings : CompilerSettings
  threshold : Log.Level

/-- The two ways to run a statement. -/
inductive Operation
  | query
  | execute
deriving DecidableEq

/-- The name of an operation. -/
def Operation.name : Operation → String
  | query => "query"
  | execute => "execute"

/-- The seconds that a clock showed before and after an operation. -/
structure Timing where
  start : Double
  stop : Double

/-- No time at all. -/
def Timing.none : Timing :=
  ⟨Double.ofInt 0, Double.ofInt 0⟩

/-- The whole milliseconds between two readings. -/
def Timing.milliseconds (t : Timing) : Int :=
  ((t.stop.sub t.start).times 1000).truncate

/-- Where records about statements come from. -/
def databaseSource : Log.Source :=
  .of "drivers.database" .driver

/-- The record about a statement that ran. -/
def ranMessage (p : Sql.Prepared) (rows milliseconds : Int) : String :=
  Sql.inline (Sql.onOneLine p.sql) p.arguments ++ "  [" ++ intText rows
    ++ (if rows = 1 then " row in " else " rows in ") ++ intText milliseconds ++ "ms]"

/-- What an operation says that a client failed. -/
def failedMessage (operation : Operation) (failure : ClientFailure) : String :=
  operation.name ++ " failed: " ++ failure.text

/-- The record about a statement that failed. -/
def failedRecord (operation : Operation) (failure : ClientFailure) (p : Sql.Prepared) : String :=
  failedMessage operation failure ++ " | " ++ Sql.onOneLine p.sql ++ " | "
    ++ (Value.list p.arguments).display

/-- The error that a failure of a client ends in, if it is not one of the library's own. -/
def driverError (operation : Operation) (failure : ClientFailure) (p : Sql.Prepared) :
    DriverError where
  message := failedMessage operation failure
  operation := some operation.name
  sql := some (Sql.onOneLine p.sql)
  cause := some failure.kind

namespace Database

variable {σ α : Type}

/-- Adapts the text of a statement to a dialect. -/
def adapt (profile : Profile) (sql : String) : String :=
  if profile.placeholderStyle = .numbered then Sql.numberMarks sql
  else if profile.stripsNullOrdering then Sql.stripNullOrdering sql
  else sql

/-- Arguments that are given in order: the members of a list, tuple or set, the characters of a
text, the bytes of a byte string, or the keys of an object. -/
def positional (parameters : Value) : Except Error (List Value) :=
  match parameters with
  | .list items | .tuple items | .set items | .frozenSet items => .ok items
  | .object members => .ok (members.map fun (key, _) => .text key)
  | .text s => .ok (s.toList.map fun c => .text (String.singleton c))
  | .bytes bs => .ok (bs.map fun b => .int b.toNat)
  | v => if v.isPresent then .error (.misuse .notIterable) else .ok []

/-- Gives a statement its arguments. Members of an object are named parameters. -/
def bound (sql : String) (parameters : Value) : Log.Logged Error Sql.Prepared :=
  match parameters with
  | .object named => Sql.bind sql named true
  | v => do return ⟨sql, ← positional v⟩

/-- Gives a statement its arguments and adapts it to a dialect. -/
def prepare (profile : Profile) (sql : String) (parameters : Value) :
    Log.Logged Error Sql.Prepared := do
  let p ← bound sql parameters
  return ⟨adapt profile p.sql, p.arguments⟩

/-- Writes a record, if it weighs enough. -/
def emit (db : Database σ) (level : Log.Level) (message : String) : Access σ Unit :=
  if db.threshold.rank ≤ level.rank then .logged (Log.emit databaseSource level message)
  else pure ()

/-- The context of an operation. -/
def context (db : Database σ) (operation : Operation) : Log.Change :=
  Log.naming [(.dialect, db.profile.dialect.name), (.operation, operation.name)]

/-- Ends an operation that the client failed. -/
def fail (db : Database σ) (operation : Operation) (p : Sql.Prepared) (failure : ClientFailure) :
    Access σ α :=
  if failure.isOurs then throw (.client failure)
  else do
    db.emit .error (failedRecord operation failure p)
    throw (.driver (driverError operation failure p))

/-- Sends a prepared statement. `rows` is the number of rows that its record states. -/
def send (db : Database σ) (operation : Operation)
    (run : String → List Value → σ → Except ClientFailure α × σ) (rows : α → Int) (timing : Timing)
    (p : Sql.Prepared) : Access σ α :=
  Access.block (db.context operation) do
    match ← Access.call (run p.sql p.arguments) with
    | .error failure => db.fail operation p failure
    | .ok a =>
      db.emit .debug (ranMessage p (rows a) timing.milliseconds)
      return a

/-- Runs a query and returns its rows. -/
def query (db : Database σ) (sql : String) (parameters : Value) (timing : Timing) :
    Access σ (List Row) := do
  let p ← .logged (prepare db.profile sql parameters)
  db.send .query db.client.query (fun rows => rows.length) timing p

/-- Runs a statement that returns no rows. -/
def execute (db : Database σ) (sql : String) (parameters : Value) (timing : Timing) :
    Access σ Outcome := do
  let p ← .logged (prepare db.profile sql parameters)
  db.send .execute db.client.execute Outcome.affectedRows timing p

/-- Runs statements one after the other. -/
def executeAll (db : Database σ) : List String → Access σ Unit
  | [] => pure ()
  | sql :: rest => do
    let _ ← db.execute sql .null .none
    executeAll db rest

/-- The statements of a schema, which are run unless they are only asked for. -/
def createTable (db : Database σ) (schema : Value) (run : Bool) (table : Option String) :
    Access σ (List String) := do
  let target : Ddl.Target := ⟨db.profile, db.settings⟩
  let texts ← .logged (do target.statements (← Schema.ofValue schema) table)
  if run then db.executeAll texts
  return texts

/-- Closes the client. -/
def close (db : Database σ) : Access σ Unit := do
  match ← Access.call db.client.close with
  | .ok () => pure ()
  | .error failure => throw (.client failure)

/-- Runs a computation and closes the client however it ended. -/
def within (db : Database σ) (action : Access σ α) : Access σ α :=
  action.andFinally db.close

end Database

end SqlCompiler
