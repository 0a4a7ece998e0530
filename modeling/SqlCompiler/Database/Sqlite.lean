import SqlCompiler.Database.Connection
import SqlCompiler.Json.Text
import SqlCompiler.Text.Pattern

/-!
# SQLite clients

A client of a database file. A statement that fails has no cursor yet; otherwise its cursor is
closed however the rest ended. Arguments that the system does not store are passed as text, and a
function for the operator `REGEXP` is registered on connecting.
-/

namespace SqlCompiler.Sqlite

/-- Where records about connections come from. -/
def source : Log.Source :=
  .of "drivers.sqlite" .driver

/-- An argument as it is passed: lists and objects as compact JSON, dates and times as text. -/
def adapt (v : Value) : Value :=
  match v with
  | .list items => .text (Json.text .compact (.list items))
  | .tuple items => .text (Json.text .compact (.tuple items))
  | .object members => .text (Json.text .compact (.object members))
  | .dateTime t => .text (t.text " ")
  | .date d => .text d.text
  | .time t => .text t.text
  | v => v

/-- Whether a pattern occurs in the plain text of a value; null if one of them is null. -/
def regexp (pattern : Value) (v : Value) : Except Error Value :=
  match pattern, v with
  | .null, _ | _, .null => .ok .null
  | .text pattern, v =>
    match Text.occurs? pattern v.plain with
    | some found => .ok (.bool found)
    | none => .error (.misuse .malformedPattern)
  | _, _ => .error (.misuse .notText)

section Client

variable {σ κ α : Type} (d : Driver σ κ)

/-- Runs a statement on a new cursor and closes the cursor, if the statement ran. -/
def withCursor (sql : String) (arguments : List Value) (action : κ → Driving σ α) : Driving σ α :=
  .withCursor (d.runOnNew sql (arguments.map adapt)) d.closeCursor action

/-- Runs a query and takes its rows. -/
def query (sql : String) (arguments : List Value) : Driving σ (List Row) :=
  withCursor d sql arguments d.fetchAll

/-- Runs a statement. -/
def execute (sql : String) (arguments : List Value) : Driving σ Outcome :=
  withCursor d sql arguments fun c => return ⟨← d.affectedRows c, ← d.lastRow c⟩

/-- The client of a database file whose driver is `d`. -/
def clientOver : Client σ where
  query sql arguments := (query d sql arguments).run
  execute sql arguments := (execute d sql arguments).run
  close := d.close.run

end Client

/-- The client of a scripted connection. -/
def client : Client Connection :=
  clientOver Connection.driver

/-- Transactions do not begin by themselves, and any thread may use the file. -/
def options : FileOptions :=
  ⟨none, false⟩

/-- Opens a database file, with a record. -/
def connect (file : Value) (replies : List CursorReply) : Log.Logged Error Connection := do
  Log.emit source .debug ("Opening SQLite database " ++ file.plain)
  return ⟨replies, [.connectFile file options, .createFunction "REGEXP" 2 true]⟩

end SqlCompiler.Sqlite
