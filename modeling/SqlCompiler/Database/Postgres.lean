import SqlCompiler.Database.Connection
import SqlCompiler.Settings
import SqlCompiler.Value.Display

/-!
# PostgreSQL clients

A client of a server. Each statement has a cursor of its own, which is left however the statement
ended. The first value of a returned row is the id of an inserted one. A server is named by a text
of parameters: a name, an equals sign and a value, with spaces between.
-/

namespace SqlCompiler.Postgres

/-- Where records about connections come from. -/
def source : Log.Source :=
  .of "drivers.postgresql" .driver

/-- Arguments as a cursor takes them: none if there are none. -/
def cursorArguments (arguments : List Value) : Option (List Value) :=
  if arguments.isEmpty then none else some arguments

section Client

variable {σ κ α : Type} (d : Driver σ κ)

/-- Runs a computation on a new cursor and leaves the cursor. -/
def withCursor (action : κ → Driving σ α) : Driving σ α :=
  .withCursor d.cursor d.leaveCursor action

/-- Runs a query and takes its rows, if it has any. -/
def query (sql : String) (arguments : List Value) : Driving σ (List Row) :=
  withCursor d fun c => do
    d.run c sql (cursorArguments arguments)
    if ← d.isDescribed c then d.fetchAll c else return []

/-- Runs a statement, and takes the first row if there is one. -/
def execute (sql : String) (arguments : List Value) : Driving σ Outcome :=
  withCursor d fun c => do
    d.run c sql (cursorArguments arguments)
    let row ← if ← d.isDescribed c then d.fetchOne c else pure none
    return ⟨← d.affectedRows c, ((row.bind List.head?).map (·.2)).getD .null⟩

/-- The client of a server whose driver is `d`. -/
def clientOver : Client σ where
  query sql arguments := (query d sql arguments).run
  execute sql arguments := (execute d sql arguments).run
  close := d.close.run

end Client

/-- The client of a scripted connection. -/
def client : Client Connection :=
  clientOver Connection.driver

/-- Each statement is a transaction of its own, rows are objects, and the text of a statement is
sent as it is. -/
def options : ServerOptions :=
  ⟨true, "dict_row", "RawCursor"⟩

/-- Connects to a server, with records before and after. -/
def connect (conninfo : String) (replies : List CursorReply) : Log.Logged Error Connection := do
  Log.emit source .debug "Connecting to PostgreSQL..."
  let connection : Connection := ⟨replies, [.connectServer conninfo options]⟩
  Log.emit source .debug "PostgreSQL connection established"
  return connection

/-- A character of a value; a backslash and an apostrophe are written behind a backslash. -/
def escapeChar (c : Char) : List Char :=
  if c = '\\' ∨ c = '\'' then ['\\', c] else [c]

/-- A value of a parameter: between apostrophes if it is empty or has blanks in it. -/
def parameterText (s : String) : String :=
  let body := String.ofList (s.toList.flatMap escapeChar)
  if s.isEmpty || s.toList.any Text.isBlank then "'" ++ body ++ "'" else body

/-- The parameters of a server. -/
def parameters (s : ConnectionSettings) : Members :=
  [("host", s.host), ("port", s.portFor "postgres"), ("user", s.username), ("password", s.password),
    ("dbname", s.database)]

/-- The text that names a server. Parameters without a value are left out. -/
def conninfo (s : ConnectionSettings) : String :=
  joinWith " " ((parameters s).filterMap fun (key, v) =>
    if v.isNull then none else some (key ++ "=" ++ parameterText v.plain))

end SqlCompiler.Postgres
