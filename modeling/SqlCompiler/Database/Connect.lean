import SqlCompiler.Database.Postgres
import SqlCompiler.Database.Sqlite
import SqlCompiler.Dialect.Profile
import SqlCompiler.Value.Object

/-!
# Connecting

What to connect to is given as an object: the dialect under `type`, and parts of the connection
settings under names of their own, over those of the environment.
-/

namespace SqlCompiler

/-- The client that fits a dialect, and what it connects to. -/
inductive ClientChoice
  | file (name : Value)
  | server (conninfo : String)

/-- The chosen client, working through a driver. -/
def ClientChoice.over {σ κ : Type} (d : Driver σ κ) : ClientChoice → Client σ
  | .file _ => Sqlite.clientOver d
  | .server _ => Postgres.clientOver d

/-- The wording about a dialect for which there is no client. -/
def noClientMessage (d : Dialect) : String :=
  "No bundled client for " ++ d.name
    ++ "; wrap your driver in a DatabaseClient and pass it to Database(client, '" ++ d.name ++ "')"

/-- The settings that a configuration gives over those of the environment. Ports of dialects are not
among them. -/
def ConnectionSettings.configured (config : Members) (env : ConnectionSettings) :
    ConnectionSettings where
  host := (config.get? "host").getD env.host
  port := (config.get? "port").getD env.port
  username := (config.get? "username").getD env.username
  password := (config.get? "password").getD env.password
  database := (config.get? "database").getD env.database
  sqliteFile := (config.get? "filename").getD env.sqliteFile

/-- The dialect that a configuration names. -/
def configuredDialect (config : Members) : Except Error Dialect :=
  match Dialect.ofValue? (config.getD "type") with
  | some d => .ok d
  | none => .error (.dialect (config.getD "type"))

/-- Chooses the client for a configuration. -/
def chooseClient (config : Value) (env : ConnectionSettings) :
    Except Error (Dialect × ClientChoice) := do
  let config ← if config.isPresent then config.toMembers else pure []
  let dialect ← configuredDialect config
  let settings := env.configured config
  match dialect with
  | .sqlite => return (dialect, .file settings.sqliteFile)
  | .postgres => return (dialect, .server (Postgres.conninfo settings))
  | .mysql => throw (.driver ⟨noClientMessage dialect, some "connect", none, none⟩)

/-- Settings given by the names of their fields, over the built-in ones. -/
def ConnectionSettings.ofMembers (s : ConnectionSettings) :
    Members → Except Error ConnectionSettings
  | [] => .ok s
  | (key, v) :: rest => do
    let s ← match key with
      | "host" => pure { s with host := v }
      | "port" => pure { s with port := v }
      | "username" => pure { s with username := v }
      | "password" => pure { s with password := v }
      | "database" => pure { s with database := v }
      | "sqlite_file" => pure { s with sqliteFile := v }
      | "mysql_port" => pure { s with mysqlPort := v }
      | "postgres_port" => pure { s with postgresPort := v }
      | _ => throw (.misuse .unknownField)
    ofMembers s rest

end SqlCompiler
