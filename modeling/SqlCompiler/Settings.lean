import SqlCompiler.Number.Numeral
import SqlCompiler.Text.Split
import SqlCompiler.Text.Blank
import SqlCompiler.Value

/-!
# Settings

What callers need not say: layout and naming of statements, the database to connect to, and the
columns and workers of freshness tracking. Each setting has a built-in value that the environment
can replace.
-/

namespace SqlCompiler

/-- Variables of the environment. -/
abbrev Environment := List (String × String)

/-- Layout and naming of statements. -/
structure CompilerSettings where
  padWidth : Int := 4
  defaultStringLength : Int := 128
  arraySubtype : String := "CHAR(32)"
  fulltextLanguage : String := "english"
  fulltextIndexSuffix : String := "fulltext"
deriving DecidableEq

/-- The database to connect to. A port that is absent, or zero, is chosen by the dialect. -/
structure ConnectionSettings where
  host : Value := .text "127.0.0.1"
  port : Value := .null
  username : Value := .text "primary"
  password : Value := .null
  database : Value := .null
  sqliteFile : Value := .text ":memory:"
  mysqlPort : Value := .int 3306
  postgresPort : Value := .int 5432

/-- The columns that every table gets, and how many checks run at a time. -/
structure FreshnessSettings where
  baseColumns : List String := ["id", "inserted", "updated"]
  maxWorkers : Option Int := none
deriving DecidableEq

/-- All settings. -/
structure Settings where
  compiler : CompilerSettings
  connection : ConnectionSettings
  freshness : FreshnessSettings

/-- The port of a dialect, given by name. -/
def ConnectionSettings.portFor (s : ConnectionSettings) (dialect : String) : Value :=
  if s.port.isPresent then s.port
  else if dialect = "postgres" then s.postgresPort
  else s.mysqlPort

/-- A variable of the environment holds no number where one is needed. -/
inductive SettingsError
  | notNumber (text : String)
deriving DecidableEq

namespace Environment

/-- The number in a text. -/
def number (text : String) : Except SettingsError Int :=
  match Numeral.ofSetting? text with
  | some n => .ok n
  | none => .error (.notNumber text)

/-- The number under a name, or the built-in one if the name is unset. -/
def numberOr (env : Environment) (name : String) (builtIn : Int) : Except SettingsError Int :=
  match env.lookup name with
  | some text => number text
  | none => .ok builtIn

/-- The number under a name, none if the name is unset or empty. -/
def number? (env : Environment) (name : String) : Except SettingsError (Option Int) :=
  match env.lookup name with
  | some "" | none => .ok none
  | some text => return some (← number text)

/-- The text under a name, or the built-in one if the name is unset. -/
def textOr (env : Environment) (name builtIn : String) : String :=
  (env.lookup name).getD builtIn

/-- The settings of statements. -/
def compilerSettings (env : Environment) : Except SettingsError CompilerSettings := do
  let builtIn : CompilerSettings := {}
  return { builtIn with
    padWidth := ← env.numberOr "DBX_PAD_WIDTH" builtIn.padWidth
    defaultStringLength := ← env.numberOr "DBX_DEFAULT_STRING_LENGTH" builtIn.defaultStringLength
    arraySubtype := env.textOr "DBX_ARRAY_SUBTYPE" builtIn.arraySubtype
    fulltextLanguage := env.textOr "DBX_FULLTEXT_LANGUAGE" builtIn.fulltextLanguage }

/-- The settings of the connection. -/
def connectionSettings (env : Environment) : Except SettingsError ConnectionSettings := do
  let builtIn : ConnectionSettings := {}
  return { builtIn with
    host := ((env.lookup "DB_HOST").map .text).getD builtIn.host
    port := ((← env.number? "DB_PORT").map Value.int).getD .null
    username := ((env.lookup "DB_USER").map .text).getD builtIn.username
    password := .ofText? (env.lookup "DB_PASS")
    database := .ofText? (env.lookup "DB_NAME")
    sqliteFile := ((env.lookup "DB_FILE").map .text).getD builtIn.sqliteFile }

/-- The settings of freshness tracking. -/
def freshnessSettings (env : Environment) : Except SettingsError FreshnessSettings := do
  let builtIn : FreshnessSettings := {}
  return {
    baseColumns := match env.lookup "DBX_BASE_COLUMNS" with
      | some "" | none => builtIn.baseColumns
      | some text => (Text.split ',' text).map Text.strip
    maxWorkers := ← env.number? "DBX_FRESHNESS_WORKERS" }

/-- All settings. -/
def settings (env : Environment) : Except SettingsError Settings := do
  let compiler ← env.compilerSettings
  let connection ← env.connectionSettings
  return ⟨compiler, connection, ← env.freshnessSettings⟩

end Environment

end SqlCompiler
