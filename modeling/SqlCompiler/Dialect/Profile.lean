import SqlCompiler.Dialect.Basic
import SqlCompiler.Dialect.ColumnType
import SqlCompiler.Sql.Template

/-!
# Dialect profiles

All that one dialect does differently from another, as one record of data. Statements are written by
looking into the profile; no other part of the library tells dialects apart.
-/

namespace SqlCompiler

open Sql (Template Piece)

/-- What a statement that creates a full-text index mentions. -/
inductive IndexSlot
  | name
  | table
  | columns
  | language
deriving DecidableEq

/-- What a full-text search mentions. -/
inductive SearchSlot
  | columns
  | term
  | language
deriving DecidableEq

/-- What a test for a member mentions. -/
inductive ContainsSlot
  | column
  | value
deriving DecidableEq

/-- The name of a slot. -/
def IndexSlot.label : IndexSlot → String
  | name => "name"
  | table => "table"
  | columns => "columns"
  | language => "language"

/-- The name of a slot. -/
def SearchSlot.label : SearchSlot → String
  | columns => "columns"
  | term => "term"
  | language => "language"

/-- The name of a slot. -/
def ContainsSlot.label : ContainsSlot → String
  | column => "column"
  | value => "value"

/-- How the parameters of a statement are marked: by question marks, or by numbers from one on. -/
inductive PlaceholderStyle
  | question
  | numbered
deriving DecidableEq

/-- The name of a style. -/
def PlaceholderStyle.name : PlaceholderStyle → String
  | question => "qmark"
  | numbered => "numeric"

/-- The ways of one dialect. `serialType` replaces the type of an automatically numbered key,
`autoIncrement` follows it; a text longer than `textThreshold` gets the type `textType`. A dialect
without `fulltextIndex` has no full-text index, one without `fulltextMatch` no full-text search. -/
structure Profile where
  dialect : Dialect
  typeName : ColumnType → String
  serialType : Option String
  autoIncrement : String
  textType : String
  textThreshold : Option Int
  supportsColumnComments : Bool
  supportsOnUpdateTimestamp : Bool
  supportsNamedChecks : Bool
  supportsForeignKeys : Bool
  supportsNotEnforced : Bool
  arrayCastSuffix : String
  fulltextIndex : Option (Template IndexSlot)
  fulltextCoalesce : Bool
  fulltextMatch : Option (Template SearchSlot)
  fulltextTermSuffix : String
  containsTemplate : Template ContainsSlot
  containsWrapsLike : Bool
  regexOperator : String
  keywordSpellings : List (String × String)
  identifierQuote : String
  placeholderStyle : PlaceholderStyle
  stripsNullOrdering : Bool

namespace Profile

/-- The column types of MySQL and SQLite. -/
def commonTypeName : ColumnType → String
  | .boolean => "BOOLEAN"
  | .integer => "INTEGER"
  | .number => "DOUBLE"
  | .string => "VARCHAR"
  | .date => "DATETIME"
  | .object | .array => "JSON"

/-- The column types of PostgreSQL. -/
def postgresTypeName : ColumnType → String
  | .boolean => "BOOLEAN"
  | .integer => "INTEGER"
  | .number => "DOUBLE PRECISION"
  | .string => "VARCHAR"
  | .date => "TIMESTAMP"
  | .object | .array => "JSONB"

/-- MySQL and MariaDB. A `VARCHAR` of four-byte characters has at most 16383 of them. -/
def mysql : Profile where
  dialect := .mysql
  typeName := commonTypeName
  serialType := none
  autoIncrement := " AUTO_INCREMENT"
  textType := "TEXT"
  textThreshold := some 16383
  supportsColumnComments := true
  supportsOnUpdateTimestamp := true
  supportsNamedChecks := true
  supportsForeignKeys := true
  supportsNotEnforced := true
  arrayCastSuffix := " ARRAY"
  fulltextIndex := some [.text "CREATE FULLTEXT INDEX ", .slot .name, .text " ON ", .slot .table,
    .text " (", .slot .columns, .text ")"]
  fulltextCoalesce := false
  fulltextMatch := some [.text "MATCH(", .slot .columns, .text ") AGAINST (", .slot .term,
    .text " IN BOOLEAN MODE)"]
  fulltextTermSuffix := "*"
  containsTemplate := [.slot .value, .text " MEMBER OF (", .slot .column, .text ")"]
  containsWrapsLike := false
  regexOperator := "RLIKE"
  keywordSpellings := []
  identifierQuote := "\x60"
  placeholderStyle := .question
  stripsNullOrdering := false

/-- PostgreSQL. -/
def postgres : Profile where
  dialect := .postgres
  typeName := postgresTypeName
  serialType := some "SERIAL"
  autoIncrement := ""
  textType := "TEXT"
  textThreshold := none
  supportsColumnComments := false
  supportsOnUpdateTimestamp := false
  supportsNamedChecks := true
  supportsForeignKeys := true
  supportsNotEnforced := false
  arrayCastSuffix := ""
  fulltextIndex := some [.text "CREATE INDEX ", .slot .name, .text " ON ", .slot .table,
    .text " USING GIN (TO_TSVECTOR(", .slot .language, .text ", ", .slot .columns, .text "))"]
  fulltextCoalesce := true
  fulltextMatch := some [.text "TO_TSVECTOR(", .slot .language, .text ", ", .slot .columns,
    .text ") @@ TO_TSQUERY(", .slot .term, .text ")"]
  fulltextTermSuffix := ""
  containsTemplate := [.text "JSONB_EXISTS(CAST(", .slot .column, .text " AS JSONB), ",
    .slot .value, .text ")"]
  containsWrapsLike := false
  regexOperator := "~*"
  keywordSpellings := [("DATETIME", "TIMESTAMP"), ("JSON_EXTRACT", "JSONB_EXTRACT_PATH"),
    ("RLIKE", "~*"), ("REGEXP", "~*")]
  identifierQuote := "\""
  placeholderStyle := .numbered
  stripsNullOrdering := true

/-- SQLite. -/
def sqlite : Profile where
  dialect := .sqlite
  typeName := commonTypeName
  serialType := none
  autoIncrement := " AUTOINCREMENT"
  textType := "TEXT"
  textThreshold := none
  supportsColumnComments := false
  supportsOnUpdateTimestamp := false
  supportsNamedChecks := false
  supportsForeignKeys := false
  supportsNotEnforced := false
  arrayCastSuffix := ""
  fulltextIndex := none
  fulltextCoalesce := false
  fulltextMatch := none
  fulltextTermSuffix := ""
  containsTemplate := [.slot .column, .text " LIKE ", .slot .value]
  containsWrapsLike := true
  regexOperator := "REGEXP"
  keywordSpellings := []
  identifierQuote := "\""
  placeholderStyle := .question
  stripsNullOrdering := true

/-- Whether a text of this greatest length is too long for the sized text type. -/
def promotesToText (p : Profile) (length : Option Int) : Bool :=
  match p.textThreshold, length with
  | some threshold, some n => n > threshold
  | _, _ => false

end Profile

/-- The profile of a dialect. -/
def Dialect.profile : Dialect → Profile
  | mysql => Profile.mysql
  | postgres => Profile.postgres
  | sqlite => Profile.sqlite

end SqlCompiler
