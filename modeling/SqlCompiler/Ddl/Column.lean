import SqlCompiler.Dialect.Profile
import SqlCompiler.Schema.Basic
import SqlCompiler.Settings
import SqlCompiler.Sql.NullOrdering

/-!
# Column lines

The line of a column in a table: its name, padded so that the types stand below each other, its
type, and what is demanded of its values. A column gets its values from one source at most: an
expression, automatic numbers, the current time, or a default.
-/

namespace SqlCompiler.Ddl

open Sql (Fragment)

/-- What tables are written for. -/
structure Target where
  profile : Profile
  settings : CompilerSettings

/-- A number of spaces, none if the number is negative. -/
def spaces (n : Int) : String :=
  String.ofList (List.replicate n.toNat ' ')

/-- A text with spaces behind it, up to the width in characters. -/
def padRight (width : Int) (s : String) : String :=
  s ++ spaces (width - s.length)

/-- A type with a length behind it. -/
def sized (typeName : String) (length : Int) : String :=
  typeName ++ "(" ++ intText length ++ ")"

/-- Whether a text is enclosed by an opening and a closing character. A single quote does not
enclose itself. -/
def isEnclosed (opening closing : Char) (s : String) : Bool :=
  s.toList.head? == some opening && s.toList.getLast? == some closing
    && (opening != closing || s.length ≥ 2)

/-- A text default: SQL in parentheses and finished literals stay, any other text becomes a literal.
-/
def textDefault (s : String) : String :=
  if isEnclosed '(' ')' s || isEnclosed '\'' '\'' s then s else Sql.literal (.text s)

/-- A default of any kind; lists and objects stand in parentheses. -/
def literalDefault? : Value → Option String
  | .null => none
  | .text s => some (textDefault s)
  | .list items => some ("(" ++ Sql.literal (.list items) ++ ")")
  | .tuple items => some ("(" ++ Sql.literal (.tuple items) ++ ")")
  | .object members => some ("(" ++ Sql.literal (.object members) ++ ")")
  | v => some (Sql.literal v)

namespace Target

/-- The type of a column with its length. A key that is numbered automatically gets the serial type
of the dialect if there is one, a text too long for the sized type gets the text type. -/
def columnType (t : Target) (c : Column) : String :=
  let typeName := t.profile.typeName c.type
  match c.isAutoIncrement, t.profile.serialType with
  | true, some serial => serial
  | _, _ =>
    if c.type = .string then
      if t.profile.promotesToText (c.maxLength.map Int.ofNat) then t.profile.textType
      else
        match c.maxLength with
        | none | some 0 => sized typeName t.settings.defaultStringLength
        | some n => sized typeName n
    else
      match c.maxLength with
      | none => typeName
      | some n => sized typeName n

/-- The default of a column. The current time wins over a declared default; a column that is
generated or numbered has none. -/
def defaultValue? (t : Target) (c : Column) : Option String :=
  if c.generation.isSome || c.isAutoIncrement then none
  else
    match c.dateOn with
    | some .insert => some "CURRENT_TIMESTAMP"
    | some .update =>
      if t.profile.supportsOnUpdateTimestamp then
        some "CURRENT_TIMESTAMP ON UPDATE CURRENT_TIMESTAMP"
      else some "CURRENT_TIMESTAMP"
    | none => literalDefault? c.default

/-- The clause of a generated column. -/
def generatedClause (t : Target) (c : Column) : String :=
  match c.generatedExpression? t.profile.dialect with
  | some "" | none => ""
  | some sql => " GENERATED ALWAYS AS (" ++ Sql.stripNullOrdering sql ++ ") STORED"

/-- The clause of a default. -/
def defaultClause (t : Target) (c : Column) : String :=
  match t.defaultValue? c with
  | some v => " DEFAULT " ++ v
  | none => ""

/-- The clause of a key or of distinct values. -/
def keyClause (c : Column) : String :=
  if c.primaryKey then " PRIMARY KEY" else if c.unique then " UNIQUE" else ""

/-- The clause of an automatically numbered key, where the type does not say it. -/
def autoIncrementClause (t : Target) (c : Column) : String :=
  if c.isAutoIncrement && t.profile.serialType.isNone then t.profile.autoIncrement else ""

/-- The comment of a column, where the dialect has comments. -/
def commentClause (t : Target) (c : Column) : String :=
  match c.description with
  | some "" | none => ""
  | some s =>
    if t.profile.supportsColumnComments then " COMMENT " ++ Sql.literal (.text s) else ""

/-- A name as it stands in statements of the dialect. -/
def nameText (t : Target) (name : String) : String :=
  (Fragment.name name).render t.profile.identifierQuote

/-- The line of a column, its name padded to a width. -/
def columnLine (t : Target) (name : String) (c : Column) (required : Bool) (namePad : Int) :
    String :=
  spaces t.settings.padWidth ++ padRight namePad (t.nameText name) ++ t.columnType c
    ++ (if c.primaryKey || required then " NOT NULL" else "")
    ++ t.generatedClause c ++ t.defaultClause c ++ keyClause c ++ t.autoIncrementClause c
    ++ t.commentClause c

end Target

end SqlCompiler.Ddl
