import SqlCompiler.Schema.Issue
import SqlCompiler.Sql.Fragment
import SqlCompiler.Sql.Placeholder

/-!
# Errors

Every way in which compiling, tracking or running can fail, by cause. The wording of a failure and
the attributes it carries are functions of the cause.
-/

namespace SqlCompiler

/-- Why a condition is refused. -/
inductive ConditionError
  | notMapping (kind : String)
  | verbatimNotText
  | notList (combinator : String)
  | emptyPredicate (column : String)
  | unknownOperator (column key : String)
  | membersNotList (column operator : String)
  | rangeNotPair (column : String)
deriving DecidableEq

/-- The wording of an error. -/
def ConditionError.message : ConditionError → String
  | notMapping kind => "Condition must be a mapping, got " ++ kind
  | verbatimNotText => "$sql must be a string"
  | notList combinator => "'" ++ combinator ++ "' expects a list of conditions"
  | emptyPredicate column => "Empty predicate for column '" ++ column ++ "'"
  | unknownOperator column key => "Unknown operator '" ++ key ++ "' for column '" ++ column ++ "'"
  | membersNotList column operator =>
    "'" ++ operator ++ "' on column '" ++ column ++ "' expects a list"
  | rangeNotPair column => "'between' on column '" ++ column ++ "' expects [low, high]"

/-- The key of the condition that an error is about. -/
def ConditionError.column? : ConditionError → Option String
  | notMapping _ => none
  | verbatimNotText => some "$sql"
  | notList combinator => some combinator
  | emptyPredicate column | unknownOperator column _ | membersNotList column _
  | rangeNotPair column => some column

/-- Why a schema, or what it refers to, is refused. -/
inductive SchemaError
  | notMapping (kind : String)
  | invalid (table : Value) (issues : List Issue)
  | unnamed
  | noColumns (table : String)
  | notFileUrl (id : String)
  | relativeBase (id : String) (base : String)
  | noIdentity (table : Option String)
  | notBaseColumn (name : Value) (known : List String)
  | noGenerator
  | notGenerated (name : String)
  | notImportable (path name : String)
  | notModel (path name : String)

/-- The wording of an error. -/
def SchemaError.message : SchemaError → String
  | notMapping kind => "Schema must be a mapping, got " ++ kind
  | invalid table _ => "Invalid schema '" ++ table.plain ++ "'"
  | unnamed => "Schema has neither a table nor a type name"
  | noColumns table => "Schema for table '" ++ table ++ "' has no columns"
  | notFileUrl id => "Schema id '" ++ id ++ "' is not a file URL"
  | relativeBase id base => "Base path must be absolute to resolve '" ++ id ++ "', got " ++ base
  | noIdentity table =>
    "Schema '" ++ table.getD "None" ++ "' must have an '$id' to check if it is outdated"
  | notBaseColumn name known =>
    "'" ++ name.plain ++ "' is not a base column (" ++ joinWith ", " known ++ ")"
  | noGenerator => "A schema generator is required to generate schemas from class files"
  | notGenerated name => "Generator returned no schema for '" ++ name ++ "'"
  | notImportable path _ => "Cannot import class file " ++ path
  | notModel path name => path ++ " does not define a pydantic model '" ++ name ++ "'"

/-- The table that an error is about. -/
def SchemaError.table : SchemaError → Value
  | invalid table _ => table
  | noColumns table => .text table
  | noIdentity table => Value.ofText? table
  | notGenerated name | notImportable _ name | notModel _ name => .text name
  | _ => .null

/-- The member or column that an error is about. -/
def SchemaError.field : SchemaError → Value
  | noIdentity _ => .text "$id"
  | notBaseColumn name _ => name
  | _ => .null

/-- Where a failure that a database client reports comes from. -/
inductive FailureOrigin
  | driverLayer
  | compiler (operation : Option String)
  | system
  | absentKey
  | elsewhere
deriving DecidableEq

/-- A failure that a database client reports: the name of its kind, where it comes from, and what it
says. -/
structure ClientFailure where
  kind : String
  origin : FailureOrigin
  message : String
deriving DecidableEq

namespace ClientFailure

/-- Whether a failure is one of the library's own. -/
def isOurs (f : ClientFailure) : Bool :=
  match f.origin with
  | .driverLayer | .compiler _ => true
  | _ => false

/-- The text of a failure. A failure about an absent key shows the key in quotes. -/
def text (f : ClientFailure) : String :=
  match f.origin with
  | .absentKey => Text.quoted f.message
  | _ => f.message

/-- The operation that a failure of the compiler belongs to. -/
def operation? (f : ClientFailure) : Option String :=
  match f.origin with
  | .compiler operation => operation
  | _ => none

/-- The wording of a failure: only the library and the operating system have one. -/
def message? (f : ClientFailure) : Option String :=
  match f.origin with
  | .driverLayer | .compiler _ | .system => some f.message
  | _ => none

end ClientFailure

/-- A failure of the facade: the operation and the statement it ran, and the kind of the client's
failure if there was one. -/
structure DriverError where
  message : String
  operation : Option String
  sql : Option String
  cause : Option String
deriving DecidableEq

/-- Why a file cannot be used. -/
inductive FileError
  | notFound (path : String)
  | isDirectory (path : String)
  | notDirectory (path : String)
  | classFileNotFound (path : String)
  | impossibleName
deriving DecidableEq

/-- The wording of an error, with the number that operating systems give it. A name that no file can
have never reaches them. -/
def FileError.message? : FileError → Option String
  | notFound path => some ("[Errno 2] No such file or directory: " ++ Text.quoted path)
  | isDirectory path => some ("[Errno 21] Is a directory: " ++ Text.quoted path)
  | notDirectory path => some ("[Errno 20] Not a directory: " ++ Text.quoted path)
  | classFileNotFound path => some ("Class file not found: " ++ path)
  | impossibleName => none

/-- A value of a kind that an operation does not take. -/
inductive MisuseError
  | notIterable
  | noMembers
  | badNumber
  | unreadableDocument
  | undecodableText
  | unknownField
  | noOpenContext
  | reservedKey
  | notKey
  | notText
  | malformedPattern
deriving DecidableEq

/-- Why the value given for a member of an enumeration cannot be made what the members are. -/
inductive MemberFault
  | wrongKind
  | unreadable
  | notFinite
deriving DecidableEq

/-- Why a class file cannot be run. -/
inductive ClassFault
  | notSource
  | raised
  | unknownName
  | notClass
  | twoDefaults
  | malformedType
  | member (e : MemberFault)
  | privateField
  | conflictingBases
  | unsupportedType
  | refusedValue
deriving DecidableEq

/-- Every failure. -/
inductive Error
  | schema (e : SchemaError)
  | document (issues : List Issue)
  | dialect (given : Value)
  | condition (e : ConditionError)
  | missingParameter (e : Sql.MissingParameter)
  | fragment (e : Sql.FragmentError)
  | driver (e : DriverError)
  | client (e : ClientFailure)
  | file (e : FileError)
  | misuse (e : MisuseError)
  | classFile (e : ClassFault)
  | interrupted

namespace Error

/-- The wording of a failure, for those that have one. -/
def message? : Error → Option String
  | schema e => some e.message
  | dialect given => some ("Unknown dialect '" ++ given.plain ++ "'")
  | condition e => some e.message
  | missingParameter e => some e.message
  | fragment e => e.message?
  | driver e => some e.message
  | client e => e.message?
  | file e => e.message?
  | _ => none

/-- Text under a key, if there is one. -/
def detail (key : String) (v : Option String) : Members :=
  (v.map fun s => (key, Value.text s)).toList

/-- A value under a key, unless it is null. -/
def valueDetail (key : String) (v : Value) : Members :=
  if v.isNull then [] else [(key, v)]

/-- What a failure says about its circumstances. -/
def attributes : Error → Members
  | schema e =>
    ("operation", .text "schema") :: valueDetail "table" e.table ++ valueDetail "field" e.field
  | dialect given => ("operation", .text "dialect") :: valueDetail "dialect" given
  | condition e => ("operation", .text "condition") :: detail "column" e.column?
  | missingParameter e =>
    [("operation", .text "bind"), ("name", .text e.name),
      ("available", .list (e.available.map .text))]
  | driver e => detail "operation" e.operation ++ detail "sql" e.sql
  | client e => detail "operation" e.operation?
  | _ => []

/-- The broken rules behind a refused schema or document. -/
def issues : Error → Option (List Issue)
  | schema (.invalid _ issues) | document issues => some issues
  | _ => none

end Error

end SqlCompiler
