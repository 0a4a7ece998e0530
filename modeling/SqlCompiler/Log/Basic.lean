import SqlCompiler.Value

/-!
# The log

A record of the log carries, beside its text, the part of the library it comes from and the context
it was written in: what table, dialect, schema and operation were worked on. Contexts nest. A block
opens one, everything written inside the block carries it, and when the block ends, in whatever way,
the context outside is active again.
-/

namespace SqlCompiler.Log

/-- How weighty a record is. -/
inductive Level
  | debug
  | info
  | warning
  | error
  | critical
deriving DecidableEq

namespace Level

/-- The name of a level. -/
def name : Level → String
  | debug => "DEBUG"
  | info => "INFO"
  | warning => "WARNING"
  | error => "ERROR"
  | critical => "CRITICAL"

/-- Every level, from the least on. -/
def all : List Level :=
  [debug, info, warning, error, critical]

/-- The rank of a level among all. -/
def rank : Level → Nat
  | debug => 0
  | info => 1
  | warning => 2
  | error => 3
  | critical => 4

end Level

/-- The parts of the library that write records. -/
inductive Component
  | ddl
  | condition
  | binder
  | freshness
  | driver
deriving DecidableEq

namespace Component

/-- Every component. -/
def all : List Component :=
  [ddl, condition, binder, freshness, driver]

/-- The name of a component. -/
def name : Component → String
  | ddl => "ddl"
  | condition => "condition"
  | binder => "binder"
  | freshness => "freshness"
  | driver => "driver"

/-- The component of a name. -/
def ofName? (s : String) : Option Component :=
  all.find? fun c => c.name = s

end Component

/-- Where records come from: the name of the logger and of its component. -/
structure Source where
  logger : String
  component : Value

/-- The source of a component's records. -/
def Source.of (logger : String) (component : Component) : Source :=
  ⟨logger, .text component.name⟩

/-- The fields that every context has. -/
inductive Field
  | table
  | dialect
  | schemaId
  | operation
deriving DecidableEq

namespace Field

/-- Every field. -/
def all : List Field :=
  [table, dialect, schemaId, operation]

/-- The name of a field in records. -/
def name : Field → String
  | table => "table"
  | dialect => "dialect"
  | schemaId => "schema_id"
  | operation => "operation"

/-- The field of a name. -/
def ofName? (s : String) : Option Field :=
  all.find? fun f => f.name = s

end Field

/-- What is being worked on. A field without a value is null. -/
structure Context where
  value : Field → Value
  extra : Members

/-- The context outside of every block. -/
def Context.empty : Context :=
  ⟨fun _ => .null, []⟩

/-- What a block says about its context: some of the fields, possibly that they have no value, and
extra members. -/
structure Change where
  fields : List (Field × Value)
  extra : Members

/-- The context inside a block. What the block does not mention is taken over. -/
def Context.enter (outer : Context) (change : Change) : Context where
  value f := (change.fields.lookup f).getD (outer.value f)
  extra := outer.extra.merge change.extra

/-- The members that a record shows: fields with a value, and extra members over them. -/
def Context.members (c : Context) : Members :=
  Members.merge
    (Field.all.filterMap fun f =>
      if (c.value f).isNull then none else some (f.name, c.value f))
    c.extra

/-- A written record. -/
structure Record where
  source : Source
  level : Level
  message : String
  context : Members
  extra : Members

/-- The state of the log: the open contexts, innermost first, and the records, oldest first. -/
structure Journal where
  contexts : List Context
  records : List Record

namespace Journal

/-- No open block, and nothing written. -/
def empty : Journal :=
  ⟨[], []⟩

/-- The context of the innermost open block. -/
def active (j : Journal) : Context :=
  j.contexts.head?.getD .empty

/-- Writes a record in the active context. -/
def write (j : Journal) (source : Source) (level : Level) (message : String) (extra : Members) :
    Journal :=
  { j with records := j.records ++ [⟨source, level, message, j.active.members, extra⟩] }

/-- Opens a block. -/
def enter (j : Journal) (change : Change) : Journal :=
  { j with contexts := j.active.enter change :: j.contexts }

/-- Ends the innermost block. -/
def leave (j : Journal) : Journal :=
  { j with contexts := j.contexts.tail }

end Journal

/-- A computation that may fail and writes to the log. What was written before a failure stays. -/
abbrev Logged (ε : Type) := ExceptT ε (StateM Journal)

/-- Writes a record. -/
def emit {ε : Type} (source : Source) (level : Level) (message : String) : Logged ε Unit :=
  modify fun j => j.write source level message []

/-- Runs a computation as a block. -/
def block {α ε : Type} (change : Change) (action : Logged ε α) : Logged ε α :=
  ExceptT.mk fun j =>
    let (result, inner) := action.run (j.enter change)
    (result, inner.leave)

/-- Runs a computation outside of every open block. -/
def apart {α ε : Type} (action : Logged ε α) : Logged ε α :=
  ExceptT.mk fun j =>
    let (result, inner) := action.run { j with contexts := [] }
    (result, { inner with contexts := j.contexts })

/-- A context change that names texts. -/
def naming (fields : List (Field × String)) : Change :=
  ⟨fields.map fun (f, s) => (f, .text s), []⟩

end SqlCompiler.Log
