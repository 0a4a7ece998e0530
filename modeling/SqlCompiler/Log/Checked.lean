import SqlCompiler.Error
import SqlCompiler.Log.Basic

/-!
# Contexts and records given by name

Callers name the fields of a context, the component of a source and the extra members of a record as
texts. A name that is not a field, a component that does not exist and an extra member under a name
that every record has are refused, and refusing leaves the log as it was.
-/

namespace SqlCompiler.Log

/-- The fields of named values. A name that is no field is refused. -/
def fieldsOf : Members → Except Error (List (Field × Value))
  | [] => .ok []
  | (name, v) :: rest =>
    match Field.ofName? name with
    | some f => return (f, v) :: (← fieldsOf rest)
    | none => .error (.misuse .unknownField)

/-- The change of named fields and extra members. -/
def Change.ofMembers (fields extra : Members) : Except Error Change := do
  return ⟨← fieldsOf fields, extra⟩

/-- The source with a component of a name that must be known. -/
def Source.named (logger component : String) : Except Error Source :=
  match Component.ofName? component with
  | some c => .ok (.of logger c)
  | none => .error (.misuse .badNumber)

/-- The level of a name in lower case. -/
def Level.ofMethod? (s : String) : Option Level :=
  Level.all.find? fun l => l.name.toLower = s

/-- Names that every record has of its own. -/
def reservedNames : List String :=
  ["message", "asctime", "name", "msg", "args", "levelname", "levelno", "pathname", "filename",
    "module", "exc_info", "exc_text", "stack_info", "lineno", "funcName", "created", "msecs",
    "relativeCreated", "thread", "threadName", "processName", "process"]

/-- Names that the log itself fills in, whatever a caller gives. -/
def filledNames : List String :=
  ["component", "dbx"]

/-- The extra members that a record keeps. -/
def extraOf (extra : Members) : Except Error Members :=
  if extra.any fun (name, _) => reservedNames.contains name then .error (.misuse .reservedKey)
  else .ok (extra.filter fun (name, _) => !filledNames.contains name)

namespace Journal

/-- Writes a record with extra members. -/
def record (j : Journal) (source : Source) (level : Level) (message : String) (extra : Members) :
    Except Error Journal := do
  return j.write source level message (← extraOf extra)

/-- Ends the innermost block, which must be open. -/
def close (j : Journal) : Except Error Journal :=
  if j.contexts.isEmpty then .error (.misuse .noOpenContext) else .ok j.leave

end Journal

end SqlCompiler.Log
