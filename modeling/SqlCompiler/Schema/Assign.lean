import SqlCompiler.Error

/-!
# Assigning to what was read

Schemas and their parts do not change once they are read. A name that begins with a low line is no
field of theirs: what is assigned to it is kept aside and shows in no document.
-/

namespace SqlCompiler.Schema

/-- Whether a name can be that of a field. -/
def isFieldName (name : String) : Bool :=
  name.toList.head? != some '_'

/-- Refuses to assign to a field, known or not. -/
def assign (name : String) : Except Error Unit :=
  if isFieldName name then .error (.document [⟨[.key name], .frozen⟩]) else .ok ()

end SqlCompiler.Schema
