import SqlCompiler.Sql.Placeholder
import SqlCompiler.Error
import SqlCompiler.Log.Basic

/-!
# Binding, with its record

A statement that is bound leaves a record of how many arguments it got, and from how many
parameters.
-/

namespace SqlCompiler.Sql

/-- Where records about binding come from. -/
def bindSource : Log.Source :=
  .of "dbx.query.binder" .binder

/-- The record about a bound statement. -/
def boundMessage (arguments parameters : Nat) : String :=
  "Bound " ++ intText arguments ++ " arguments from " ++ intText parameters ++ " named parameters"

/-- Binds the named parameters of a statement and records how many there were. -/
def bind (sql : String) (named : Members) (strict : Bool) : Log.Logged Error Prepared := do
  let prepared ← liftM ((bindNamed sql named strict).mapError Error.missingParameter)
  Log.emit bindSource .debug (boundMessage prepared.arguments.length named.length)
  return prepared

end SqlCompiler.Sql
