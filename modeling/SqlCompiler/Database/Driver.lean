import SqlCompiler.Database.Client

/-!
# Drivers

A client works on a connection through a driver, which hands out cursors, each for one statement. A
driver is given by what each of its operations does to its state `σ`: any of them may fail, and give
whatever it likes. A cursor that was handed out is released however the work on it ended.
-/

namespace SqlCompiler

/-- A computation on the state of a driver. -/
abbrev Driving (σ : Type) := ExceptT ClientFailure (StateM σ)

/-- The operations of a driver whose cursors are values of `κ`. A cursor comes with a statement that
has run, or is asked for and then runs one. -/
structure Driver (σ κ : Type) where
  cursor : Driving σ κ
  runOnNew : String → List Value → Driving σ κ
  run : κ → String → Option (List Value) → Driving σ Unit
  isDescribed : κ → Driving σ Bool
  rowCount : κ → Driving σ Int
  lastRow : κ → Driving σ Value
  fetchOne : κ → Driving σ (Option Row)
  fetchAll : κ → Driving σ (List Row)
  leaveCursor : κ → Driving σ Unit
  closeCursor : κ → Driving σ Unit
  close : Driving σ Unit

namespace Driving

variable {σ κ α : Type}

/-- Runs a computation, and then releases what it used however it ended. A failure of releasing
counts over an earlier one. -/
def releasing (release : Driving σ Unit) (action : Driving σ α) : Driving σ α :=
  ExceptT.mk fun s =>
    let (result, s) := action.run s
    match release.run s with
    | (.ok (), s) => (result, s)
    | (.error e, s) => (.error e, s)

/-- Obtains a cursor, and runs a computation on it. A cursor that could not be obtained is not
released. -/
def withCursor (obtain : Driving σ κ) (release : κ → Driving σ Unit)
    (action : κ → Driving σ α) : Driving σ α := do
  let c ← obtain
  releasing (release c) (action c)

end Driving

/-- The number of affected rows that a cursor tells, which is not negative here. -/
def Driver.affectedRows {σ κ : Type} (d : Driver σ κ) (c : κ) : Driving σ Int :=
  return max (← d.rowCount c) 0

end SqlCompiler
