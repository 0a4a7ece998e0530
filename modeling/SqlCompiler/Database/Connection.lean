import SqlCompiler.Database.Driver

/-!
# Scripted connections

A driver whose connection answers from a list of replies, one for each cursor, and records what is
asked of it and of its cursors: a step may fail, as the reply says.
-/

namespace SqlCompiler

/-- What one cursor does: whether it fails when it is opened, when its statement runs, when rows are
taken or when it is closed, and what it has to give. -/
structure CursorReply where
  openFailure : Option ClientFailure := none
  runFailure : Option ClientFailure := none
  fetchFailure : Option ClientFailure := none
  closeFailure : Option ClientFailure := none
  described : Bool := false
  rowCount : Int := -1
  lastRow : Value := .null
  rows : List Row := []

/-- How a server is used: whether each statement is a transaction of its own, the shape of rows, and
the kind of cursors. -/
structure ServerOptions where
  autocommit : Bool
  rowShape : String
  cursorKind : String
deriving DecidableEq

/-- How a database file is used: the way transactions begin by themselves, if they do, and whether
only the thread that opened it may use it. -/
structure FileOptions where
  isolation : Option String
  oneThread : Bool
deriving DecidableEq

/-- What a connection and its cursors are asked. -/
inductive ConnectionCall
  | connectServer (conninfo : String) (options : ServerOptions)
  | connectFile (file : Value) (options : FileOptions)
  | createFunction (name : String) (arity : Nat) (deterministic : Bool)
  | run (sql : String) (arguments : Option (List Value))
  | fetchOne
  | fetchAll
  | leaveCursor
  | closeCursor
  | close

/-- The replies to come, and the calls so far. -/
structure Connection where
  replies : List CursorReply
  calls : List ConnectionCall

/-- A computation on a connection. -/
abbrev Connected := Driving Connection

namespace Connected

/-- Records a call. -/
def note (c : ConnectionCall) : Connected Unit :=
  modify fun s => { s with calls := s.calls ++ [c] }

/-- Fails if there is a failure. -/
def check (failure : Option ClientFailure) : Connected Unit :=
  match failure with
  | some e => throw e
  | none => pure ()

/-- Takes the next reply. -/
def nextReply : Connected CursorReply := do
  let s ← get
  set { s with replies := s.replies.tail }
  return s.replies.headD {}

/-- Runs a statement on a cursor. -/
def runOn (r : CursorReply) (sql : String) (arguments : Option (List Value)) : Connected Unit := do
  note (.run sql arguments)
  check r.runFailure

end Connected

open Connected in
/-- The driver of a connection. Its cursors are the replies, and what a cursor tells about its
statement is read from the reply, which is no call. -/
def Connection.driver : Driver Connection CursorReply where
  cursor := do
    let r ← nextReply
    check r.openFailure
    return r
  runOnNew sql arguments := do
    let r ← nextReply
    runOn r sql (some arguments)
    return r
  run := runOn
  isDescribed r := return r.described
  rowCount r := return r.rowCount
  lastRow r := return r.lastRow
  fetchOne r := do
    note .fetchOne
    check r.fetchFailure
    return r.rows.head?
  fetchAll r := do
    note .fetchAll
    check r.fetchFailure
    return r.rows
  leaveCursor r := do
    note .leaveCursor
    check r.closeFailure
  closeCursor r := do
    note .closeCursor
    check r.closeFailure
  close := note .close

end SqlCompiler
