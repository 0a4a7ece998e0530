import SqlCompiler.Error
import SqlCompiler.Log.Basic

/-!
# Clients

A client runs finished statements on one connection. It is given by what each of its operations does
to its state `σ`, so that anything with such operations is a client: a connection to a database
system, or a script of replies. Work on a client goes through a session, which also holds the log.
-/

namespace SqlCompiler

/-- A row of a result: its values by column. -/
abbrev Row := Members

/-- What a statement without rows gives. -/
structure Outcome where
  affectedRows : Int
  lastInsertId : Value

/-- The operations of a client on its state. -/
structure Client (σ : Type) where
  query : String → List Value → σ → Except ClientFailure (List Row) × σ
  execute : String → List Value → σ → Except ClientFailure Outcome × σ
  close : σ → Except ClientFailure Unit × σ

/-- The state of a client, and the log. -/
structure Session (σ : Type) where
  client : σ
  journal : Log.Journal

/-- A computation on a client that may fail and writes to the log. What was done before a failure
stays done. -/
abbrev Access (σ : Type) := ExceptT Error (StateM (Session σ))

namespace Access

variable {σ α : Type}

/-- A computation that does not use the client. -/
def logged (action : Log.Logged Error α) : Access σ α :=
  ExceptT.mk fun s =>
    let (result, journal) := action.run s.journal
    (result, { s with journal })

/-- An operation of the client. Its failure is a value here. -/
def call (operation : σ → Except ClientFailure α × σ) : Access σ (Except ClientFailure α) :=
  ExceptT.mk fun s =>
    let (reply, client) := operation s.client
    (.ok reply, { s with client })

/-- Runs a computation as a block of the log. -/
def block (change : Log.Change) (action : Access σ α) : Access σ α :=
  ExceptT.mk fun s =>
    let (result, inner) := action.run { s with journal := s.journal.enter change }
    (result, { inner with journal := inner.journal.leave })

/-- Runs a computation, and then another one however the first ended. A failure of the second counts
over that of the first. -/
def andFinally (action : Access σ α) (last : Access σ Unit) : Access σ α :=
  ExceptT.mk fun s =>
    let (result, s) := action.run s
    match last.run s with
    | (.ok (), s) => (result, s)
    | (.error e, s) => (.error e, s)

end Access

end SqlCompiler
