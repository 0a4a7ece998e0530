import SqlCompiler.Database.Client

/-!
# Scripted clients

A client that answers from a list of replies and records what it is asked. When the replies run out,
results are empty.
-/

namespace SqlCompiler

/-- One reply of a scripted client: a failure, or the rows and the outcome to give. -/
structure Reply where
  failure : Option ClientFailure := none
  rows : List Row := []
  outcome : Outcome := ⟨0, .null⟩

/-- What a client was asked. -/
inductive ClientCall
  | query (sql : String) (arguments : List Value)
  | execute (sql : String) (arguments : List Value)
  | close

/-- The replies to come, and the calls so far. -/
structure Script where
  replies : List Reply
  calls : List ClientCall

namespace Script

/-- Records a call, and gives the next reply. -/
def next (s : Script) (c : ClientCall) : Reply × Script :=
  (s.replies.headD {}, ⟨s.replies.tail, s.calls ++ [c]⟩)

/-- A part of a reply, unless the reply is a failure. -/
def part {α : Type} (r : Reply) (a : α) : Except ClientFailure α :=
  match r.failure with
  | some failure => .error failure
  | none => .ok a

/-- The client that answers from a script. -/
def client : Client Script where
  query sql arguments s :=
    let (r, s) := s.next (.query sql arguments)
    (part r r.rows, s)
  execute sql arguments s :=
    let (r, s) := s.next (.execute sql arguments)
    (part r r.outcome, s)
  close s := (.ok (), { s with calls := s.calls ++ [.close] })

end Script

end SqlCompiler
