import SqlCompiler.Sql.Fragment
import SqlCompiler.Value.Equal
import SqlCompiler.Value.Sum

/-!
# Terms

An expression denotes a fragment of a statement or a value that is none. Fragments can be put
together and joined, and so can values of one kind; what would mix them is refused. Fragments are
the same when they are built alike, values when they are equal.
-/

namespace SqlCompiler.Sql

/-- What an expression denotes: a fragment, or a value that is none. -/
inductive Term
  | fragment (f : Fragment)
  | value (v : Value)

/-- The fragments that terms denote, all of them fragments. -/
def Fragment.ofTermList : List Term → Except FragmentError (List Fragment)
  | [] => .ok []
  | .fragment f :: rest => return f :: (← ofTermList rest)
  | .value v :: _ => .error (.partNotFragment v.kind)

/-- The sequence of terms. -/
def Fragment.ofTerms (terms : List Term) : Except FragmentError Fragment :=
  return .sequence (← ofTermList terms)

/-- A separator between any two of the terms. -/
def Fragment.join (separator : Fragment) (terms : List Term) : Except FragmentError Fragment :=
  return .sequence (interleave separator (← ofTermList terms))

/-- A verbatim text. -/
def Fragment.ofText : Value → Except FragmentError Fragment
  | .text s => .ok (.verbatim s)
  | v => .error (.verbatimNotText v.kind)

/-- The names of an identifier: at least one, all of them texts that are not empty. -/
def Fragment.ofNames (names : List Value) : Except FragmentError Fragment :=
  if names.isEmpty then .error .noName
  else
    return .identifier (← names.mapM fun
      | .text s => if s.isEmpty then .error (.badName (.text s)) else .ok s
      | v => .error (.badName v))

/-- The members that a term can be run through for. -/
def Term.members : Term → Except FragmentError (List Term)
  | .fragment (.sequence parts) => .ok (parts.map .fragment)
  | .fragment _ => .error .notIterable
  | .value v => v.elements?.elim (.error .notIterable) fun items => .ok (items.map .value)

/-- The sequence of a term's members. -/
def Fragment.ofMembers (t : Term) : Except FragmentError Fragment := do
  ofTerms (← t.members)

namespace Term

/-- The texts that terms are, all of them texts. -/
def texts : List Term → Except FragmentError (List String)
  | [] => .ok []
  | .value (.text s) :: rest => return s :: (← texts rest)
  | _ :: _ => .error .cannotJoin

/-- The bytes that terms are, all of them bytes. -/
def byteRuns : List Term → Except FragmentError (List (List UInt8))
  | [] => .ok []
  | .value (.bytes bs) :: rest => return bs :: (← byteRuns rest)
  | _ :: _ => .error .cannotJoin

/-- A text or bytes between any two members of another term. -/
def joinValues (separator : Value) (joined : Term) : Except FragmentError Term := do
  match separator with
  | .text s => return .value (.text (joinWith s (← texts (← joined.members))))
  | .bytes bs => return .value (.bytes (List.intercalate bs (← byteRuns (← joined.members))))
  | _ => throw .noJoin

/-- The members of a sequence with a separator between any two, which a text can be too. Anything
else in place of the sequence is itself the separator of the other term's members. -/
def join (whole joiner : Term) : Except FragmentError Term :=
  match whole, joiner with
  | fragment (.sequence parts), fragment (.verbatim s)
  | fragment (.sequence parts), value (.text s) => .ok (fragment (.joined s parts))
  | fragment (.sequence parts), value v => joinValues v (fragment (.sequence parts))
  | fragment (.verbatim s), joiner => do
    return fragment (← Fragment.join (.verbatim s) (← joiner.members))
  | value v, joiner => joinValues v joiner
  | _, _ => .error .noJoin

/-- One term behind the other, or their sum. -/
def add : Term → Term → Except FragmentError Term
  | fragment a, fragment b => .ok (fragment (a.append b))
  | value v, value w => (v.plus? w).elim (.error .cannotAdd) fun sum => .ok (value sum)
  | _, _ => .error .cannotAdd

/-- Whether two terms are the same. -/
def alike : Term → Term → Bool
  | fragment a, fragment b => a.alike b
  | value v, value w => v.equal w
  | _, _ => false

/-- Whether a term is the same as itself, which only a number can fail to be. -/
def isReflexive : Term → Bool
  | value v => v.isSelfEqual
  | fragment _ => true

/-- Whether terms are the same, for each two of them. -/
def comparisons (terms : List Term) : List (List Bool) :=
  terms.zipIdx.map fun (a, i) => terms.zipIdx.map fun (b, j) =>
    if i = j then a.isReflexive else alike a b

/-- Whether a term can be a member of a set. -/
def isKey : Term → Bool
  | fragment _ => true
  | value v => v.isKey

/-- The terms that are like no earlier one, all of them possible members of a set. -/
def distinct (terms : List Term) : Except FragmentError (List Term) :=
  if terms.all isKey then
    .ok (terms.foldl (fun seen a => if seen.any (alike · a) then seen else seen ++ [a]) [])
  else .error .notKey

end Term

end SqlCompiler.Sql
