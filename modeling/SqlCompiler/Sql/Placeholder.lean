import SqlCompiler.Value.Display
import SqlCompiler.Sql.NullOrdering

/-!
# Parameters of statements

A statement marks its parameters by name (`:name`) or by question marks. Binding replaces the names
by question marks and gathers the arguments in order; numbering replaces the question marks by `$1`,
`$2`, and so on. Literals between apostrophes are copied by both, and so is the double colon of a
cast.
-/

namespace SqlCompiler.Sql

/-- Splits the rest of a literal off, behind its opening apostrophe, up to the apostrophe that
closes it. A doubled apostrophe belongs to the literal if a later one closes it, else its first half
closes the literal. -/
def literalTail? : List Char → Option (List Char × List Char)
  | [] => none
  | '\'' :: '\'' :: rest =>
    match literalTail? rest with
    | some (body, rest) => some ('\'' :: '\'' :: body, rest)
    | none => some (['\''], '\'' :: rest)
  | '\'' :: rest => some (['\''], rest)
  | c :: rest => (literalTail? rest).map fun (body, rest) => (c :: body, rest)

theorem literalTail?_append {s body rest : List Char} (h : literalTail? s = some (body, rest)) :
    body ++ rest = s := by
  fun_induction literalTail? s generalizing body rest with
  | case1 => simp at h
  | case2 tail b r hb ih => cases h; simp [ih hb]
  | case3 tail hb ih => cases h; rfl
  | case4 tail => cases h; rfl
  | case5 c tail _ _ ih =>
    obtain ⟨⟨b, r⟩, hb, he⟩ := Option.map_eq_some_iff.1 h
    cases he
    simp [ih hb]

theorem length_of_literalTail? {s body rest : List Char} (h : literalTail? s = some (body, rest)) :
    rest.length ≤ s.length := by
  rw [← literalTail?_append h]; simp

/-- The start of a parameter name. -/
def isParameterStart (c : Char) : Bool :=
  c.isAlpha || c == '_' || c == '$'

/-- The rest of a parameter name. -/
def isParameterChar (c : Char) : Bool :=
  c.isAlphanum || c == '_' || c == '$'

/-- A part of a statement with named parameters. -/
inductive NamedToken
  | copied (s : List Char)
  | parameter (name : List Char)
deriving DecidableEq

/-- The parts of a statement with named parameters, each as long as possible at its place: a
literal, a double colon, a parameter, or one character. -/
def namedTokens : List Char → List NamedToken
  | [] => []
  | ':' :: ':' :: rest => .copied [':', ':'] :: namedTokens rest
  | c :: rest =>
    if c = '\'' then
      match h : literalTail? rest with
      | some (body, tail) =>
        have := length_of_literalTail? h
        .copied (c :: body) :: namedTokens tail
      | none => .copied [c] :: namedTokens rest
    else if c = ':' ∧ rest.head?.any isParameterStart then
      have := (List.dropWhile_suffix isParameterChar (l := rest)).length_le
      .parameter (rest.takeWhile isParameterChar) :: namedTokens (rest.dropWhile isParameterChar)
    else .copied [c] :: namedTokens rest
termination_by s => s.length
decreasing_by all_goals simp only [List.length_cons]; omega

/-- A part of a statement with question marks. -/
inductive MarkedToken
  | copied (s : List Char)
  | mark
deriving DecidableEq

/-- The parts of a statement with question marks: a literal, a mark, or one character. -/
def markedTokens : List Char → List MarkedToken
  | [] => []
  | c :: rest =>
    if c = '\'' then
      match h : literalTail? rest with
      | some (body, tail) =>
        have := length_of_literalTail? h
        .copied (c :: body) :: markedTokens tail
      | none => .copied [c] :: markedTokens rest
    else if c = '?' then .mark :: markedTokens rest
    else .copied [c] :: markedTokens rest
termination_by s => s.length
decreasing_by all_goals simp only [List.length_cons]; omega

/-- A parameter that a statement mentions and the caller did not give. -/
structure MissingParameter where
  name : String
  available : List String
deriving DecidableEq

/-- The wording of the error; the names that were given are listed in order of their code points. -/
def MissingParameter.message (e : MissingParameter) : String :=
  "Parameter ':" ++ e.name ++ "' is not present in parameters " ++ Value.displayNames e.available

/-- A statement and the arguments of its question marks, in order. -/
structure Prepared where
  sql : String
  arguments : List Value

/-- What a value becomes in a statement: a list as many question marks as it has members, or `NULL`
if it has none. -/
def expand : Value → List Char × List Value
  | .list [] | .tuple [] => ("NULL".toList, [])
  | .list items | .tuple items => (items.map (fun _ => ['?']) |> List.intercalate [','], items)
  | v => (['?'], [v])

/-- Replaces the named parameters of a scanned statement. -/
def bindTokens (named : Members) (strict : Bool) :
    List NamedToken → Except MissingParameter (List Char × List Value)
  | [] => .ok ([], [])
  | .copied s :: rest => do
    let (text, args) ← bindTokens named strict rest
    return (s ++ text, args)
  | .parameter name :: rest => do
    let v ← match named.get? (String.ofList name) with
      | some v => .ok v
      | none =>
        if strict then
          .error ⟨String.ofList name, named.keys.mergeSort (fun a b => decide (a ≤ b))⟩
        else .ok .null
    let (head, first) := expand v
    let (text, args) ← bindTokens named strict rest
    return (head ++ text, first ++ args)

/-- Replaces the named parameters of a statement by question marks. A name that was not given is an
error, or null if the binding is not strict. -/
def bindNamed (sql : String) (named : Members) (strict : Bool) :
    Except MissingParameter Prepared := do
  let (text, args) ← bindTokens named strict (namedTokens sql.toList)
  return ⟨String.ofList text, args⟩

/-- Numbers the question marks of a scanned statement, from `next` on. -/
def numberTokens (next : Nat) : List MarkedToken → List Char
  | [] => []
  | .copied s :: rest => s ++ numberTokens next rest
  | .mark :: rest => '$' :: Text.digitsOn 10 next (numberTokens (next + 1) rest)

/-- Numbers the question marks of a statement, without its null ordering. -/
def numberMarks (sql : String) : String :=
  String.ofList (numberTokens 1 (markedTokens (stripNullOrdering sql).toList))

/-- A statement on one line: each run of blanks becomes a space, none at the ends. -/
def onOneLine (sql : String) : String :=
  String.ofList (Text.trimBoth Text.isBlank (Text.collapseBlanks sql.toList))

end SqlCompiler.Sql
