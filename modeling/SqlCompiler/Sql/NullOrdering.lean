import SqlCompiler.Text.Blank
import SqlCompiler.Text.Word

/-!
# Removing the null ordering

`ORDER BY NULL` asks for no order at all, which one dialect has a use for and the others refuse. It
is removed from a text wherever it stands as whole words, together with the blanks before it.
-/

namespace SqlCompiler.Sql

/-- The clause that is removed. -/
def nullOrdering : List Char :=
  "ORDER BY NULL".toList

/-- Whether a word may start or end next to the character, or at an end of the text. -/
def isBoundary : Option Char → Bool
  | none => true
  | some c => !Text.isWord c

/-- The text behind the clause and the blanks before it, if both stand here. `previous` is the
character before this place. -/
def nullOrderingRest? (previous : Option Char) (s : List Char) : Option (List Char) :=
  let body := s.dropWhile Text.isBlank
  let rest := body.drop nullOrdering.length
  if nullOrdering.isPrefixOf body && (body.length < s.length || isBoundary previous)
      && isBoundary rest.head? then some rest else none

/-- Removes the clause from the text behind the character `previous`, in at most `bound` steps. -/
def stripNullOrderingFrom (bound : Nat) (previous : Option Char) (s : List Char) : List Char :=
  match bound, s with
  | 0, s => s
  | _, [] => []
  | bound + 1, c :: tail =>
    match nullOrderingRest? previous (c :: tail) with
    | some rest => stripNullOrderingFrom bound nullOrdering.getLast? rest
    | none => c :: stripNullOrderingFrom bound (some c) tail

/-- A text without the clause. -/
def stripNullOrdering (s : String) : String :=
  String.ofList (stripNullOrderingFrom s.toList.length none s.toList)

end SqlCompiler.Sql
