/-!
# Ancestries

What a class inherits from stands in one row, nearest first. The row is merged from the rows of the
classes it is based on and the row of these classes themselves, so that it keeps the order of each;
there is none if the orders conflict.
-/

namespace SqlCompiler.Model.Ancestry

/-- The first head of a row that stands behind the head of none. -/
def nextHead? {α : Type} [BEq α] (rows : List (List α)) : Option α :=
  (rows.filterMap List.head?).find? fun a => rows.all fun row => !row.tail.contains a

/-- A row without its head, if that is the one given. -/
def dropHead {α : Type} [BEq α] (a : α) : List α → List α
  | [] => []
  | b :: rest => if a == b then rest else b :: rest

/-- Merges rows in at most `bound` steps. -/
def mergeWithin {α : Type} [BEq α] (bound : Nat) (rows : List (List α)) : Option (List α) :=
  match bound with
  | 0 => some []
  | bound + 1 =>
    if rows.all List.isEmpty then some []
    else do
      let a ← nextHead? rows
      return a :: (← mergeWithin bound (rows.map (dropHead a)))

/-- Merges rows into one that keeps the order of each. Every step takes a member away, so there are
no more steps than members. -/
def merge? {α : Type} [BEq α] (rows : List (List α)) : Option (List α) :=
  mergeWithin rows.flatten.length rows

example : merge? [[1, 4], [2, 4], [1, 2]] = some [1, 2, 4] := by decide
example : merge? [[1, 2], [2, 1], [1, 2]] = none := by decide

end SqlCompiler.Model.Ancestry
