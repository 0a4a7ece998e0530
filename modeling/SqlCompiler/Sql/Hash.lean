import SqlCompiler.Sql.Fragment

/-!
# Hashes of fragments

A set compares a fragment only with those members that have its hash. The hash of a fragment is
made of its kind and of what fragments of the kind are compared by: a literal counts by its
display. How texts, kinds and rows of hashes are hashed is a parameter.
-/

namespace SqlCompiler.Sql

/-- Hashes of texts, of the kinds of fragments and of rows of hashes. -/
structure Hashing (η : Type) where
  text : String → η
  kind : String → η
  row : List η → η

namespace Fragment

variable {η : Type} (hashing : Hashing η)

/-- The hash of a kind and of what is compared. -/
def kindHash (kind : String) (key : η) : η :=
  hashing.row [hashing.kind kind, key]

mutual

/-- The hash of what a fragment is compared by among those of its kind. -/
def keyHash : Fragment → η
  | verbatim text => hashing.text text
  | identifier path => hashing.row (path.map hashing.text)
  | literal value => hashing.text value.display
  | placeholder => hashing.text "?"
  | sequence parts => hashing.row (hashAll parts)

/-- The hashes of fragments. -/
def hashAll : List Fragment → List η
  | [] => []
  | part :: rest => kindHash hashing part.kind (keyHash part) :: hashAll rest

end

/-- The hash of a fragment. -/
def hash (f : Fragment) : η :=
  kindHash hashing f.kind (keyHash hashing f)

variable [DecidableEq η]

/-- Puts a fragment into a set, unless a member with its hash is like it. -/
def insertInto (members : List Fragment) (f : Fragment) : List Fragment :=
  if members.any fun g => hash hashing g = hash hashing f && g.alike f then members
  else members ++ [f]

/-- The members of the set that fragments are put into one after the other. -/
def setOf (fs : List Fragment) : List Fragment :=
  fs.foldl (insertInto hashing) []

end Fragment

end SqlCompiler.Sql
