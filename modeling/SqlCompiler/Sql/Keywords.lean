import SqlCompiler.Text.Word

/-!
# Replacing keywords

Some dialects spell a keyword differently. The replacement works on whole words of a finished text.
-/

namespace SqlCompiler.Sql

/-- The replacement of a word, the word itself if it has none. -/
def respellWord (spellings : List (String × String)) (word : List Char) : List Char :=
  match spellings.lookup (String.ofList word) with
  | some replacement => replacement.toList
  | none => word

/-- Replaces every word of a text that has a replacement. -/
def respellWords (spellings : List (String × String)) (s : String) : String :=
  if spellings.isEmpty then s
  else String.ofList (Text.mapWords (respellWord spellings) s.toList)

end SqlCompiler.Sql
