import SqlCompiler.Text.WordTable

/-!
# Words

A word is a maximal run of word characters: letters and digits of any script, and the low line.
-/

namespace SqlCompiler.Text

/-- Letter, digit or low line of ASCII. -/
def isAsciiWord (c : Char) : Bool :=
  c.isAlphanum || c == '_'

/-- Letter, digit, numeral or low line of any script. -/
def isWord (c : Char) : Bool :=
  isAsciiWord c || wordRanges.contains c.toNat

/-- Replaces every word of a text by `f` and keeps the rest. `pending` is the reversed start of the
word being read. -/
def mapWordsFrom (f : List Char → List Char) (pending : List Char) : List Char → List Char
  | [] => if pending.isEmpty then [] else f pending.reverse
  | c :: rest =>
    if isWord c then mapWordsFrom f (c :: pending) rest
    else (if pending.isEmpty then [] else f pending.reverse) ++ c :: mapWordsFrom f [] rest

/-- Replaces every word of a text by `f` and keeps the rest. -/
def mapWords (f : List Char → List Char) (s : List Char) : List Char :=
  mapWordsFrom f [] s

end SqlCompiler.Text
