import SqlCompiler.Text.Ranges

/-!
# Blank characters

White space in the wide sense: every separator of Unicode, the line and paragraph controls and the
four information separators. `isSpaceProperty` is the narrower property `White_Space`, which leaves
the information separators out.
-/

namespace SqlCompiler.Text

/-- Blank characters. -/
def blankRanges : Ranges :=
  [(9, 13), (28, 32), (133, 133), (160, 160), (5760, 5760), (8192, 8202), (8232, 8233),
    (8239, 8239), (8287, 8287), (12288, 12288)]

/-- White space in the wide sense. -/
def isBlank (c : Char) : Bool :=
  blankRanges.contains c.toNat

/-- The property `White_Space`: blank, and no information separator. -/
def isSpaceProperty (c : Char) : Bool :=
  isBlank c && !(28 ≤ c.toNat && c.toNat ≤ 31)

/-- Drops what satisfies `p` at both ends. -/
def trimBoth (p : Char → Bool) (s : List Char) : List Char :=
  ((s.dropWhile p).reverse.dropWhile p).reverse

/-- A text without the blanks at its ends. -/
def strip (s : String) : String :=
  String.ofList (trimBoth isBlank s.toList)

/-- Each run of blanks becomes one space. -/
def collapseBlanks : List Char → List Char
  | [] => []
  | c :: rest =>
    if isBlank c then
      match collapseBlanks rest with
      | ' ' :: tail => ' ' :: tail
      | tail => ' ' :: tail
    else c :: collapseBlanks rest

example : collapseBlanks "a \t\n b".toList = "a b".toList := by decide

end SqlCompiler.Text
