/-!
# Cutting and joining texts
-/

namespace SqlCompiler.Text

/-- The parts between the occurrences of a character: one more than there are occurrences. -/
def splitAt (mark : Char) : List Char → List (List Char)
  | [] => [[]]
  | c :: rest =>
    if c = mark then [] :: splitAt mark rest
    else
      match splitAt mark rest with
      | part :: parts => (c :: part) :: parts
      | [] => [[c]]

/-- The parts of a text between the occurrences of a character. -/
def split (mark : Char) (s : String) : List String :=
  (splitAt mark s.toList).map String.ofList

/-- A text with each occurrence of a mark written twice. An empty mark has none. -/
def doubleMark (mark : List Char) : List Char → List Char
  | [] => []
  | c :: rest =>
    if mark.isPrefixOf (c :: rest) && !mark.isEmpty then
      mark ++ mark ++ doubleMark mark (rest.drop (mark.length - 1))
    else c :: doubleMark mark rest
termination_by s => s.length
decreasing_by all_goals simp only [List.length_drop, List.length_cons]; omega

/-- A text between two marks, with the marks inside written twice. -/
def enclose (mark s : String) : String :=
  mark ++ String.ofList (doubleMark mark.toList s.toList) ++ mark

example : split ',' "a,,b" = ["a", "", "b"] := by decide
example : enclose "'" "it's" = "'it''s'" := by cbv

end SqlCompiler.Text
