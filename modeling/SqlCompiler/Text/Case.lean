import SqlCompiler.Text.CaseTable

/-!
# Upper and lower case

The full mappings of Unicode: one character may become several (`ß` in upper case is `SS`), and a
capital sigma that ends a word becomes the final sigma.
-/

namespace SqlCompiler.Text

/-- Image of a code point under a table of runs and a table of special cases. -/
def mapCode (runs : List ShiftRun) (special : List (Nat × List Nat)) (code : Nat) : List Nat :=
  match special.lookup code with
  | some codes => codes
  | none => [(runs.findSome? fun run => run.apply? code).getD code]

/-- Lower case of one character, wherever it stands. -/
def lowerChar (c : Char) : List Char :=
  if c.toNat < 128 then [c.toLower]
  else (mapCode lowerRuns lowerSpecial c.toNat).map Char.ofNat

/-- Upper case of one character. -/
def upperChar (c : Char) : List Char :=
  if c.toNat < 128 then [c.toUpper]
  else (mapCode upperRuns upperSpecial c.toNat).map Char.ofNat

/-- Whether the nearest character that counts, going away from a sigma, is a letter with case. -/
def nextIsCased (s : List Char) : Bool :=
  match s.dropWhile fun c => caseIgnorableRanges.contains c.toNat with
  | [] => false
  | c :: _ => casedRanges.contains c.toNat

/-- Lower case of a text whose reversed beginning is `before`. -/
def lowerFrom (before : List Char) : List Char → List Char
  | [] => []
  | c :: rest =>
    (if c = 'Σ' then (if nextIsCased before && !nextIsCased rest then ['ς'] else ['σ'])
      else lowerChar c) ++ lowerFrom (c :: before) rest

/-- The lower case of a text. -/
def lower (s : String) : String :=
  String.ofList (lowerFrom [] s.toList)

/-- The upper case of a text. -/
def upper (s : String) : String :=
  String.ofList (s.toList.flatMap upperChar)

example : lowerFrom [] "ΣΑΣ Σ.".toList = "σας σ.".toList := by decide +kernel
example : "straße İ".toList.flatMap upperChar = "STRASSE İ".toList := by decide +kernel

end SqlCompiler.Text
