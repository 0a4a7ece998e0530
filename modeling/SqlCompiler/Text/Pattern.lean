import SqlCompiler.Text.Case
import SqlCompiler.Text.Digit
import SqlCompiler.Text.Word
import SqlCompiler.Text.Blank

/-!
# Patterns

A pattern is searched for in a text without regard to case. It is a row of characters and anchors:
`^` stands for the start of the text, `$` for its end or the line break that ends it, a backslash
makes the next character stand for itself, for a class of characters, or for the number of a
character.
-/

namespace SqlCompiler.Text

/-- A character in lower case, as one character. -/
def fold (c : Char) : Char :=
  if c.toNat < 128 then c.toLower else (lowerChar c).headD c

/-- Characters in lower case that differ and are still one letter. -/
def sameLetter : List (Nat × List Nat) :=
  [(105, [305]), (115, [383]), (181, [956]), (305, [105]), (383, [115]), (837, [953, 8126]),
   (912, [8147]), (944, [8163]), (946, [976]), (949, [1013]), (952, [977]), (953, [837, 8126]),
   (954, [1008]), (956, [181]), (960, [982]), (961, [1009]), (962, [963]), (963, [962]),
   (966, [981]), (976, [946]), (977, [952]), (981, [966]), (982, [960]), (1008, [954]),
   (1009, [961]), (1013, [949]), (1074, [7296]), (1076, [7297]), (1086, [7298]), (1089, [7299]),
   (1090, [7300, 7301]), (1098, [7302]), (1123, [7303]), (7296, [1074]), (7297, [1076]),
   (7298, [1086]), (7299, [1089]), (7300, [1090, 7301]), (7301, [1090, 7300]), (7302, [1098]),
   (7303, [1123]), (7304, [42571]), (7777, [7835]), (7835, [7777]), (8126, [837, 953]),
   (8147, [912]), (8163, [944]), (42571, [7304]), (64261, [64262]), (64262, [64261])]

/-- Whether two characters are the same up to case. -/
def alikeChar (a b : Char) : Bool :=
  let x := fold a
  let y := fold b
  x == y || ((sameLetter.lookup x.toNat).getD []).contains y.toNat

/-- A part of a pattern. -/
inductive PatternItem
  | char (c : Char)
  | digit (expected : Bool)
  | word (expected : Bool)
  | blank (expected : Bool)
  | textStart
  | lineEnd
  | textEnd
  | boundary (expected : Bool)
  | nowhere
deriving DecidableEq

namespace PatternItem

/-- What a backslash and a letter stand for. -/
def ofLetter? (c : Char) : Option PatternItem :=
  match c with
  | 'd' => some (digit true)
  | 'D' => some (digit false)
  | 'w' => some (word true)
  | 'W' => some (word false)
  | 's' => some (blank true)
  | 'S' => some (blank false)
  | 'A' => some textStart
  | 'Z' => some textEnd
  | 'b' => some (boundary true)
  | 'B' => some (boundary false)
  | 'n' => some (char '\n')
  | 't' => some (char '\t')
  | 'r' => some (char '\r')
  | 'f' => some (char '\x0c')
  | 'v' => some (char '\x0b')
  | 'a' => some (char '\x07')
  | _ => none

/-- The character of a number. Half of a surrogate pair occurs in no text. -/
def ofNumber? (n : Nat) : Option PatternItem :=
  if n.isValidChar then some (char (Char.ofNat n))
  else if n < 0xE000 then some nowhere
  else none

/-- Reads the number of a character, in so many digits of a base. -/
def readNumber? (base count : Nat) (s : List Char) : Option (PatternItem × List Char) := do
  let (n, rest) ← Text.readDigits? base count s
  return (← ofNumber? n, rest)

/-- An octal digit. -/
def isOctalDigit (c : Char) : Bool :=
  '0' ≤ c && c < '8'

/-- Reads an octal number: up to three digits if the first one is zero, else just three. -/
def readOctal? (s : List Char) : Option (PatternItem × List Char) :=
  let digits := (s.take 3).takeWhile isOctalDigit
  if s.head? = some '0' then readNumber? 8 digits.length s
  else
    (Text.readDigits? 8 3 s).bind fun (n, rest) =>
      if n < 256 then some (char (Char.ofNat n), rest) else none

/-- Reads what a backslash and the characters behind it stand for. A letter without a meaning does
not stand for itself. -/
def readEscape? : List Char → Option (PatternItem × List Char)
  | [] => none
  | 'x' :: rest => readNumber? 16 2 rest
  | 'u' :: rest => readNumber? 16 4 rest
  | 'U' :: rest => readNumber? 16 8 rest
  | c :: rest =>
    if c.isDigit then readOctal? (c :: rest)
    else if c.isAlpha then (ofLetter? c).map (·, rest)
    else some (char c, rest)

/-- Reads the parts of a written pattern, at most `bound` of them. -/
def readWithin? (bound : Nat) (s : List Char) : Option (List PatternItem) :=
  match bound, s with
  | _, [] => some []
  | 0, _ => none
  | bound + 1, c :: rest => do
    let (item, rest) ← match c with
      | '\\' => readEscape? rest
      | '^' => some (textStart, rest)
      | '$' => some (lineEnd, rest)
      | c => some (char c, rest)
    return item :: (← readWithin? bound rest)

/-- The parts of a written pattern, of which there are no more than characters. -/
def ofChars? (s : List Char) : Option (List PatternItem) :=
  readWithin? s.length s

/-- Whether a part that takes one character takes this one; none for an anchor. -/
def takes? : PatternItem → Char → Option Bool
  | char p, c => some (alikeChar p c)
  | digit expected, c => some (isDecimalDigit c == expected)
  | word expected, c => some (isWord c == expected)
  | blank expected, c => some (isBlank c == expected)
  | nowhere, _ => some false
  | textStart, _ | lineEnd, _ | textEnd, _ | boundary _, _ => none

/-- Whether an anchor holds between the character before and the rest of the text. An empty text has
no place that is or is no boundary. -/
def holds (before : Option Char) (rest : List Char) : PatternItem → Bool
  | textStart => before.isNone
  | lineEnd => rest == [] || rest == ['\n']
  | textEnd => rest == []
  | boundary expected =>
    (before.isSome || !rest.isEmpty) && (before.any isWord != rest.head?.any isWord) == expected
  | char _ | digit _ | word _ | blank _ | nowhere => false

/-- Whether a text starts with a pattern, given the character before it. -/
def matchesAt (before : Option Char) : List PatternItem → List Char → Bool
  | [], _ => true
  | item :: items, [] => item.holds before [] && matchesAt before items []
  | item :: items, c :: rest =>
    match item.takes? c with
    | some taken => taken && matchesAt (some c) items rest
    | none => item.holds before (c :: rest) && matchesAt before items (c :: rest)
termination_by items => items.length

/-- Whether a pattern occurs in a text, given the character before it. -/
def occursFrom (before : Option Char) (items : List PatternItem) : List Char → Bool
  | [] => matchesAt before items []
  | c :: rest => matchesAt before items (c :: rest) || occursFrom (some c) items rest

end PatternItem

/-- Whether a pattern occurs in a text, without regard to case; none if it is no pattern. -/
def occurs? (pattern s : String) : Option Bool :=
  (PatternItem.ofChars? pattern.toList).map fun items => PatternItem.occursFrom none items s.toList

example : occurs? "^AL" "alpha" = some true := by decide +kernel
example : occurs? "a$" "ba\n" = some true := by decide +kernel
example : occurs? "^b" "a\nb" = some false := by decide +kernel
example : occurs? "\\x41\\." "a." = some true := by decide +kernel
example : occurs? "\\q" "q" = none := by decide +kernel

end SqlCompiler.Text
