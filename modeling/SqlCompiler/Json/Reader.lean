import SqlCompiler.Value
import SqlCompiler.Text.Digit

/-!
# Reading JSON

Reads one JSON document. A number with a fraction or an exponent is a binary one, any other a whole
number of any size; the names `NaN`, `Infinity` and `-Infinity` are numbers too. Of members with one
key the last value counts, at the place of the first. Each reader takes an upper bound of the
characters left, which is what it recurses on.
-/

namespace SqlCompiler.Json

/-- Blank between the parts of a document. -/
def isGap (c : Char) : Bool :=
  c == ' ' || c == '\t' || c == '\n' || c == '\r'

/-- Drops the blanks in front. -/
def skipGap (s : List Char) : List Char :=
  s.dropWhile isGap

/-- Reads four hexadecimal digits. -/
def readUnit (s : List Char) : Option (Nat × List Char) :=
  Text.readDigits? 16 4 s

/-- Reads a UTF-16 unit, and with it a second one if both make a surrogate pair. -/
def readEscapedChar (s : List Char) : Option (Char × List Char) := do
  let (high, rest) ← readUnit s
  if 0xD800 ≤ high && high < 0xDC00 then
    match rest with
    | '\\' :: 'u' :: tail =>
      match readUnit tail with
      | some (low, tail) =>
        if 0xDC00 ≤ low && low < 0xE000 then
          return (Char.ofNat (0x10000 + (high - 0xD800) * 1024 + (low - 0xDC00)), tail)
        else return ('\ufffd', rest)
      | none => return ('\ufffd', rest)
    | _ => return ('\ufffd', rest)
  else if 0xDC00 ≤ high && high < 0xE000 then return ('\ufffd', rest)
  else return (Char.ofNat high, rest)

/-- The character that an escape letter stands for. -/
def escapedLetter? : Char → Option Char
  | '"' => some '"'
  | '\\' => some '\\'
  | '/' => some '/'
  | 'b' => some '\x08'
  | 'f' => some '\x0c'
  | 'n' => some '\n'
  | 'r' => some '\r'
  | 't' => some '\t'
  | _ => none

/-- Reads the rest of a string behind its opening quote, onto the reversed beginning. -/
def readString : Nat → List Char → List Char → Option (String × List Char)
  | 0, _, _ => none
  | _, _, [] => none
  | bound + 1, read, c :: rest =>
    if c = '"' then some (String.ofList read.reverse, rest)
    else if c = '\\' then
      match rest with
      | 'u' :: tail =>
        match readEscapedChar tail with
        | some (d, tail) => readString bound (d :: read) tail
        | none => none
      | e :: tail =>
        match escapedLetter? e with
        | some d => readString bound (d :: read) tail
        | none => none
      | [] => none
    else if c.toNat < 32 then none
    else readString bound (c :: read) rest

/-- Reads an exponent, if there is one. -/
def readExponent (s : List Char) : Option Int × List Char :=
  match s with
  | e :: rest =>
    if e = 'e' || e = 'E' then
      let (negative, body) : Bool × List Char := match rest with
        | '-' :: r => (true, r)
        | '+' :: r => (false, r)
        | r => (false, r)
      let digits := body.takeWhile Char.isDigit
      if digits.isEmpty then (none, s)
      else
        let n : Int := ((Text.digitsValue? digits).getD 0 : Nat)
        (some (if negative then -n else n), body.dropWhile Char.isDigit)
    else (none, s)
  | [] => (none, s)

/-- Reads a fraction, if there is one. -/
def readFractionDigits (s : List Char) : Option (List Char) × List Char :=
  match s with
  | '.' :: rest =>
    let digits := rest.takeWhile Char.isDigit
    if digits.isEmpty then (none, s) else (some digits, rest.dropWhile Char.isDigit)
  | _ => (none, s)

/-- Reads a number, behind its sign. -/
def readNumber (negative : Bool) (s : List Char) : Option (Value × List Char) :=
  let all := s.takeWhile Char.isDigit
  let whole := if all.head? = some '0' then ['0'] else all
  let rest := s.drop whole.length
  if whole.isEmpty then none
  else
    let (fraction, rest) := readFractionDigits rest
    let (exponent, rest) := readExponent rest
    let digits := whole ++ fraction.getD []
    let n := (Text.digitsValue? digits).getD 0
    if fraction.isNone && exponent.isNone then
      some (.int (if negative then -(n : Int) else n), rest)
    else
      let power := exponent.getD 0 - ((fraction.getD []).length : Int)
      some (.float (Double.ofScaled negative n power), rest)

/-- Names that stand for values. -/
def names : List (String × Value) :=
  [("null", .null), ("true", .bool true), ("false", .bool false), ("NaN", .float Double.nan),
    ("Infinity", .float (Double.infinity false)), ("-Infinity", .float (Double.infinity true))]

/-- Reads a name that stands for a value. -/
def readName (s : List Char) : Option (Value × List Char) :=
  names.findSome? fun (name, v) =>
    if name.toList.isPrefixOf s then some (v, s.drop name.length) else none

mutual

/-- Reads a value; blanks in front are skipped. -/
def readValue : Nat → List Char → Option (Value × List Char)
  | 0, _ => none
  | bound + 1, s =>
    match skipGap s with
    | '"' :: rest => (readString (rest.length + 1) [] rest).map fun (s, rest) => (.text s, rest)
    | '[' :: rest =>
      match skipGap rest with
      | ']' :: rest => some (.list [], rest)
      | rest => (readItems bound rest).map fun (items, rest) => (.list items, rest)
    | '{' :: rest =>
      match skipGap rest with
      | '}' :: rest => some (.object [], rest)
      | rest => (readMembers bound rest).map fun (members, rest) =>
        (.object (Members.merge [] members), rest)
    | s =>
      match readName s with
      | some found => some found
      | none =>
        match s with
        | '-' :: rest => readNumber true rest
        | s => readNumber false s

/-- Reads items up to the closing bracket. -/
def readItems : Nat → List Char → Option (List Value × List Char)
  | 0, _ => none
  | bound + 1, s => do
    let (v, rest) ← readValue bound s
    match skipGap rest with
    | ',' :: rest =>
      let (items, rest) ← readItems bound rest
      return (v :: items, rest)
    | ']' :: rest => return ([v], rest)
    | _ => none

/-- Reads members up to the closing brace. -/
def readMembers : Nat → List Char → Option (Members × List Char)
  | 0, _ => none
  | bound + 1, s =>
    match skipGap s with
    | '"' :: rest => do
      let (key, rest) ← readString (rest.length + 1) [] rest
      match skipGap rest with
      | ':' :: rest =>
        let (v, rest) ← readValue bound rest
        match skipGap rest with
        | ',' :: rest =>
          let (members, rest) ← readMembers bound rest
          return ((key, v) :: members, rest)
        | '}' :: rest => return ([(key, v)], rest)
        | _ => none
      | _ => none
    | _ => none

end

/-- The value of a document, which nothing but blanks may follow. -/
def parse? (s : String) : Option Value :=
  let chars := s.toList
  match readValue (2 * chars.length + 1) chars with
  | some (v, rest) => if (skipGap rest).isEmpty then some v else none
  | none => none

end SqlCompiler.Json
