import SqlCompiler.Number.Decimal
import SqlCompiler.Text.Blank

/-!
# Numbers read from text

Two grammars for whole numbers. A *setting* may use the digits of any script. A *field* of a
document uses ASCII digits, may group them by single low lines, may have idle zeros in front, and
may carry a fraction of zeros. A field for a binary number takes decimal numbers and the names of
what is not finite, and so does an exact number, in the digits of any script.
-/

namespace SqlCompiler.Numeral

/-- Splits a sign off. -/
def signed : List Char → Bool × List Char
  | '-' :: rest => (true, rest)
  | '+' :: rest => (false, rest)
  | s => (false, s)

/-- Gives a magnitude its sign. -/
def withSign (negative : Bool) (n : Nat) : Int :=
  if negative then -(n : Int) else n

/-- The most characters that a whole number may have to be read. The limit is one of reading only: a
longer number that was computed or put together is written with all its digits (`intText`). -/
def maxLength : Nat :=
  4300

/-! ## Settings -/

/-- Digits with single low lines between them, without the low lines. -/
def ungroup (isDigit : Char → Bool) : List Char → Option (List Char)
  | [] => none
  | [c] => if isDigit c then some [c] else none
  | c :: '_' :: rest => if isDigit c then (ungroup isDigit rest).map (c :: ·) else none
  | c :: rest => if isDigit c then (ungroup isDigit rest).map (c :: ·) else none

/-- The number in a setting: white space around it, a sign, grouped digits of any script. -/
def ofSetting? (s : String) : Option Int := do
  let (negative, body) := signed (Text.trimBoth Text.isSpaceProperty s.toList)
  let digits ← ungroup Text.isDecimalDigit body
  if maxLength < digits.length then none
  return withSign negative (← Text.digitsValue? digits)

/-! ## Whole numbers in fields -/

/-- Why the text of a field is no whole number. -/
inductive Fault
  | unreadable
  | tooLong
deriving DecidableEq

/-- The number of digits without idle zeros, behind a minus sign or none. -/
def ofDigits (s : List Char) : Except Fault Int :=
  let (negative, body) : Bool × List Char := match s with
    | '-' :: rest => (true, rest)
    | _ => (false, s)
  match body with
  | ['0'] => .ok 0
  | '0' :: _ => .error .unreadable
  | _ =>
    let digits := body.takeWhile Char.isDigit
    if maxLength < digits.length + (if negative then 1 else 0) then .error .tooLong
    else if digits.isEmpty || digits.length < body.length then .error .unreadable
    else .ok (withSign negative ((Text.digitsValue? digits).getD 0))

/-- Whether idle zeros may stand in front of a character: of a digit that is no zero, or of a minus
sign. -/
def startsNumber (c : Char) : Bool :=
  c == '-' || (c.isDigit && c != '0')

/-- Drops idle zeros in front, and the low lines among them. The last of them is kept when nothing
or a point follows. -/
def dropZeros? (s : List Char) : Option (List Char) :=
  match s with
  | '0' :: _ =>
    let zeros := s.takeWhile fun c => c == '0' || c == '_'
    match s.drop zeros.length with
    | [] => some zeros.getLast?.toList
    | c :: rest =>
      if startsNumber c then some (c :: rest)
      else if c = '.' then some (zeros.getLast?.toList ++ c :: rest)
      else none
  | c :: _ => if startsNumber c then some s else none
  | [] => none

/-- Drops a fraction of zeros, of which there is at least one. -/
def dropZeroFraction (s : List Char) : List Char :=
  match s.span (· != '.') with
  | (whole, '.' :: '0' :: fraction) => if fraction.all (· == '0') then whole else s
  | _ => s

/-- Whether two low lines stand side by side. -/
def hasDoubleLine : List Char → Bool
  | '_' :: '_' :: _ => true
  | _ :: rest => hasDoubleLine rest
  | [] => false

/-- Drops single low lines inside a text. -/
def dropLines? (s : List Char) : Option (List Char) :=
  if s.head? = some '_' || s.getLast? = some '_' || hasDoubleLine s then none
  else some (s.filter (· != '_'))

/-- A text without the liberties that a field takes: white space around it, a plus sign, idle zeros,
a fraction of zeros, low lines. -/
def tidy? (s : List Char) : Option (List Char) :=
  match Text.trimBoth Text.isSpaceProperty s with
  | '+' :: '-' :: _ => none
  | '+' :: body => clean? body
  | body => clean? body
where
  /-- What is left of the text behind its plus sign. -/
  clean? (body : List Char) : Option (List Char) := do
    dropLines? (dropZeroFraction (← dropZeros? body))

/-- The whole number in a field. -/
def ofField (s : String) : Except Fault Int :=
  match ofDigits s.toList with
  | .error .unreadable =>
    match tidy? s.toList with
    | some digits => ofDigits digits
    | none => .error .unreadable
  | result => result

/-! ## Binary numbers in fields -/

/-- A decimal number, or the name of what is not finite in any case, behind a sign or none. -/
def ofDecimal? (s : List Char) : Option Double :=
  let (negative, body) := signed s
  match String.ofList (body.map Char.toLower) with
  | "inf" | "infinity" => some (Double.infinity negative)
  | "nan" => some Double.nan
  | _ => (Decimal.ofMagnitude? negative body).map Decimal.toDouble

/-- The binary number in a field: white space around it, or low lines inside it. -/
def realOfField? (s : String) : Option Double :=
  (ofDecimal? (Text.trimBoth Text.isSpaceProperty s.toList)).or
    ((dropLines? s.toList).bind ofDecimal?)

/-! ## Exact numbers -/

/-- Whether a text means an exact decimal number, or what is not finite in any case. White space
around it, low lines anywhere and digits of any script are taken. -/
def isExact (s : String) : Bool :=
  let plain := ((Text.strip s).toList.filter (· != '_')).map fun c =>
    ((Text.decimalDigit? c).map Nat.digitChar).getD c
  let (negative, body) := signed plain
  let name := body.map Char.toLower
  ["inf", "infinity"].contains (String.ofList name)
    || ["nan", "snan"].any (fun start =>
      start.toList.isPrefixOf name && (name.drop start.length).all Char.isDigit)
    || (Decimal.ofMagnitude? negative body).isSome

example : (ofField " +007.00 ").toOption = some 7 := by decide
example : (ofField "0_.0").toOption = none := by decide
example : (ofField "7.").toOption = none := by decide
example : (ofField "00_-1_000").toOption = some (-1000) := by decide
example : isExact " -1_0.5E+3" = true ∧ isExact "1 0" = false := by decide
example : realOfField? "-.5e1" = some (Double.ofInt (-5)) := by decide

end SqlCompiler.Numeral
