import SqlCompiler.Text.DigitTable

/-!
# Digits

The value of a decimal digit of any script, and texts that consist of digits.
-/

namespace SqlCompiler.Text

/-- The value of a decimal digit of any script. -/
def decimalDigit? (c : Char) : Option Nat :=
  digitZeros.findSome? fun first =>
    if first ≤ c.toNat && c.toNat < first + 10 then some (c.toNat - first) else none

/-- A decimal digit of any script. -/
def isDecimalDigit (c : Char) : Bool :=
  (decimalDigit? c).isSome

/-- The value of a hexadecimal digit. -/
def hexDigit? (c : Char) : Option Nat :=
  if '0' ≤ c && c ≤ '9' then some (c.toNat - '0'.toNat)
  else if 'a' ≤ c && c ≤ 'f' then some (c.toNat - 'a'.toNat + 10)
  else if 'A' ≤ c && c ≤ 'F' then some (c.toNat - 'A'.toNat + 10)
  else none

/-- Anything that looks like a digit, superscripts and circled numbers included. -/
def looksLikeDigit (c : Char) : Bool :=
  isDecimalDigit c || otherDigitRanges.contains c.toNat

/-- The number that digits denote, the first one the highest. -/
def natOfDigits (digits : List Nat) : Nat :=
  digits.foldl (fun n d => 10 * n + d) 0

/-- The number that a run of decimal digits of any script denotes. -/
def digitsValue? (s : List Char) : Option Nat :=
  (s.mapM decimalDigit?).map natOfDigits

/-- The number that so many digits in front denote in a base up to sixteen, and what follows them. -/
def readDigits? (base count : Nat) (s : List Char) : Option (Nat × List Char) :=
  let digits := (s.take count).filterMap fun c => (hexDigit? c).filter (· < base)
  if digits.length = count then some (digits.foldl (fun n d => base * n + d) 0, s.drop count)
  else none

/-- The digits of a number in a base up to sixteen, letters in lower case, put before `tail`. -/
def digitsOn (base : Nat) (n : Nat) (tail : List Char) : List Char :=
  if _h : base < 2 ∨ n < base then Nat.digitChar n :: tail
  else digitsOn base (n / base) (Nat.digitChar (n % base) :: tail)
termination_by n
decreasing_by exact Nat.div_lt_self (by omega) (by omega)

/-- A number in hexadecimal digits, in lower case. -/
def hex (n : Nat) : List Char :=
  digitsOn 16 n []

/-- A number in hexadecimal digits, with zeros in front up to the width. -/
def hexPadded (width : Nat) (n : Nat) : List Char :=
  List.leftpad width '0' (hex n)

/-- A number in decimal digits, with zeros in front up to the width. -/
def padded (width : Nat) (n : Nat) : String :=
  String.ofList (List.leftpad width '0' (digitsOn 10 n []))

end SqlCompiler.Text
