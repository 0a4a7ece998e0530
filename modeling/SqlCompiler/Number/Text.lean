import SqlCompiler.Number.Shortest
import SqlCompiler.Text.Digit

/-!
# Numbers as text

A binary number is written with its shortest digits: positionally while the decimal exponent is from
-4 to 15, with at least one digit after the point, else with an exponent of at least two digits.
What is not finite has a name, and the names are those of a `NumberStyle`. A whole number is written
with all its digits, however many they are.
-/

namespace SqlCompiler

/-- The decimal digits of a whole number, with its sign. -/
def intText (n : Int) : String :=
  let digits := String.ofList (Text.digitsOn 10 n.natAbs [])
  if n < 0 then "-" ++ digits else digits

/-- Digits and the position of the point among them, written positionally. -/
def positional (digits : List Char) (point : Int) : List Char :=
  match point with
  | .negSucc k => "0.".toList ++ List.replicate (k + 1) '0' ++ digits
  | .ofNat 0 => "0.".toList ++ digits
  | .ofNat k =>
    if digits.length ≤ k then digits ++ List.replicate (k - digits.length) '0' ++ ".0".toList
    else digits.take k ++ '.' :: digits.drop k

/-- A digit, the others behind a point, and the exponent in at least two digits. -/
def scientific (digits : List Char) (exponent : Int) : List Char :=
  let mantissa := match digits with
    | [d] => [d]
    | d :: rest => d :: '.' :: rest
    | [] => []
  mantissa ++ 'e' :: (if exponent < 0 then '-' else '+') :: (Text.padded 2 exponent.natAbs).toList

/-- How a number that is not finite is written. -/
structure NumberStyle where
  nan : String
  infinity : String

namespace Double

/-- The text of a number. -/
def text (style : NumberStyle) (x : Double) : String :=
  match x.view with
  | .nan => style.nan
  | .infinite negative => (if negative then "-" else "") ++ style.infinity
  | .finite negative mantissa exponent =>
    let body := if mantissa = 0 then "0.0".toList else
      let (coefficient, power) := Shortest.decimal mantissa exponent
      let digits := Text.digitsOn 10 coefficient []
      let point := power + digits.length
      if -4 < point && point ≤ 16 then positional digits point
      else scientific digits (point - 1)
    (if negative then "-" else "") ++ String.ofList body

/-- Small names: `inf` and `nan`. -/
def plainStyle : NumberStyle := ⟨"nan", "inf"⟩

/-- The names of JSON documents that admit them: `Infinity` and `NaN`. -/
def jsonStyle : NumberStyle := ⟨"NaN", "Infinity"⟩

end Double

end SqlCompiler
