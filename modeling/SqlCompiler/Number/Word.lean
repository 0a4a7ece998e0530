/-!
# Machine words

A whole number fits a word of 64 bits, with a sign or without, if it lies between the bounds of the
word.
-/

namespace SqlCompiler.Word

/-- Two to the power of 63, the bound of the numbers in a word with a sign. -/
def signedBound : Int :=
  0x8000000000000000

/-- Two to the power of 64, the bound of the numbers in a word without a sign. -/
def unsignedBound : Int :=
  2 * signedBound

/-- Whether a number fits a word with a sign. -/
def fitsSigned (n : Int) : Bool :=
  -signedBound ≤ n && n < signedBound

/-- Whether a number fits a word without a sign. -/
def fitsUnsigned (n : Int) : Bool :=
  0 ≤ n && n < unsignedBound

example : fitsSigned (-signedBound) = true ∧ fitsSigned signedBound = false := by decide

end SqlCompiler.Word
