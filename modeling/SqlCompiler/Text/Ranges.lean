/-!
# Sets of characters as ranges of code points

A property of Unicode is given as a list of inclusive ranges, a case mapping as a list of shifted
runs.
-/

namespace SqlCompiler.Text

/-- Inclusive ranges of code points. -/
abbrev Ranges := List (Nat × Nat)

/-- Membership of a code point. -/
def Ranges.contains (ranges : Ranges) (code : Nat) : Bool :=
  ranges.any fun (low, high) => low ≤ code && code ≤ high

/-- The code points `first, first + step, …, last`, each sent to itself plus `shift`. -/
abbrev ShiftRun := Nat × Nat × Nat × Int

/-- The image of a code point, if the run moves it. -/
def ShiftRun.apply? : ShiftRun → Nat → Option Nat
  | (first, last, step, shift), code =>
    if first ≤ code && code ≤ last && (code - first) % step == 0 then
      some (Int.toNat (code + shift))
    else none

end SqlCompiler.Text
