import SqlCompiler.Text.PrintableTable

/-!
# Printable characters
-/

namespace SqlCompiler.Text

/-- A character with a visible form, or the space. -/
def isPrintable (c : Char) : Bool :=
  (32 ≤ c.toNat && c.toNat < 127) || printableRanges.contains c.toNat

example : isPrintable 'é' ∧ ¬ isPrintable '\u007f' ∧ ¬ isPrintable '\u200b' := by decide +kernel

end SqlCompiler.Text
