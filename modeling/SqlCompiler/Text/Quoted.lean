import SqlCompiler.Text.Digit
import SqlCompiler.Text.Printable

/-!
# Text shown in quotes

A text is shown between apostrophes, or between double quotes when it holds an apostrophe and no
double quote. Backslash, the quote in use and everything without a visible form are escaped, so the
shown text stands on one line and determines the text.
-/

namespace SqlCompiler.Text

/-- The quote that a text is shown in. -/
def quoteFor (s : List Char) : Char :=
  if s.contains '\'' && !s.contains '"' then '"' else '\''

/-- Backslash, line breaks and tabulator in short form, common to texts and bytes. -/
def shortEscape? (quote c : Char) : Option (List Char) :=
  if c = '\\' ∨ c = quote then some ['\\', c]
  else if c = '\n' then some ['\\', 'n']
  else if c = '\r' then some ['\\', 'r']
  else if c = '\t' then some ['\\', 't']
  else none

/-- One character between quotes. -/
def showChar (quote c : Char) : List Char :=
  match shortEscape? quote c with
  | some s => s
  | none =>
    if isPrintable c then [c]
    else if c.toNat < 256 then '\\' :: 'x' :: hexPadded 2 c.toNat
    else if c.toNat < 65536 then '\\' :: 'u' :: hexPadded 4 c.toNat
    else '\\' :: 'U' :: hexPadded 8 c.toNat

/-- A text in quotes. -/
def quoted (s : String) : String :=
  let quote := quoteFor s.toList
  String.ofList (quote :: s.toList.flatMap (showChar quote) ++ [quote])

/-- One byte between quotes: visible if it is a visible ASCII character. -/
def showByte (quote : Char) (b : UInt8) : List Char :=
  let c := Char.ofNat b.toNat
  match shortEscape? quote c with
  | some s => s
  | none => if 32 ≤ b.toNat && b.toNat < 127 then [c] else '\\' :: 'x' :: hexPadded 2 b.toNat

/-- Bytes in quotes, behind a `b`. -/
def quotedBytes (bs : List UInt8) : String :=
  let quote := quoteFor (bs.map fun b => Char.ofNat b.toNat)
  String.ofList ('b' :: quote :: bs.flatMap (showByte quote) ++ [quote])

example : quoted "it's\n" = "\"it's\\n\"" := by decide

end SqlCompiler.Text
