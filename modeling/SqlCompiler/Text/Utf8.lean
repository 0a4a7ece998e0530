/-!
# Texts as bytes

The UTF-8 form of a text. Bytes that are the form of no text have no text.
-/

namespace SqlCompiler.Text

/-- The text that bytes encode. -/
def ofUtf8? (bytes : List UInt8) : Option String :=
  String.fromUTF8? ⟨bytes.toArray⟩

/-- The bytes that encode a text. -/
def utf8 (s : String) : List UInt8 :=
  s.toUTF8.toList

example : ofUtf8? [0xc3, 0xa9] = some "é" := by decide
example : ofUtf8? [0xed, 0xa0, 0x80] = none := by decide

end SqlCompiler.Text
