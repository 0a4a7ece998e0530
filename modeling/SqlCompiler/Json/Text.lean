import SqlCompiler.Value.Display

/-!
# JSON texts

A value is written as JSON in one of three layouts. Only ASCII is written: every other character,
and DEL, becomes `\uXXXX`, beyond the basic plane as a surrogate pair. A value that JSON has no form
for is written as its plain text in quotes.
-/

namespace SqlCompiler.Json

/-- One UTF-16 unit as an escape. -/
def escapeUnit (n : Nat) : List Char :=
  '\\' :: 'u' :: Text.hexPadded 4 n

/-- One character inside a JSON string. -/
def escapeChar (c : Char) : List Char :=
  match c with
  | '"' => ['\\', '"']
  | '\\' => ['\\', '\\']
  | '\n' => ['\\', 'n']
  | '\r' => ['\\', 'r']
  | '\t' => ['\\', 't']
  | '\x08' => ['\\', 'b']
  | '\x0c' => ['\\', 'f']
  | c =>
    if 32 ≤ c.toNat && c.toNat < 127 then [c]
    else if c.toNat < 65536 then escapeUnit c.toNat
    else
      let rest := c.toNat - 65536
      escapeUnit (0xD800 + rest / 1024) ++ escapeUnit (0xDC00 + rest % 1024)

/-- A text as a JSON string. -/
def quote (s : String) : String :=
  String.ofList ('"' :: s.toList.flatMap escapeChar ++ ['"'])

/-- How the parts of a document are set apart. An indented layout breaks the line before each member
and after the last. -/
structure Layout where
  item : String
  colon : String
  indent : Option Nat

/-- No blank anywhere. -/
def Layout.compact : Layout := ⟨",", ":", none⟩

/-- One line, a space behind each comma and colon. -/
def Layout.line : Layout := ⟨", ", ": ", none⟩

/-- A line for each member, two spaces deeper at each level. -/
def Layout.indented : Layout := ⟨",", ": ", some 2⟩

/-- The line break before a member at a depth. -/
def Layout.break (layout : Layout) (depth : Nat) : String :=
  match layout.indent with
  | none => ""
  | some width => String.ofList ('\n' :: List.replicate (width * depth) ' ')

/-- Parts between brackets at a depth; nothing is set between the brackets of an empty list. -/
def Layout.enclose (layout : Layout) (depth : Nat) (opening closing : String)
    (parts : List String) : String :=
  if parts.isEmpty then opening ++ closing
  else
    opening ++ layout.break (depth + 1)
      ++ joinWith (layout.item ++ layout.break (depth + 1)) parts
      ++ layout.break depth ++ closing

mutual

/-- A value at a depth. -/
def write (layout : Layout) (depth : Nat) : Value → String
  | .null => "null"
  | .bool b => if b then "true" else "false"
  | .int n => intText n
  | .float x => x.text Double.jsonStyle
  | .text s => quote s
  | .list items | .tuple items =>
    layout.enclose depth "[" "]" (writeAll layout (depth + 1) items)
  | .object members =>
    layout.enclose depth "\x7b" "\x7d" (writeMembers layout (depth + 1) members)
  | v => quote v.plain

/-- Each of the values. -/
def writeAll (layout : Layout) (depth : Nat) : List Value → List String
  | [] => []
  | v :: rest => write layout depth v :: writeAll layout depth rest

/-- Each key and value. -/
def writeMembers (layout : Layout) (depth : Nat) : List (String × Value) → List String
  | [] => []
  | (k, v) :: rest =>
    (quote k ++ layout.colon ++ write layout depth v) :: writeMembers layout depth rest

end

/-- A document in a layout. -/
def text (layout : Layout) (v : Value) : String :=
  write layout 0 v

example :
    text .compact (.list [.int 1, .object [("é", .null)]]) = "[1,\x7b\"\\u00e9\":null\x7d]" := by
  decide +kernel

end SqlCompiler.Json
