import SqlCompiler.Value
import SqlCompiler.Text.Quoted

/-!
# Values as readable text

`Value.display` shows a value so that its kind can be told from the text: texts in quotes, other
kinds that could be mistaken behind their names. `Value.plain` is the text of a value on its own,
which for a text is the text itself.
-/

namespace SqlCompiler

/-- Texts joined by a separator. -/
abbrev joinWith (separator : String) (parts : List String) : String :=
  separator.intercalate parts

/-- A date by its parts. -/
def Date.display (d : Date) : String :=
  "datetime.date(" ++ joinWith ", " [intText d.year, intText d.month, intText d.day] ++ ")"

/-- A number behind its name, unless it is zero. -/
def namedPart (name : String) (n : Int) : List String :=
  if n = 0 then [] else [name ++ "=" ++ intText n]

/-- An offset by its parts, whole days split off so that the rest is not negative. -/
def offsetDisplay (microseconds : Int) : String :=
  if microseconds = 0 then "datetime.timezone.utc"
  else
    let seconds := microseconds / 1000000
    let parts := namedPart "days" (seconds / 86400) ++ namedPart "seconds" (seconds % 86400)
      ++ namedPart "microseconds" (microseconds % 1000000)
    "datetime.timezone(datetime.timedelta(" ++ joinWith ", " parts ++ "))"

/-- The parts of a time of day: seconds and microseconds are left out from the end while they are
zero. -/
def TimeOfDay.displayParts (t : TimeOfDay) : List String :=
  let tail := if t.microsecond != 0 then [t.second, t.microsecond]
    else if t.second != 0 then [t.second] else []
  ([t.hour, t.minute] ++ tail).map (fun n : Nat => intText n)
    ++ (t.offset.map fun n => "tzinfo=" ++ offsetDisplay n).toList

/-- A time of day by its parts. -/
def TimeOfDay.display (t : TimeOfDay) : String :=
  "datetime.time(" ++ joinWith ", " t.displayParts ++ ")"

/-- A date and a time by their parts. -/
def DateTime.display (t : DateTime) : String :=
  "datetime.datetime("
    ++ joinWith ", " ([intText t.date.year, intText t.date.month, intText t.date.day]
      ++ t.time.displayParts) ++ ")"

namespace Value

/-- The text of a truth value. -/
def boolDisplay (b : Bool) : String :=
  if b then "True" else "False"

mutual

/-- A value with its kind visible. -/
def display : Value → String
  | null => "None"
  | bool b => boolDisplay b
  | int n => intText n
  | float x => x.text Double.plainStyle
  | decimal d => "Decimal('" ++ d.text ++ "')"
  | text s => Text.quoted s
  | bytes bs => Text.quotedBytes bs
  | date d => d.display
  | time t => t.display
  | dateTime t => t.display
  | list items => "[" ++ joinWith ", " (displayAll items) ++ "]"
  | tuple [item] => "(" ++ display item ++ ",)"
  | tuple items => "(" ++ joinWith ", " (displayAll items) ++ ")"
  | set [] => "set()"
  | set items => "\x7b" ++ joinWith ", " (displayAll items) ++ "\x7d"
  | frozenSet [] => "frozenset()"
  | frozenSet items => "frozenset(\x7b" ++ joinWith ", " (displayAll items) ++ "\x7d)"
  | object members => "\x7b" ++ joinWith ", " (displayMembers members) ++ "\x7d"

/-- Each of the values, displayed. -/
def displayAll : List Value → List String
  | [] => []
  | v :: rest => display v :: displayAll rest

/-- Each key and value, with a colon between. -/
def displayMembers : List (String × Value) → List String
  | [] => []
  | (k, v) :: rest => (Text.quoted k ++ ": " ++ display v) :: displayMembers rest

end

/-- A value on its own. -/
def plain : Value → String
  | decimal d => d.text
  | text s => s
  | date d => d.text
  | time t => t.text
  | dateTime t => t.text " "
  | v => v.display

/-- Names in quotes, in brackets. -/
def displayNames (names : List String) : String :=
  (list (names.map text)).display

example : (tuple [int 1]).display = "(1,)" := by decide +kernel
example : (list [text "a", null, bool true]).display = "['a', None, True]" := by decide +kernel

end Value

end SqlCompiler
