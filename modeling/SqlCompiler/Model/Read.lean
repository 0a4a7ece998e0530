import SqlCompiler.Model.Class

/-!
# Reading class files

The definitions of a class file are given as values. A type is a name, or a list of the name of
a type former and what it is applied to; fields and classes are objects.
-/

namespace SqlCompiler.Model

/-- The text under a key, if there is one. -/
def textAt? (members : Members) (key : String) : Option String :=
  (members.getD key).text?

/-- The text under a key, empty if there is none. -/
def textAt (members : Members) (key : String) : String :=
  (textAt? members key).getD ""

/-- The members under a key, empty if there is no object. -/
def membersAt (members : Members) (key : String) : Members :=
  match members.getD key with
  | .object inner => inner
  | _ => []

/-- The limits among the options of a field. -/
def limitsOf (members : Members) : List (Limit × Value) :=
  Limit.all.filterMap fun limit =>
    let v := members.getD limit.name
    if v.isNull then none else some (limit, v)

/-- What makes the default among the options of a field. -/
def factoryOf? (members : Members) : Option Factory :=
  if (members.getD "factory_with_data").isPresent then some .ofData
  else (members.get? "factory").map .constant

/-- The options of a field or type; extra members have a key of their own. -/
def Options.ofMembers (extraKey : String) (members : Members) : Options where
  aliasName := (members.get? "alias").map Value.text?
  description := (members.get? "description").map Value.text?
  limits := limitsOf members
  default := members.get? "default"
  factory := factoryOf? members
  extra := membersAt members extraKey

/-- What the members of an enumeration are, by name. -/
def MemberKind.ofName (name : String) : MemberKind :=
  match name with
  | "str" => text
  | "int" | "IntEnum" => integer
  | _ => plain

namespace FieldType

/-- The choice between a type and null. -/
def optional : List FieldType → FieldType
  | [a] => choiceOf [a, nothing]
  | _ => malformed

/-- The choice between types that are joined from left to right. Null cannot be joined to null. -/
def joined : List FieldType → FieldType
  | a :: b :: rest => if a.isNothing && b.isNothing then malformed else choiceOf (a :: b :: rest)
  | members => choiceOf members

mutual

/-- Reads a type. -/
def ofValue : Value → FieldType
  | .text name => named name
  | .list [.text "Annotated", inner, .object options] =>
    optioned (ofValue inner) (.ofMembers "json_schema_extra" options)
  | .list [.text "Enum", .text kind, .object members] => enumeration (.ofName kind) members
  | .list (.text "Literal" :: values) => literal values
  | .list (.text "Optional" :: rest) => optional (ofValues rest)
  | .list (.text "Union" :: rest) => choiceOf (ofValues rest)
  | .list (.text "|" :: rest) => joined (ofValues rest)
  | .list (.text former :: rest) => applied former (ofValues rest)
  | .null => nothing
  | v => named v.display

/-- Reads each of the types. -/
def ofValues : List Value → List FieldType
  | [] => []
  | v :: rest => ofValue v :: ofValues rest

end

end FieldType

/-- Reads a field. A default may be given as the name of a member of its enumeration. -/
def Field.ofMembers (members : Members) : Field :=
  let type := FieldType.ofValue (members.getD "type")
  let options := Options.ofMembers "extra" members
  let member : Option Value := do
    let (kind, values) ← type.enumerations.head?
    (kind.value (← values.get? (← textAt? members "enum_default"))).toOption
  { name := textAt members "name"
    type
    options := { options with default := member <|> options.default } }

/-- Reads the definition of a class at a position of the file. -/
def Class.ofMembers (position : Nat) (members : Members) : Class where
  name := textAt members "name"
  position
  isPlain := (members.getD "plain").isPresent
  bases := match members.getD "bases" with
    | .list items => items.filterMap Value.text?
    | _ => []
  fields := match members.getD "fields" with
    | .list items => items.filterMap fun
      | .object field => some (Field.ofMembers field)
      | _ => none
    | _ => []
  doc := textAt? members "doc"
  metadata := membersAt members "meta"
  privateMetadata := membersAt members "mangled"

namespace Definition

/-- Reads the definition at a position of a file. -/
def ofMembers (position : Nat) (members : Members) : Definition :=
  if (members.get? "raise").isSome then failure
  else if (members.get? "value").isSome then value (textAt members "name")
  else ofClass (.ofMembers position members)

/-- Reads the definitions of a class file, in order. -/
def ofValues (items : List Value) : List Definition :=
  items.zipIdx.filterMap fun
    | (.object members, position) => some (ofMembers position members)
    | _ => none

end Definition

end SqlCompiler.Model
