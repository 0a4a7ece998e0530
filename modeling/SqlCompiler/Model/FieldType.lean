import SqlCompiler.Model.Member
import SqlCompiler.Model.NamedType
import SqlCompiler.Value.Display

/-!
# Field types

The field of a model class is annotated with a type: a named one, one applied to others, a choice
between several, an enumeration, another class, or a type with options of its own. `columnType` is
the column type that stores the values, `acceptsNull` says whether null is among the choices, and
`measure` says what bounds mean for the values. A type can be at fault as it is written
(`writtenFault?`), by naming what no column stores (`isUnsupported`), or by a value that it says
(`isRefused`).
-/

namespace SqlCompiler.Model

/-- What makes the default of a field: a value of its own, or one made of the other values. -/
inductive Factory
  | constant (v : Value)
  | ofData

/-- What a field, or a type with options, says besides the type. An alias or description may be
stated to be none. -/
structure Options where
  aliasName : Option (Option String) := none
  description : Option (Option String) := none
  limits : List (Limit × Value) := []
  default : Option Value := none
  factory : Option Factory := none
  extra : Members := []

namespace Options

/-- Options around a type that has options too. What the outer ones say is preferred. -/
def around (outer inner : Options) : Options where
  aliasName := outer.aliasName <|> inner.aliasName
  description := outer.description <|> inner.description
  limits := inner.limits ++ outer.limits
  default := outer.default <|> inner.default
  factory := outer.factory <|> inner.factory
  extra := inner.extra.merge outer.extra

/-- Whether there is a default and something that makes one. -/
def hasTwoDefaults (options : Options) : Bool :=
  options.default.isSome && options.factory.isSome

/-- Options on a field whose type has options too. What the field says itself is preferred, but
limits of the type come later and replace those of the field. -/
def orElse (own annotated : Options) : Options :=
  { own.around annotated with limits := own.limits ++ annotated.limits }

end Options

/-- The type of a field. A type keeps the name that it is written with. What is defined in the class
file is a model class or foreign, and some written forms mean no type. -/
inductive FieldType
  | named (name : String)
  | model (name : String)
  | foreign (name : String)
  | applied (former : String) (arguments : List FieldType)
  | choice (members : List FieldType)
  | literal (values : List Value)
  | enumeration (kind : MemberKind) (members : Members)
  | optioned (inner : FieldType) (options : Options)
  | malformed

namespace FieldType

/-- Null alone. -/
def nothing : FieldType :=
  named "None"

/-- Whether two lists hold the same values of the same kinds, in any order. -/
def sameValues (vs ws : List Value) : Bool :=
  let (shown, others) := (vs.map Value.display, ws.map Value.display)
  shown.all others.contains && others.all shown.contains

mutual

/-- Whether two types are the same. Types with different names are not, even if they mean the same.
Every enumeration and type with options is one of its own. -/
def alike : FieldType → FieldType → Bool
  | named s, named t => s == t
  | model a, model b | foreign a, foreign b => a == b
  | applied s as, applied t bs => s == t && alikeAll as bs
  | choice as, choice bs => allAmong as bs && bs.all (amongAlike as ·)
  | literal vs, literal ws => sameValues vs ws
  | _, _ => false

/-- Whether two lists of types are the same types in the same order. -/
def alikeAll : List FieldType → List FieldType → Bool
  | [], [] => true
  | a :: as, b :: bs => alike a b && alikeAll as bs
  | _, _ => false

/-- Whether each of the types is among others. -/
def allAmong : List FieldType → List FieldType → Bool
  | [], _ => true
  | a :: as, bs => bs.any (alike a ·) && allAmong as bs

/-- Whether one of the types is the same as another type. -/
def amongAlike : List FieldType → FieldType → Bool
  | [], _ => false
  | a :: as, b => alike a b || amongAlike as b

end

/-- The choices of a type. -/
def choices : FieldType → List FieldType
  | choice members => members
  | a => [a]

/-- The choice between types. Choices inside it are choices of the whole, the same type is one
choice only, and a single choice is no choice. -/
def choiceOf (members : List FieldType) : FieldType :=
  let distinct := (members.flatMap choices).foldl
    (fun seen a => if amongAlike seen a then seen else seen ++ [a]) []
  match distinct with
  | [a] => a
  | _ => choice distinct

/-- Null alone. -/
def isNothing : FieldType → Bool
  | named name => NamedType.ofName name == .nothing
  | _ => false

/-- Whether null is one of the choices. -/
def acceptsNull : FieldType → Bool
  | choice members => members.any isNothing
  | _ => false

/-- The column type of a type that is no choice. A type with options of its own is kept as text. -/
def plainColumnType : FieldType → ColumnType
  | named name | applied name _ => (NamedType.ofName name).columnType
  | model _ => .object
  | enumeration kind _ => kind.columnType
  | foreign _ | choice _ | literal _ | optioned .. | malformed => .string

/-- The column type of a type. A choice with null stores the other type; any other choice is kept as
text. -/
def columnType : FieldType → ColumnType
  | choice members =>
    match members.filter (!·.isNothing) with
    | [a] => a.plainColumnType
    | _ => .string
  | a => a.plainColumnType

/-- What limits mean for a type that is no choice. -/
def plainMeasure : FieldType → Measure
  | named name | applied name _ => (NamedType.ofName name).measure
  | optioned inner _ => plainMeasure inner
  | model _ | foreign _ | choice _ | literal _ | enumeration .. | malformed => .unmeasured

/-- What limits mean for a type. Those of a choice with null are about the other type. -/
def measure : FieldType → Measure
  | choice members =>
    match members.filter (!·.isNothing) with
    | [a] => a.plainMeasure
    | _ => .unmeasured
  | a => a.plainMeasure

/-- A type without the options around it, and these options. -/
def unwrap : FieldType → FieldType × Options
  | optioned inner options => ((unwrap inner).1, options.around (unwrap inner).2)
  | a => (a, {})

/-- What a name stands for that the class file has defined: a model class, or something else. -/
abbrev Scope := String → Option Bool

mutual

/-- A type in a scope: its names mean what is defined there. Nothing that is defined there can be
applied to types. -/
def inScope (scope : Scope) : FieldType → FieldType
  | named name =>
    match scope name with
    | some true => model name
    | some false => foreign name
    | none => named name
  | applied former arguments =>
    if (scope former).isSome then malformed else applied former (allInScope scope arguments)
  | choice members => choice (allInScope scope members)
  | optioned inner options => optioned (inScope scope inner) options
  | a => a

/-- Each of the types in a scope. -/
def allInScope (scope : Scope) : List FieldType → List FieldType
  | [] => []
  | a :: rest => inScope scope a :: allInScope scope rest

end

mutual

/-- Why a type cannot be written as it is. Parts are at fault before the whole. -/
def writtenFault? : FieldType → Option ClassFault
  | named name => unknownName? name
  | applied former arguments =>
    ((unknownName? former).orElse fun _ => anyWrittenFault? arguments).orElse fun _ =>
      if NamedType.isApplicable former arguments.length then none else some .malformedType
  | choice members => anyWrittenFault? members
  | enumeration kind members => (kind.fault? members).map .member
  | optioned inner options =>
    (writtenFault? inner).orElse fun _ => if options.hasTwoDefaults then some .twoDefaults else none
  | malformed => some .malformedType
  | model _ | foreign _ | literal _ => none
where
  /-- A name is at fault if it is unknown. -/
  unknownName? (name : String) : Option ClassFault :=
    if NamedType.ofName name = .unknown then some .unknownName else none

/-- Why one of the types cannot be written as it is. -/
def anyWrittenFault? : List FieldType → Option ClassFault
  | [] => none
  | a :: rest => (writtenFault? a).orElse fun _ => anyWrittenFault? rest

end

mutual

/-- Whether a type contains something that is no type of values. -/
def isUnsupported : FieldType → Bool
  | foreign _ => true
  | applied _ arguments => anyUnsupported arguments
  | choice members => anyUnsupported members
  | optioned inner _ => isUnsupported inner
  | named _ | model _ | literal _ | enumeration .. | malformed => false

/-- Whether one of the types contains something that is no type of values. -/
def anyUnsupported : List FieldType → Bool
  | [] => false
  | a :: rest => isUnsupported a || anyUnsupported rest

end

/-- Whether a whole number among values fits no word. -/
def exceedsWord (values : List Value) : Bool :=
  values.any fun
    | .int n => !Word.fitsSigned n
    | _ => false

mutual

/-- Whether a value that a type says is no possible one, given the limits around the type: a limit
on it or somewhere in it, or one of its values. -/
def isRefused (limits : List (Limit × Value)) : FieldType → Bool
  | optioned inner options => isRefused (options.limits ++ limits) inner
  | applied former arguments =>
    (NamedType.ofName former).measure.refuses limits || anyRefused arguments
  | choice members => (choice members).measure.refuses limits || anyRefused members
  | named name => (NamedType.ofName name).measure.refuses limits
  | literal values => exceedsWord values
  | enumeration kind members => exceedsWord (kind.values members)
  | model _ | foreign _ | malformed => false

/-- Whether a value that one of the types says is no possible one. -/
def anyRefused : List FieldType → Bool
  | [] => false
  | a :: rest => isRefused [] a || anyRefused rest

end

mutual

/-- The enumerations in a type, in order. -/
def enumerations : FieldType → List (MemberKind × Members)
  | enumeration kind members => [(kind, members)]
  | applied _ arguments => allEnumerations arguments
  | choice members => allEnumerations members
  | optioned inner _ => enumerations inner
  | named _ | model _ | foreign _ | literal _ | malformed => []

/-- The enumerations in types, in order. -/
def allEnumerations : List FieldType → List (MemberKind × Members)
  | [] => []
  | a :: rest => enumerations a ++ allEnumerations rest

end

end FieldType

end SqlCompiler.Model
