import SqlCompiler.Model.Ancestry
import SqlCompiler.Model.FieldType

/-!
# Model classes

A class file defines classes one after the other. A class has the fields and the table metadata of
the classes it is based on, and its own over them. It is a model unless it is plain or based on
plain classes only. `Module.define` runs one definition, and says what can be wrong with it and what
is found first.
-/

namespace SqlCompiler.Model

/-- A field of a model class. -/
structure Field where
  name : String
  type : FieldType
  options : Options

namespace Field

/-- A field whose type is in a scope. -/
def inScope (scope : FieldType.Scope) (f : Field) : Field :=
  { f with type := f.type.inScope scope }

/-- The type of a field without options, and all options of the field. -/
def resolved (f : Field) : FieldType × Options :=
  let (type, annotated) := f.type.unwrap
  (type, f.options.orElse annotated)

/-- Why a field cannot be written as it is. -/
def writtenFault? (f : Field) : Option ClassFault :=
  if f.options.hasTwoDefaults then some .twoDefaults else f.type.writtenFault?

/-- Whether the name of a field is a private one. -/
def isPrivate (f : Field) : Bool :=
  f.name.toList.head? == some '_'

/-- Whether a value that a field or its type says is no possible one. -/
def isRefused (f : Field) : Bool :=
  let (type, options) := f.resolved
  type.isRefused options.limits

/-- Why fields of a model are refused: what is wrong with the field of some column comes before what
is wrong with what a column holds. -/
def modelFault? (fields : List Field) : Option ClassFault :=
  if fields.any fun f => f.resolved.2.hasTwoDefaults then some .twoDefaults
  else if fields.any fun f => f.type.isUnsupported then some .unsupportedType
  else if fields.any isRefused then some .refusedValue
  else none

end Field

/-- A class as its file writes it: its metadata is inherited by classes based on it. The position
among the definitions tells it from others of its name. -/
structure Class where
  name : String
  position : Nat
  isPlain : Bool
  bases : List String
  fields : List Field
  doc : Option String
  metadata : Members
  privateMetadata : Members

instance : BEq Class where
  beq a b := a.position == b.position

/-- What a class file defines under a name, or the failure of running the file. -/
inductive Definition
  | ofClass (c : Class)
  | value (name : String)
  | failure

/-- A class, those it inherits from, nearest first, and its fields with the inherited ones. -/
structure Lineage where
  self : Class
  ancestors : List Class
  fields : List Field
  isModel : Bool

namespace Lineage

/-- All classes, nearest first. -/
def classes (l : Lineage) : List Class :=
  l.self :: l.ancestors

/-- The field of a name. -/
def field? (l : Lineage) (name : String) : Option Field :=
  l.fields.find? (·.name == name)

/-- The metadata under a key: private to classes of the name, or of the nearest class that has it.
-/
def metadata (l : Lineage) (key : String) : Value :=
  let own := l.classes.filter (·.name == l.self.name)
  ((own.findSome? (·.privateMetadata.get? key)).orElse fun _ =>
    l.classes.findSome? (·.metadata.get? key)).getD .null

/-- The ancestors of a class with these bases, unless the bases conflict. -/
def ancestors? (bases : List Lineage) : Option (List Class) :=
  Ancestry.merge? (bases.map classes ++ [bases.map self])

/-- The field of a name in a class with these bases: its own, the latest of several, else that of
the first base which has one. -/
def inheritedField? (c : Class) (bases : List Lineage) (name : String) : Option Field :=
  (c.fields.reverse.find? (·.name == name)).orElse fun _ => bases.findSome? (·.field? name)

/-- A class with what it inherits. Fields come in the order in which their names come first, from
the farthest ancestor on. -/
def ofClass (c : Class) (bases : List Lineage) (ancestors : List Class) (isModel : Bool) :
    Lineage where
  self := c
  ancestors
  fields :=
    let names := (c :: ancestors).reverse.flatMap fun a => a.fields.map Field.name
    names.eraseDups.filterMap (inheritedField? c bases)
  isModel

end Lineage

/-- What the names of a class file stand for: a class, or something else. The latest definition
comes first. -/
abbrev Module := List (String × Option Lineage)

namespace Module

/-- The scope of a class in a file that has defined these names: which of them are models. -/
def scope (m : Module) : FieldType.Scope :=
  fun name => (m.lookup name).map fun l => l.any Lineage.isModel

/-- The class of a name that another one is based on. -/
def base (m : Module) (name : String) : Except ClassFault Lineage :=
  match m.lookup name with
  | some (some l) => .ok l
  | some none => .error .notClass
  | none => .error .unknownName

/-- Fails if something is wrong. -/
def ensure (fault : Option ClassFault) : Except ClassFault Unit :=
  match fault with
  | some e => .error e
  | none => .ok ()

/-- Runs the definition of a class: its bases are looked up, its fields written and, if it is a
model, checked once the order of its ancestors is known. -/
def define (m : Module) (c : Class) : Except ClassFault Lineage := do
  let bases ← c.bases.mapM m.base
  let c := { c with fields := c.fields.map (·.inScope m.scope) }
  let isModel := !c.isPlain && (bases.isEmpty || bases.any Lineage.isModel)
  ensure (c.fields.findSome? Field.writtenFault?)
  if isModel && c.fields.any Field.isPrivate then throw .privateField
  match Lineage.ancestors? bases with
  | none => throw .conflictingBases
  | some ancestors =>
    if isModel then ensure (Field.modelFault? c.fields)
    return .ofClass c bases ancestors isModel

/-- Runs the definitions of a class file in order, after those already run. -/
def run (m : Module) : List Definition → Except ClassFault Module
  | [] => .ok m
  | .failure :: _ => .error .raised
  | .value name :: rest => run ((name, none) :: m) rest
  | .ofClass c :: rest => do run ((c.name, some (← m.define c)) :: m) rest

/-- The model class of a name. -/
def model? (m : Module) (name : String) : Option Lineage :=
  (m.lookup name).join.filter Lineage.isModel

end Module

end SqlCompiler.Model
