import SqlCompiler.Freshness.Outdated
import SqlCompiler.Json.Reader
import SqlCompiler.Json.Text
import SqlCompiler.Schema.Enhance
import SqlCompiler.Value.Object

/-!
# Generating schemas

A generator describes classes, each in a file, as schemas. Each schema is stamped with the id of its
file and the tag of the file's content, and may get the base columns. `ensureSchemas` reuses schemas
that are still fresh, and writes those that it has to generate to a file, all or none.
-/

namespace SqlCompiler.Freshness

open Log (Logged)

/-- The files of classes, by class name. -/
abbrev ClassFiles := List (String × String)

/-- What a generator returns: descriptions of classes, by class name. -/
abbrev Descriptions := List (String × SchemaSource)

/-- Describes classes, given their files and the base directory. -/
abbrev Generator := ClassFiles → Option String → Logged Error Descriptions

/-- A call of a generator: the class names and the base directory it was given. -/
structure GeneratorCall where
  classes : List String
  base : Option String
deriving DecidableEq

/-- Names the type, the table if it has no name, the id and the tag. -/
def stampMembers (data : Members) (type id tag : String) : Members :=
  let data := data.put "type" (.text type)
  let data := if (data.getD "table").isPresent then data
    else data.put "table" (.text (Text.lower type))
  (data.put "$id" (.text id)).put "etag" (.text tag)

/-- A description with its type, id and tag, read as a schema. -/
def stamp (description : SchemaSource) (type id tag : String) : Except Error Schema := do
  let data ← match description with
    | .read s => s.members
    | .raw v => v.toMembers
  Schema.ofValue (.object (stampMembers data type id tag))

/-- The file of a class as it is read: a relative one lies in the base directory, if there is one.
-/
def classFile (base : Option BaseDirectory) (file : Path) : Path :=
  match base with
  | some b => b.toPath / file
  | none => file

/-- When and from what schemas are stamped, and the base columns they get, if any. -/
structure Stamping where
  tree : FileTree
  base : Option BaseDirectory
  now : Instant
  baseColumns : Option (List String)

/-- The schema of one class. -/
def stampClass (stamping : Stamping) (name : String) (file : Path) (description : SchemaSource) :
    Except Error Schema := do
  let tag ← ofFile (fileEtag stamping.tree (classFile stamping.base file))
  let s ← stamp description name (schemaId file stamping.now) tag
  match stamping.baseColumns with
  | some names => s.enhance names
  | none => .ok s

/-- The schemas of classes, in order. -/
def stampAll (stamping : Stamping) (descriptions : Descriptions) :
    ClassFiles → Except Error (List (String × Schema))
  | [] => .ok []
  | (name, file) :: rest =>
    match descriptions.lookup name with
    | none => .error (.schema (.notGenerated name))
    | some description => do
      let s ← stampClass stamping name (Path.ofText file) description
      return (name, s) :: (← stampAll stamping descriptions rest)

/-- The record about a generation that begins. -/
def generatingMessage (classes : List String) (base : Option String) (enhance : Bool) : String :=
  "Generating schemas for " ++ Value.displayNames classes ++ " (base=" ++ base.getD "None"
    ++ ", enhance=" ++ Value.boolDisplay enhance ++ ")"

/-- What a generation gives: the schemas, and the calls of the generator. -/
structure Generated where
  schemas : List (String × Schema)
  calls : List GeneratorCall

/-- Generates the schemas of classes. The generator runs first, then the clock is read, then the
files for their tags. -/
def generateSchemas (stamping : Stamping) (generator : Option Generator) (files : ClassFiles) :
    Logged Error Generated := do
  let some generator := generator | throw (.schema .noGenerator)
  let base := stamping.base.map BaseDirectory.toText
  let classes := files.map (·.1)
  Log.emit source .debug (generatingMessage classes base stamping.baseColumns.isSome)
  let descriptions ← generator files base
  let schemas ← stampAll stamping descriptions files
  Log.emit source .info ("Generated " ++ intText schemas.length ++ " schemas")
  return ⟨schemas, [⟨classes, base⟩]⟩

/-- The documents of schemas, by name. -/
def schemasDocument (schemas : List (String × Schema)) : Except Error Value := do
  return .object (← schemas.mapM fun (name, s) => return (name, ← s.document))

/-- Reads schemas from the document in a file. -/
def loadSchemas (tree : FileTree) (path : Path) : Except Error (List (String × Schema)) := do
  let content ← ofFile (tree.read path)
  match Text.ofUtf8? content with
  | none => .error (.misuse .undecodableText)
  | some text =>
    match Json.parse? text with
    | none => .error (.misuse .unreadableDocument)
    | some (.object members) => members.mapM fun (name, v) => return (name, ← Schema.ofValue v)
    | some _ => .error (.misuse .noMembers)

/-- Writes schemas to a file as an indented document. -/
def saveSchemas (tree : FileTree) (file : String) (schemas : List (String × Schema))
    (now : Instant) : Except Error FileTree := do
  let document ← schemasDocument schemas
  ofFile (tree.write (Path.ofText file) (Text.utf8 (Json.text .indented document)) now)

/-- What ensuring gives: the schemas, the calls of the generator, and the files afterwards. -/
structure Ensured where
  schemas : List (String × Schema)
  calls : List GeneratorCall
  tree : FileTree

/-- The schemas of sources, by name. -/
def readAll (schemas : List (String × SchemaSource)) : Except Error (List (String × Schema)) :=
  schemas.mapM fun (name, s) => return (name, ← s.toSchema)

/-- Generates schemas and writes them to a file, if one is given. -/
def regenerate (stamping : Stamping) (generator : Option Generator) (files : ClassFiles)
    (schemasFile : Option String) : Logged Error Ensured := do
  let fresh ← generateSchemas stamping generator files
  match schemasFile with
  | none => return ⟨fresh.schemas, fresh.calls, stamping.tree⟩
  | some file =>
    let tree ← saveSchemas stamping.tree file fresh.schemas stamping.now
    Log.emit source .info
      ("Wrote " ++ intText fresh.schemas.length ++ " schemas to " ++ file)
    return ⟨fresh.schemas, fresh.calls, tree⟩

/-- Up-to-date schemas of classes: those given, if there are any and none is outdated, else
generated ones. -/
def ensureSchemas (stamping : Stamping) (settings : FreshnessSettings)
    (given : List (String × SchemaSource)) (generator : Option Generator) (files : ClassFiles)
    (schemasFile : Option String) : Logged Error Ensured := do
  if given.isEmpty then regenerate stamping generator files schemasFile
  else
    let outdated ← outdatedSchemas stamping.tree stamping.base settings none given
    if outdated.isEmpty then return ⟨← readAll given, [], stamping.tree⟩
    else
      Log.emit source .info
        ("Regenerating schemas, outdated: " ++ Value.displayNames outdated)
      regenerate stamping generator files schemasFile

end SqlCompiler.Freshness
