import SqlCompiler.Freshness.Generate
import SqlCompiler.Model.Describe

/-!
# Generating schemas from class files

The generator finds the file of each class, runs it and describes the class. It stops at the first
class that cannot be described.
-/

namespace SqlCompiler.Model

open Freshness (ClassFiles Descriptions Generator)

/-- Where records about class files come from. -/
def source : Log.Source :=
  .of "dbx.schema.pydantic_source" .freshness

/-- Class files: where they are, and what those that can be run define. -/
structure ClassTree where
  tree : FileTree
  definitions : List (FileKey × List Definition)

namespace ClassTree

/-- How the names of files end that hold definitions. -/
def suffix : String :=
  ".py"

/-- How the names of files end that would hold compiled definitions. -/
def compiledSuffixes : List String :=
  [".pyc", ".so"]

/-- Whether the name of a file has an ending. -/
def endsWith (path : Path) (ending : String) : Bool :=
  ending.toList.isSuffixOf path.text.toList

/-- Refuses a file whose name says that it cannot be run, and one that would be compiled. -/
def checkSuffix (path : Path) (name : String) : Except Error Unit :=
  if endsWith path suffix then .ok ()
  else if compiledSuffixes.any (endsWith path) then .error (.classFile .notSource)
  else .error (.schema (.notImportable path.text name))

/-- The model class of a name in a file, which is run for it. -/
def load (files : ClassTree) (path : Path) (name : String) : Except Error Lineage := do
  if !files.tree.pathExists path then throw (.file (.classFileNotFound path.text))
  checkSuffix path name
  let _ ← (files.tree.read path).mapError .file
  let key ← (files.tree.key path).mapError .file
  let definitions := (files.definitions.lookup key).getD []
  let names ← (Module.run [] definitions).mapError .classFile
  match names.model? name with
  | some l => return l
  | none => throw (.schema (.notModel path.text name))

/-- The description of each class, in order. -/
def describeAll (files : ClassTree) (base : Option String) :
    ClassFiles → Log.Logged Error (List (String × Members))
  | [] => return []
  | (name, file) :: rest => do
    let path := Freshness.classFile (base.map .text) (Path.ofText file)
    let l ← files.load path name
    Log.emit source .debug ("Loaded " ++ name ++ " from " ++ path.text)
    return (name, l.describe) :: (← describeAll files base rest)

/-- The generator that describes the classes of class files. -/
def generator (files : ClassTree) : Generator :=
  fun classes base => do
    let described ← describeAll files base classes
    return described.map fun (name, members) => (name, .raw (.object members))

end ClassTree

end SqlCompiler.Model
