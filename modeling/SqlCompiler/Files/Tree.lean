import SqlCompiler.Calendar.Epoch
import SqlCompiler.Error
import SqlCompiler.Files.Path

/-!
# File trees

The files and directories that a computation sees, by their names from the root on. A path is
followed name by name: each name before the last must be a directory, and the name `..` leads back
up.
-/

namespace SqlCompiler

/-- A file with its content, or a directory, and when it was last modified. -/
inductive FileNode
  | file (content : List UInt8) (modified : Instant)
  | directory (modified : Instant)
deriving DecidableEq

/-- When a node was last modified. -/
def FileNode.modified : FileNode → Instant
  | file _ t | directory t => t

/-- The same node, modified at another time. -/
def FileNode.touch (t : Instant) : FileNode → FileNode
  | file content _ => file content t
  | directory _ => directory t

/-- Names from the root on. -/
abbrev FileKey := List String

/-- Files and directories by their keys, and the directory that relative paths start at. The root is
always there. -/
structure FileTree where
  nodes : List (FileKey × FileNode)
  current : FileKey

namespace FileTree

/-- The node at a key. -/
def node? (tree : FileTree) (key : FileKey) : Option FileNode :=
  if key.isEmpty then some (.directory ⟨0⟩) else tree.nodes.lookup key

/-- Puts a node at a key. -/
def put (tree : FileTree) (key : FileKey) (node : FileNode) : FileTree :=
  { tree with nodes := (key, node) :: tree.nodes.filter fun (k, _) => k != key }

/-- Removes the node at a key. -/
def remove (tree : FileTree) (key : FileKey) : FileTree :=
  { tree with nodes := tree.nodes.filter fun (k, _) => k != key }

/-- Follows names from a key on, and gives the key that they lead to. -/
def follow (tree : FileTree) (path : Path) (key : FileKey) : List String → Except FileError FileKey
  | [] => .ok key
  | name :: rest =>
    match tree.node? key with
    | none => .error (.notFound path.text)
    | some (.file ..) => .error (.notDirectory path.text)
    | some (.directory _) =>
      follow tree path (if name = ".." then key.dropLast else key ++ [name]) rest

/-- Whether all names of a path are possible: none has a null character in it. -/
def isPossible (path : Path) : Bool :=
  path.names.all fun name => !name.toList.contains '\x00'

/-- The key that a path leads to, which need not exist itself. -/
def key (tree : FileTree) (path : Path) : Except FileError FileKey :=
  if isPossible path then
    tree.follow path (if path.isAbsolute then [] else tree.current) path.names
  else .error .impossibleName

/-- The node that a path leads to. -/
def find (tree : FileTree) (path : Path) : Except FileError FileNode := do
  match tree.node? (← tree.key path) with
  | some node => .ok node
  | none => .error (.notFound path.text)

/-- Whether a path leads to a file or directory. -/
def pathExists (tree : FileTree) (path : Path) : Bool :=
  match tree.find path with
  | .ok _ => true
  | .error _ => false

/-- The content of a file. -/
def read (tree : FileTree) (path : Path) : Except FileError (List UInt8) := do
  match ← tree.find path with
  | .file content _ => .ok content
  | .directory _ => .error (.isDirectory path.text)

/-- When a file or directory was last modified. -/
def modified (tree : FileTree) (path : Path) : Except FileError Instant := do
  return (← tree.find path).modified

/-- Writes a file, whose directory must exist. -/
def write (tree : FileTree) (path : Path) (content : List UInt8) (t : Instant) :
    Except FileError FileTree := do
  let key ← tree.key path
  match tree.node? key, tree.node? key.dropLast with
  | some (.directory _), _ => .error (.isDirectory path.text)
  | _, none => .error (.notFound path.text)
  | _, some (.file ..) => .error (.notDirectory path.text)
  | _, some (.directory _) => .ok (tree.put key (.file content t))

end FileTree

end SqlCompiler
