import SqlCompiler.Text.Split
import SqlCompiler.Text.Quoted

/-!
# Paths

A path has a root, or none, and names below it. Doubled slashes and names that mean the same
directory do not show in it; names that mean the directory above do.
-/

namespace SqlCompiler

/-- Where a path starts: at the current directory, at the root, or at the root written with two
slashes, which is kept apart. -/
inductive PathRoot
  | current
  | root
  | doubleRoot
deriving DecidableEq, Repr

/-- A path. -/
structure Path where
  start : PathRoot
  names : List String
deriving DecidableEq, Repr

namespace Path

/-- The start of a written path: exactly two slashes are more than one, three are not. -/
def startOf : List Char → PathRoot
  | '/' :: '/' :: '/' :: _ => .root
  | '/' :: '/' :: _ => .doubleRoot
  | '/' :: _ => .root
  | _ => .current

/-- Reads a written path. -/
def ofText (s : String) : Path where
  start := startOf s.toList
  names := (Text.split '/' s).filter fun name => name != "" && name != "."

/-- The text of a start. -/
def startText : PathRoot → String
  | .current => ""
  | .root => "/"
  | .doubleRoot => "//"

/-- The text of a path; the current directory is a dot. -/
def text (p : Path) : String :=
  if p.start = .current && p.names.isEmpty then "."
  else startText p.start ++ "/".intercalate p.names

/-- Whether a path starts at the root. -/
def isAbsolute (p : Path) : Bool :=
  p.start != .current

/-- A path as seen from another one; a path that starts at the root does not depend on it. -/
def append (base p : Path) : Path :=
  if p.isAbsolute then p else { base with names := base.names ++ p.names }

instance : HDiv Path Path Path := ⟨append⟩

/-- The last name of a path. -/
def lastName (p : Path) : String :=
  p.names.getLast?.getD ""

example : (ofText "/srv//app/./").text = "/srv/app" := by decide
example : (ofText "").text = "." := by decide

end Path

/-- A directory that a caller gives, as a text or as a path. -/
inductive BaseDirectory
  | text (s : String)
  | path (p : Path)

namespace BaseDirectory

/-- The path of the directory. -/
def toPath : BaseDirectory → Path
  | text s => Path.ofText s
  | path p => p

/-- The directory as a text. -/
def toText : BaseDirectory → String
  | text s => s
  | path p => p.text

/-- The directory as messages show it. -/
def display : BaseDirectory → String
  | text s => Text.quoted s
  | path p => "PosixPath(" ++ Text.quoted p.text ++ ")"

end BaseDirectory

end SqlCompiler
