import SqlCompiler.Digest.Base64
import SqlCompiler.Digest.Sha1
import SqlCompiler.Files.Tree
import SqlCompiler.Schema.Basic

/-!
# Where schemas come from

A generated schema has an id and a tag. The id is the URL of the file it was generated from, and the
second of the generation behind a hash sign. The tag is a digest of the content of the file.
-/

namespace SqlCompiler.Freshness

/-- How ids of files begin. -/
def fileScheme : String :=
  "file://"

/-- How ids of files begin that are seen from the base directory. -/
def relativeScheme : String :=
  "file://./"

/-- The tag of a content under a digest: the size in hexadecimal digits, and the digest in Base64
without the last mark. -/
def etagWith (digest : List UInt8 → List UInt8) (content : List UInt8) : String :=
  "\"" ++ String.ofList (Text.hex content.length) ++ "-"
    ++ String.ofList ((Base64.encode (digest content)).take 27) ++ "\""

/-- The tag of a content. -/
def etag (content : List UInt8) : String :=
  etagWith Sha1.digest content

/-- The tag of the content of a file. -/
def fileEtag (tree : FileTree) (path : Path) : Except FileError String := do
  return etag (← tree.read path)

/-- The id of a file and the second it was read in. -/
def schemaId (file : Path) (now : Instant) : String :=
  (if file.isAbsolute then fileScheme else relativeScheme) ++ file.text ++ "#" ++ now.stamp

/-- The part of an id before the first hash sign. -/
def location (id : String) : String :=
  String.ofList (id.toList.takeWhile (· != '#'))

/-- The part of an id behind the first hash sign, empty if there is none. -/
def stampOf (id : String) : String :=
  String.ofList ((id.toList.dropWhile (· != '#')).drop 1)

/-- The part of a text behind a beginning, if it has that beginning. -/
def afterStart? (start s : String) : Option String :=
  if start.toList.isPrefixOf s.toList then some (String.ofList (s.toList.drop start.length))
  else none

/-- The file that an id refers to. A relative one needs an absolute base directory. -/
def sourcePath (id : String) (base : Option BaseDirectory) : Except SchemaError Path :=
  match afterStart? relativeScheme (location id) with
  | some rest =>
    match base with
    | some b =>
      if b.toPath.isAbsolute then .ok (b.toPath / Path.ofText rest)
      else .error (.relativeBase id b.display)
    | none => .error (.relativeBase id "None")
  | none =>
    match afterStart? fileScheme (location id) with
    | some rest => .ok (Path.ofText rest)
    | none => .error (.notFileUrl id)

end SqlCompiler.Freshness
