import SqlCompiler.Sql.Identifier
import SqlCompiler.Sql.Literal

/-!
# Fragments of statements

A statement is put together from typed parts and turned into text once, at the end: verbatim text,
identifiers, literals and placeholders, and sequences of them. What a placeholder stands for is
never part of a fragment.
-/

namespace SqlCompiler.Sql

/-- A part of a statement. An identifier is a path of names, outermost first. -/
inductive Fragment
  | verbatim (text : String)
  | identifier (path : List String)
  | literal (value : Value)
  | placeholder
  | sequence (parts : List Fragment)
deriving Inhabited

/-- Why a fragment cannot be built. -/
inductive FragmentError
  | verbatimNotText (kind : String)
  | noName
  | badName (name : Value)
  | partNotFragment (kind : String)
  | slotNotFragment (kind : String)
  | malformedTemplate
  | formattedSlot
  | switchedNumbering
  | slotNumberNotDecimal
  | noSuchPosition
  | noSuchName
  | ownNameGiven
  | cannotAdd
  | cannotJoin
  | notIterable
  | notKey
  | noJoin
  | noRender

/-- The wording of an error, for those that have one. -/
def FragmentError.message? : FragmentError → Option String
  | verbatimNotText kind => some ("SQL values must be strings, got " ++ kind)
  | noName => some "Identifier requires at least one name"
  | badName name => some ("Identifier names must be non-empty strings, got " ++ name.display)
  | partNotFragment kind => some ("Composed elements must be Composable, got " ++ kind)
  | slotNotFragment kind => some ("format arguments must be Composable, got " ++ kind)
  | formattedSlot => some "format specifiers and conversions are not supported"
  | switchedNumbering => some "cannot switch from manual to automatic field numbering"
  | _ => none

namespace Fragment

/-- A name of its own. -/
abbrev name (s : String) : Fragment :=
  identifier [s]

mutual

/-- The text of a fragment, identifiers quoted by `quote` where they need it. -/
def render (quote : String) : Fragment → String
  | verbatim text => text
  | identifier path => ".".intercalate (path.map (quoteIdentifier quote))
  | literal value => Sql.literal value
  | placeholder => "?"
  | sequence parts => renderAll quote parts

/-- The texts of fragments, one behind the other. -/
def renderAll (quote : String) : List Fragment → String
  | [] => ""
  | part :: rest => render quote part ++ renderAll quote rest

end

mutual

/-- The first identifier without names or with an empty name. -/
def nameError? : Fragment → Option FragmentError
  | identifier [] => some .noName
  | identifier path => if path.contains "" then some (.badName (.text "")) else none
  | sequence parts => nameErrorIn? parts
  | _ => none

/-- The first error in any of the fragments. -/
def nameErrorIn? : List Fragment → Option FragmentError
  | [] => none
  | part :: rest => (nameError? part).or (nameErrorIn? rest)

end

/-- The text of a fragment, refused if an identifier has no name. -/
def render? (quote : String) (f : Fragment) : Except FragmentError String :=
  match f.nameError? with
  | some e => .error e
  | none => .ok (f.render quote)

mutual

/-- Whether two fragments are built alike: literals count as alike when they display alike. -/
def alike : Fragment → Fragment → Bool
  | verbatim a, verbatim b => a == b
  | identifier a, identifier b => a == b
  | literal a, literal b => a.display == b.display
  | placeholder, placeholder => true
  | sequence as, sequence bs => alikeAll as bs
  | _, _ => false

/-- Whether two lists of fragments are alike member by member. -/
def alikeAll : List Fragment → List Fragment → Bool
  | [], [] => true
  | a :: as, b :: bs => alike a b && alikeAll as bs
  | _, _ => false

end

/-- The name of a fragment's kind. -/
def kind : Fragment → String
  | verbatim _ => "SQL"
  | identifier _ => "Identifier"
  | literal _ => "Literal"
  | placeholder => "Placeholder"
  | sequence _ => "Composed"

mutual

/-- A fragment with its structure visible. -/
def display : Fragment → String
  | verbatim text => "SQL(" ++ Text.quoted text ++ ")"
  | identifier path => "Identifier(" ++ joinWith ", " (path.map Text.quoted) ++ ")"
  | literal value => "Literal(" ++ value.display ++ ")"
  | placeholder => "Placeholder()"
  | sequence parts => "Composed([" ++ joinWith ", " (displayAll parts) ++ "])"

/-- Each of the fragments, displayed. -/
def displayAll : List Fragment → List String
  | [] => []
  | part :: rest => display part :: displayAll rest

end

/-- A separator between any two of the fragments. -/
def interleave (separator : Fragment) : List Fragment → List Fragment
  | [] => []
  | [part] => [part]
  | part :: rest => part :: separator :: interleave separator rest

/-- Fragments with a text between any two. -/
def joined (separator : String) (parts : List Fragment) : Fragment :=
  sequence (interleave (verbatim separator) parts)

/-- The members of a sequence; any other fragment is its own only member. -/
def members : Fragment → List Fragment
  | sequence parts => parts
  | f => [f]

/-- One fragment behind another, as one sequence. -/
def append (a b : Fragment) : Fragment :=
  sequence (a.members ++ b.members)

end Fragment

end SqlCompiler.Sql
