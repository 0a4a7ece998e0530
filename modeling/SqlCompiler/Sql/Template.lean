import SqlCompiler.Number.Numeral
import SqlCompiler.Sql.Term

/-!
# Templates

A template is text with slots for fragments. Its written form puts a slot between braces and doubles
the braces of the text; `Template.read` reads that form back, for slots that are numbered, counted
or named. Filling a template puts fragments into the slots and never reads a fragment's text as
template.
-/

namespace SqlCompiler.Sql

/-- A piece of a template. -/
inductive Piece (σ : Type)
  | text (s : String)
  | slot (s : σ)
deriving DecidableEq

/-- Text with slots. -/
abbrev Template (σ : Type) := List (Piece σ)

namespace Template

/-- Puts a fragment into every slot. -/
def fill {σ : Type} (f : σ → Fragment) (t : Template σ) : Fragment :=
  .sequence (t.map fun
    | .text s => .verbatim s
    | .slot s => f s)

/-- Text with its braces doubled. -/
def escape (s : List Char) : List Char :=
  s.flatMap fun c => if c = '{' ∨ c = '}' then [c, c] else [c]

/-- The written form, a slot between braces. -/
def source {σ : Type} (label : σ → String) (t : Template σ) : String :=
  String.join (t.map fun
    | .text s => String.ofList (escape s.toList)
    | .slot s => "\x7b" ++ label s ++ "\x7d")

/-- A slot as it is written: its name up to the first colon or exclamation mark, and whether
anything but nothing follows them. -/
structure WrittenSlot where
  name : List Char
  formatted : Bool
deriving DecidableEq

/-- Skips to the closing bracket and gives the skipped part, reversed onto `read`. -/
def skipIndex (read : List Char) : List Char → List Char × List Char
  | [] => (read, [])
  | ']' :: rest => (read, ']' :: rest)
  | c :: rest => skipIndex (c :: read) rest

theorem length_skipIndex (read s : List Char) : (skipIndex read s).2.length ≤ s.length := by
  fun_induction skipIndex read s <;> simp_all
  omega

/-- Reads the name of a slot and the character that ends it. A bracket hides what it encloses. -/
def readName (read : List Char) : List Char → Option (List Char × Char × List Char)
  | [] => none
  | c :: rest =>
    if c = '{' then none
    else if c = '}' ∨ c = ':' ∨ c = '!' then some (read.reverse, c, rest)
    else if c = '[' then
      let skipped := skipIndex (c :: read) rest
      readName skipped.1 skipped.2
    else readName (c :: read) rest
termination_by s => s.length
decreasing_by
  · have := length_skipIndex (c :: read) rest
    simp only [List.length_cons]; omega
  · simp

/-- Skips a format to the brace that closes the slot and tells whether the format is empty. -/
def skipFormat (depth : Nat) (empty : Bool) : List Char → Option (Bool × List Char)
  | [] => none
  | '{' :: rest => skipFormat (depth + 1) false rest
  | '}' :: rest => if depth = 0 then some (empty, rest) else skipFormat (depth - 1) false rest
  | _ :: rest => skipFormat depth false rest

/-- Reads a slot behind its opening brace. -/
def readSlot (s : List Char) : Option (WrittenSlot × List Char) := do
  let (name, stop, rest) ← readName [] s
  if stop = '}' then return (⟨name, false⟩, rest)
  else if stop = ':' then
    let (empty, rest) ← skipFormat 0 true rest
    return (⟨name, !empty⟩, rest)
  else
    let conversion :: rest := rest | none
    let converted := conversion != '\x00'
    match rest with
    | '}' :: rest => return (⟨name, converted⟩, rest)
    | ':' :: rest =>
      let (empty, rest) ← skipFormat 0 true rest
      return (⟨name, converted || !empty⟩, rest)
    | _ => none

/-- Reads pieces, at most `bound` of them; a fault ends them. A doubled brace ends the text before
it, which it belongs to. -/
def readPieces (bound : Nat) (s : List Char) : Template WrittenSlot × Bool :=
  match bound with
  | 0 => ([], false)
  | bound + 1 =>
    if s.isEmpty then ([], false)
    else
      let isBrace := fun (c : Char) => c = '{' ∨ c = '}'
      let before := s.takeWhile fun c => !isBrace c
      let text : List Char → Template WrittenSlot := fun t =>
        if t.isEmpty then [] else [.text (String.ofList t)]
      match s.dropWhile fun c => !isBrace c with
      | [] => (text before, false)
      | [_] => ([], true)
      | c :: d :: rest =>
        if c = d then
          let (pieces, fault) := readPieces bound rest
          (text (before ++ [c]) ++ pieces, fault)
        else if c = '}' then ([], true)
        else
          match readSlot (d :: rest) with
          | none => ([], true)
          | some (slot, rest) =>
            let (pieces, fault) := readPieces bound rest
            (text before ++ .slot slot :: pieces, fault)

/-- The pieces of a written template, up to its first fault, and whether there is one. -/
def read (s : String) : Template WrittenSlot × Bool :=
  readPieces (s.toList.length + 1) s.toList

example :
    read "a\x7b\x7bb\x7bx\x7d" = ([.text "a\x7b", .text "b", .slot ⟨['x'], false⟩], false) := by
  cbv

end Template

/-- The fragments to fill a template with, by position and by name. -/
structure SlotArguments where
  positional : List Term
  named : List (String × Term)

/-- How counted slots are numbered: by the next position, or not at all after a numbered slot. -/
abbrev Numbering := Option Nat

/-- The number of a slot, which has as many digits as other numbers may. -/
def slotNumber? (name : List Char) : Option Nat :=
  if Numeral.maxLength < name.length then none else Text.digitsValue? name

/-- What goes into a slot, and the numbering after it. -/
def SlotArguments.resolve (args : SlotArguments) (numbering : Numbering) (name : List Char) :
    Except FragmentError (Term × Numbering) :=
  if name.isEmpty then
    match numbering with
    | none => .error .switchedNumbering
    | some n =>
      match args.positional[n]? with
      | some term => .ok (term, some (n + 1))
      | none => .error .noSuchPosition
  else if name.all Text.looksLikeDigit then
    match slotNumber? name with
    | none => .error .slotNumberNotDecimal
    | some n =>
      match args.positional[n]? with
      | some term => .ok (term, none)
      | none => .error .noSuchPosition
  else
    match args.named.lookup (String.ofList name) with
    | some term => .ok (term, numbering)
    | none => .error .noSuchName

/-- Fills the pieces of a written template from left to right. -/
def fillPieces (args : SlotArguments) (numbering : Numbering) :
    Template Template.WrittenSlot → Except FragmentError (List Fragment)
  | [] => .ok []
  | .text s :: rest => do
    return .verbatim s :: (← fillPieces args numbering rest)
  | .slot slot :: rest => do
    if slot.formatted then .error .formattedSlot
    else
      let (term, numbering) ← args.resolve numbering slot.name
      match term with
      | .value v => .error (.slotNotFragment v.kind)
      | .fragment f => return f :: (← fillPieces args numbering rest)

/-- The name under which a template itself is given to be filled. -/
def Template.ownName : String :=
  "self"

/-- Fills a written template. A fragment under the template's own name is refused before anything
else; a fault in the form of the template counts only behind everything before it. -/
def Fragment.format (template : String) (args : SlotArguments) : Except FragmentError Fragment := do
  if (args.named.lookup Template.ownName).isSome then .error .ownNameGiven
  else
    let (pieces, fault) := Template.read template
    let parts ← fillPieces args (some 0) pieces
    if fault then .error .malformedTemplate else return .sequence parts

end SqlCompiler.Sql
