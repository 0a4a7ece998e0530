import SqlCompiler.Schema.Issue
import SqlCompiler.Number.Numeral
import SqlCompiler.Number.Word
import SqlCompiler.Text.Case
import SqlCompiler.Text.Utf8

/-!
# Checking documents

A check of a document gives a typed value or everything that is wrong. Checks of the parts of a
document are combined so that no part hides the faults of another: the faults of all parts are
listed in order.
-/

namespace SqlCompiler

/-- The value that a check gives, or the faults it finds. -/
inductive Checked (α : Type)
  | valid (a : α)
  | invalid (issues : List Issue)

namespace Checked

/-- The faults found. -/
def issues {α : Type} : Checked α → List Issue
  | valid _ => []
  | invalid is => is

/-- Applies a checked function to a checked value; the faults of both are listed. -/
def apply {α β : Type} (f : Checked (α → β)) (x : Checked α) : Checked β :=
  match f, x with
  | valid f, valid a => valid (f a)
  | f, x => invalid (f.issues ++ x.issues)

/-- Applies a function to a checked value. -/
def map {α β : Type} (f : α → β) : Checked α → Checked β
  | valid a => valid (f a)
  | invalid is => invalid is

instance : Functor Checked where
  map := map

instance : Applicative Checked where
  pure := valid
  seq f x := apply f (x ())

/-- A single fault at the place of the value itself. -/
def fail {α : Type} (rule : Rule) : Checked α :=
  invalid [⟨[], rule⟩]

/-- Puts the faults one step further out. -/
def below {α : Type} (step : Step) : Checked α → Checked α
  | valid a => valid a
  | invalid is => invalid (is.map fun i => { i with place := step :: i.place })

/-- A further check of a valid value. -/
def andThen {α β : Type} (x : Checked α) (f : α → Checked β) : Checked β :=
  match x with
  | valid a => f a
  | invalid is => invalid is

/-- What the first check gives, else what the second does; the faults of both if neither gives a
value. -/
def either {α : Type} (x y : Checked α) : Checked α :=
  match x, y with
  | valid a, _ | _, valid a => valid a
  | invalid is, invalid js => invalid (is ++ js)

/-- Checks each member of a list at its position, from `start` on. -/
def itemsFrom {α : Type} (check : Value → Checked α) (start : Nat) : List Value → Checked (List α)
  | [] => valid []
  | v :: rest =>
    List.cons <$> below (.position start) (check v) <*> itemsFrom check (start + 1) rest

/-- Checks each member of an object under its key. -/
def members {α : Type} (check : Value → Checked α) : Members → Checked (List (String × α))
  | [] => valid []
  | (key, v) :: rest =>
    (fun a tail => (key, a) :: tail) <$> below (.key key) (check v) <*> members check rest

/-- The text that bytes encode; a rule is broken if there is none. -/
def decoded (rule : Rule) (bytes : List UInt8) : Checked String :=
  match Text.ofUtf8? bytes with
  | some s => valid s
  | none => fail rule

/-- A text, as itself or as bytes. -/
def text : Value → Checked String
  | .text s => valid s
  | .bytes bs => decoded .undecodable bs
  | _ => fail .notText

/-- Null, or what another check accepts. -/
def optional {α : Type} (check : Value → Checked α) : Value → Checked (Option α)
  | .null => valid none
  | v => some <$> check v

/-- The words for true and false, in any case. -/
def boolWords : List (String × Bool) :=
  [("0", false), ("off", false), ("f", false), ("false", false), ("n", false), ("no", false),
    ("1", true), ("on", true), ("t", true), ("true", true), ("y", true), ("yes", true)]

/-- The truth value that a word means. -/
def boolOfWord (s : String) : Checked Bool :=
  match boolWords.lookup (Text.lower s) with
  | some b => valid b
  | none => fail .unreadableBool

/-- The truth value of a whole number. -/
def boolOfInt (n : Int) : Checked Bool :=
  if n = 0 then valid false
  else if n = 1 then valid true
  else fail .unreadableBool

/-- The whole number that a binary one equals, if it lies inside the bounds of words. -/
def wordOfDouble? (x : Double) : Option Int :=
  x.whole?.filter fun n => -Word.signedBound < n && n < Word.signedBound

/-- The truth value of a binary number. -/
def boolOfDouble (x : Double) : Checked Bool :=
  match wordOfDouble? x with
  | some n => boolOfInt n
  | none => fail .notBool

/-- A truth value, as itself, as zero or one, or as a word. Numbers that do not fit in a word are no
truth values at all. -/
def bool : Value → Checked Bool
  | .bool b => valid b
  | .int n => if Word.fitsSigned n then boolOfInt n else fail .notBool
  | .float x => boolOfDouble x
  | .decimal d => boolOfDouble d.toDouble
  | .text s => boolOfWord s
  | .bytes bs => (decoded .unreadableBool bs).andThen boolOfWord
  | _ => fail .notBool

/-- The whole number that a text means. -/
def intOfText (s : String) : Checked Int :=
  match Numeral.ofField s with
  | .ok n => valid n
  | .error .unreadable => fail .unreadableInt
  | .error .tooLong => fail .tooLongInt

/-- The whole number that a binary one equals. -/
def intOfDouble (x : Double) : Checked Int :=
  match x.whole? with
  | some _ =>
    match wordOfDouble? x with
    | some n => valid n
    | none => fail .tooLongInt
  | none => if x.isFinite then fail .fractionalInt else fail .notFinite

/-- The whole number that a decimal one equals. -/
def intOfDecimal (d : Decimal) : Checked Int :=
  match d.whole? with
  | some n => valid n
  | none => if d.isFinite then fail .fractionalInt else fail .notFinite

/-- A whole number, as itself, as another number that equals it, or as a text. -/
def int : Value → Checked Int
  | .int n => valid n
  | .bool b => valid (if b then 1 else 0)
  | .float x => intOfDouble x
  | .decimal d => intOfDecimal d
  | .text s => intOfText s
  | .bytes bs => (decoded .unreadableInt bs).andThen intOfText
  | _ => fail .notInt

/-- The binary number that a text means. -/
def realOfText (s : String) : Checked Double :=
  match Numeral.realOfField? s with
  | some x => valid x
  | none => fail .unreadableFloat

/-- A binary number, as itself, as another number near it, or as a text. -/
def real : Value → Checked Double
  | .float x => valid x
  | .int n => if (Double.ofInt n).isFinite then valid (Double.ofInt n) else fail .notFloat
  | .bool b => valid (Double.ofInt (if b then 1 else 0))
  | .decimal d => if d.isSignalling then fail .notFloat else valid d.toDouble
  | .text s => realOfText s
  | .bytes bs => (decoded .unreadableFloat bs).andThen realOfText
  | _ => fail .notFloat

/-- A whole number that is not negative. -/
def nat (v : Value) : Checked Nat :=
  (int v).andThen fun n => if 0 ≤ n then valid n.toNat else fail .tooSmall

/-- What a name means. -/
def named {α : Type} (ofName? : String → Option α) (s : String) : Checked α :=
  match ofName? s with
  | some a => valid a
  | none => fail .notMember

/-- A member of a set of names. -/
def name {α : Type} (ofName? : String → Option α) : Value → Checked α
  | .text s => named ofName? s
  | .bytes bs => (decoded .notMember bs).andThen (named ofName?)
  | _ => fail .notMember

/-- A list, tuple or set whose members pass a check. -/
def list {α : Type} (check : Value → Checked α) : Value → Checked (List α)
  | .list items | .tuple items | .set items | .frozenSet items => itemsFrom check 0 items
  | _ => fail .notList

/-- An object whose members pass a check. -/
def object {α : Type} (check : Value → Checked α) : Value → Checked (List (String × α))
  | .object ms => members check ms
  | _ => fail .notObject

/-- The member of a field: under its key, else under its other spelling. -/
def member? (data : Members) (key spelling : String) : Option (String × Value) :=
  ((data.get? key).map (key, ·)).or ((data.get? spelling).map (spelling, ·))

/-- A field that may be absent. Its place is the spelling in use. -/
def field {α : Type} (data : Members) (key spelling : String) (absent : α)
    (check : Value → Checked α) : Checked α :=
  match member? data key spelling with
  | some (used, v) => below (.key used) (check v)
  | none => valid absent

/-- A field that must be present. -/
def requiredField {α : Type} (data : Members) (key : String) (check : Value → Checked α) :
    Checked α :=
  below (.key key) (match data.get? key with
    | some v => check v
    | none => fail .missing)

end Checked

end SqlCompiler
