import SqlCompiler.Value.Display

/-!
# What is wrong with a document

A fault of a document names the place, from the outside in, and the rule that is broken there.
-/

namespace SqlCompiler

/-- A step into a document: a member by its key, or an item by its position. -/
inductive Step
  | key (name : String)
  | position (index : Nat)
deriving DecidableEq

/-- The rules that a document can break. -/
inductive Rule
  | notText
  | undecodable
  | missing
  | notBool
  | unreadableBool
  | notInt
  | unreadableInt
  | tooLongInt
  | fractionalInt
  | notFinite
  | notFloat
  | unreadableFloat
  | tooSmall
  | notMember
  | notList
  | notObject
  | notModel
  | tooShort
  | frozen
  | broken (reason : String)
deriving DecidableEq

/-- The name of a rule in reports. -/
def Rule.name : Rule → String
  | notText => "string_type"
  | undecodable => "string_unicode"
  | missing => "missing"
  | notBool => "bool_type"
  | unreadableBool => "bool_parsing"
  | notInt => "int_type"
  | unreadableInt => "int_parsing"
  | tooLongInt => "int_parsing_size"
  | fractionalInt => "int_from_float"
  | notFinite => "finite_number"
  | notFloat => "float_type"
  | unreadableFloat => "float_parsing"
  | tooSmall => "greater_than_equal"
  | notMember => "enum"
  | notList => "list_type"
  | notObject => "dict_type"
  | notModel => "model_type"
  | tooShort => "too_short"
  | frozen => "frozen_instance"
  | broken _ => "value_error"

/-- The wording of a rule that has one. -/
def Rule.message? : Rule → Option String
  | broken reason => some ("Value error, " ++ reason)
  | _ => none

/-- A broken rule and its place. -/
structure Issue where
  place : List Step
  rule : Rule
deriving DecidableEq

end SqlCompiler
