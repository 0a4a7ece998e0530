import SqlCompiler.Ddl.Constraint
import SqlCompiler.Proofs.Text.Case

/-!
# What checks are made from

A column is checked if it has a constraint or a bound, and a check of the table has a name if it is
given one. An empty text counts as none in both places, and a bound of zero counts as a bound. The
name of a constraint is that of the table in lower case, an underscore and a name of its own.
-/

namespace SqlCompiler

open Sql

/-- A text that is left out, or empty, or there. -/
theorem filter_ne_empty_cases (o : Option String) :
    (o = none ∨ o = some "") ∧ o.filter (· ≠ "") = none ∨
      ∃ s, s ≠ "" ∧ o = some s ∧ o.filter (· ≠ "") = some s := by
  cases o with
  | none => exact .inl ⟨.inl rfl, rfl⟩
  | some s =>
    by_cases hempty : s = ""
    · rw [hempty]
      exact .inl ⟨.inr rfl, rfl⟩
    · exact .inr ⟨s, hempty, rfl, Option.filter_eq_some_iff.mpr ⟨rfl, decide_eq_true hempty⟩⟩

namespace Column

/-- The constraint of a column. An empty one is none. -/
def ownConstraint? (c : Column) : Option String :=
  c.constraint.filter (· ≠ "")

/-- Whether a column has a bound, which may be zero. -/
def isBounded (c : Column) : Bool :=
  c.minimum.isSome || c.exclusiveMinimum.isSome || c.maximum.isSome || c.exclusiveMaximum.isSome

/-- Whether something is demanded of the values of a column. -/
def isChecked (c : Column) : Bool :=
  c.ownConstraint?.isSome || c.isBounded

end Column

/-- The name of a check of the table. An empty one is none. -/
def Constraint.ownName? : Constraint → Option String
  | .expression _ => none
  | .check c => c.name.filter (· ≠ "")

namespace Ddl

open Sql.Fragment

/-! ## Demands -/

/-- The comparisons of a column with its bounds. -/
def bounds (name : String) (c : Column) : List Fragment :=
  boundTest name ">=" c.minimum ++ boundTest name ">" c.exclusiveMinimum
    ++ boundTest name "<=" c.maximum ++ boundTest name "<" c.exclusiveMaximum

theorem isEmpty_bounds (name : String) (c : Column) : (bounds name c).isEmpty = !c.isBounded := by
  unfold bounds Column.isBounded
  cases c.minimum <;> cases c.exclusiveMinimum <;> cases c.maximum <;>
    cases c.exclusiveMaximum <;> rfl

/-- The constraint of a column goes before its bounds. -/
theorem columnExpression?_eq (name : String) (c : Column) : columnExpression? name c =
    match c.ownConstraint? with
    | some sql => some (verbatim sql)
    | none => if c.isBounded then some (joined " AND " (bounds name c)) else none := by
  have hbounds : (if (bounds name c).isEmpty then none
      else some (joined " AND " (bounds name c))) =
        if c.isBounded then some (joined " AND " (bounds name c)) else none := by
    rw [isEmpty_bounds]
    cases c.isBounded <;> rfl
  unfold columnExpression? Column.ownConstraint?
  rcases filter_ne_empty_cases c.constraint with ⟨hnone | hnone, hown⟩ | ⟨sql, _, hsome, hown⟩
  · rw [hown, hnone]
    exact hbounds
  · rw [hown, hnone]
    exact hbounds
  · rw [hown, hsome]
    simp

/-! ## Names -/

/-- A name behind a stem is not empty. -/
theorem stem_append_ne_empty (stem name : String) : stem ++ "_" ++ name ≠ "" := by
  intro h
  have hstem := (String.append_eq_empty_iff.mp h).1
  exact absurd (String.append_eq_empty_iff.mp hstem).2 (by decide)

theorem stem_append_inj {stem a b : String} : stem ++ "_" ++ a = stem ++ "_" ++ b ↔ a = b := by
  refine ⟨fun h => ?_, congrArg _⟩
  rw [← String.toList_inj, String.toList_append (s := stem ++ "_") (t := a),
    String.toList_append (s := stem ++ "_") (t := b)] at h
  exact String.toList_inj.mp (List.append_cancel_left h)

/-- The lower case of a name stands behind that of its stem. -/
theorem lower_stem_append_inj {stem a b : String} :
    Text.lower (stem ++ "_" ++ a) = Text.lower (stem ++ "_" ++ b) ↔ Text.lower a = Text.lower b := by
  rw [Text.lower_append_underscore, Text.lower_append_underscore, stem_append_inj]

theorem checkName?_eq (stem : String) (name : Option String) : checkName? stem name =
    (name.filter (· ≠ "")).map fun n => Text.lower (stem ++ "_" ++ n) := by
  unfold checkName?
  rcases filter_ne_empty_cases name with ⟨rfl | rfl, _⟩ | ⟨n, hne, rfl, hown⟩
  · rfl
  · rfl
  · rw [hown]
    simp

/-- A check of the table that has a name has one behind the stem. -/
theorem ne_empty_of_checkName {stem : String} {name : Option String} {n : String}
    (h : checkName? stem name = some n) : n ≠ "" := by
  rw [checkName?_eq] at h
  obtain ⟨k, _, rfl⟩ := Option.map_eq_some_iff.mp h
  rw [Text.lower_append_underscore]
  exact stem_append_ne_empty _ _

end Ddl

end SqlCompiler
