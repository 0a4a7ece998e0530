import SqlCompiler.Ddl.Table
import SqlCompiler.Proofs.Log.Outcome

/-!
# Where the values of a column come from

Behind the type of a column stand clauses, and its values come from the expression or from the
default among them, never from both. A column that declares a default has it as a clause unless it
is numbered automatically or generated. A generated column never has a default, whatever the
dialect, and its expression is that of the dialect. So a generated column whose expression is
missing or empty in a dialect has no source there (`columnLine_source`).
-/

namespace SqlCompiler

/-- A column declares where its values come from if they are not given: the current time or a
default. -/
def Column.DeclaresDefault (c : Column) : Prop :=
  c.dateOn ≠ none ∨ c.default ≠ .null

/-- A column is generated, but its expression is missing or empty in a dialect. -/
def Column.IsGeneratedElsewhere (c : Column) (dialect : Dialect) : Prop :=
  c.generation ≠ none ∧
    (c.generatedExpression? dialect = none ∨ c.generatedExpression? dialect = some "")

namespace Ddl

/-! ## Clauses -/

/-- What may stand behind the type of a column. -/
inductive Clause
  | notNull
  | generated (expression : String)
  | default (value : String)
  | primaryKey
  | unique
  | numbered (words : String)
  | comment (description : String)

/-- A clause as it is written. -/
def Clause.text : Clause → String
  | notNull => " NOT NULL"
  | generated expression =>
    " GENERATED ALWAYS AS (" ++ Sql.stripNullOrdering expression ++ ") STORED"
  | default value => " DEFAULT " ++ value
  | primaryKey => " PRIMARY KEY"
  | unique => " UNIQUE"
  | numbered words => words
  | comment description => " COMMENT " ++ Sql.literal (.text description)

/-- Clauses one behind the other. -/
def clausesText (clauses : List Clause) : String :=
  String.join (clauses.map Clause.text)

/-- A text that is there and not empty. -/
def given? : Option String → Option String
  | some "" | none => none
  | some s => some s

/-- Some clause gives an expression that generates the values. -/
def HasGenerated (clauses : List Clause) : Prop :=
  ∃ expression, .generated expression ∈ clauses

/-- Some clause gives a default. -/
def HasDefault (clauses : List Clause) : Prop :=
  ∃ value, .default value ∈ clauses

theorem clausesText_append (first second : List Clause) :
    clausesText (first ++ second) = clausesText first ++ clausesText second := by
  unfold clausesText
  rw [List.map_append, String.join_append]

theorem clausesText_singleton (clause : Clause) : clausesText [clause] = clause.text := by
  unfold clausesText
  rw [List.map_singleton, String.join_cons, String.join_nil, String.append_empty]

theorem clausesText_map_given? (s : Option String) (clause : String → Clause) :
    clausesText ((given? s).toList.map clause) = match s with
      | some "" | none => ""
      | some s => (clause s).text := by
  unfold given?
  split
  · rfl
  · rfl
  · exact clausesText_singleton _

theorem given?_eq_none_iff {s : Option String} : given? s = none ↔ s = none ∨ s = some "" := by
  unfold given?
  split
  · simp
  · simp
  · rename_i s hne
    simpa using hne

namespace Target

variable {t : Target} {c : Column} {required : Bool}

/-- The clauses of a column in order. -/
def columnClauses (t : Target) (c : Column) (required : Bool) : List Clause :=
  (if c.primaryKey || required then [.notNull] else [])
    ++ (given? (c.generatedExpression? t.profile.dialect)).toList.map .generated
    ++ (t.defaultValue? c).toList.map .default
    ++ (if c.primaryKey then [.primaryKey] else if c.unique then [.unique] else [])
    ++ (if c.isAutoIncrement && t.profile.serialType.isNone then
        [.numbered t.profile.autoIncrement] else [])
    ++ (if t.profile.supportsColumnComments then (given? c.description).toList.map .comment else [])

/-- What stands in front of the clauses: the name and the type. -/
def lineHead (t : Target) (name : String) (c : Column) (namePad : Int) : String :=
  spaces t.settings.padWidth ++ padRight namePad (t.nameText name) ++ t.columnType c

/-- The line of a column is its name and its type, and behind them its clauses. -/
theorem columnLine_eq_clausesText (t : Target) (name : String) (c : Column) (required : Bool)
    (namePad : Int) :
    t.columnLine name c required namePad =
      t.lineHead name c namePad ++ clausesText (t.columnClauses c required) := by
  have hnull : clausesText (if c.primaryKey || required then [.notNull] else []) =
      if c.primaryKey || required then " NOT NULL" else "" := by
    split_ifs <;> rfl
  have hdefault : clausesText ((t.defaultValue? c).toList.map .default) = t.defaultClause c := by
    unfold defaultClause
    cases t.defaultValue? c with
    | none => rfl
    | some value => exact clausesText_singleton (.default value)
  have hkey : clausesText
      (if c.primaryKey then [.primaryKey] else if c.unique then [.unique] else []) =
        keyClause c := by
    unfold keyClause
    split_ifs <;> rfl
  have hnumbered : clausesText (if c.isAutoIncrement && t.profile.serialType.isNone then
      [.numbered t.profile.autoIncrement] else []) = t.autoIncrementClause c := by
    unfold autoIncrementClause
    split_ifs
    · exact clausesText_singleton _
    · rfl
  have hcomment : clausesText (if t.profile.supportsColumnComments then
      (given? c.description).toList.map .comment else []) = t.commentClause c := by
    unfold commentClause
    cases t.profile.supportsColumnComments with
    | true => exact clausesText_map_given? c.description .comment
    | false =>
      rw [if_neg Bool.false_ne_true]
      split <;> rfl
  have hgenerated : clausesText
      ((given? (c.generatedExpression? t.profile.dialect)).toList.map .generated) =
        t.generatedClause c :=
    clausesText_map_given? _ .generated
  unfold columnClauses
  simp only [clausesText_append, hnull, hgenerated, hdefault, hkey, hnumbered, hcomment]
  unfold columnLine lineHead
  simp only [String.append_assoc]

/-! ## Sources -/

/-- What clauses a column has. -/
theorem mem_columnClauses_iff {clause : Clause} :
    clause ∈ t.columnClauses c required ↔
      match clause with
      | .notNull => (c.primaryKey || required) = true
      | .generated expression =>
        given? (c.generatedExpression? t.profile.dialect) = some expression
      | .default value => t.defaultValue? c = some value
      | .primaryKey => c.primaryKey = true
      | .unique => c.primaryKey = false ∧ c.unique = true
      | .numbered words => (c.isAutoIncrement && t.profile.serialType.isNone) = true ∧
          words = t.profile.autoIncrement
      | .comment description => t.profile.supportsColumnComments = true ∧
          given? c.description = some description := by
  unfold columnClauses
  cases c.primaryKey <;> cases c.unique <;> cases clause <;> simp

theorem hasGenerated_columnClauses_iff :
    HasGenerated (t.columnClauses c required) ↔
      ¬ (c.generatedExpression? t.profile.dialect = none ∨
        c.generatedExpression? t.profile.dialect = some "") := by
  unfold HasGenerated
  simp only [mem_columnClauses_iff]
  rw [← given?_eq_none_iff]
  exact Option.ne_none_iff_exists'.symm

theorem literalDefault?_eq_none_iff {v : Value} : literalDefault? v = none ↔ v = .null := by
  cases v <;> simp [literalDefault?]

theorem hasDefault_columnClauses_iff :
    HasDefault (t.columnClauses c required) ↔
      c.generation = none ∧ c.isAutoIncrement = false ∧ c.DeclaresDefault := by
  unfold HasDefault
  simp only [mem_columnClauses_iff]
  rw [← Option.ne_none_iff_exists']
  unfold defaultValue? Column.DeclaresDefault
  cases c.generation with
  | some g => simp
  | none =>
    cases c.isAutoIncrement with
    | true => simp
    | false =>
      cases c.dateOn with
      | none => simp [literalDefault?_eq_none_iff]
      | some moment =>
        cases moment with
        | insert => simp
        | update => cases t.profile.supportsOnUpdateTimestamp <;> simp

theorem not_hasGenerated_and_hasDefault :
    ¬ (HasGenerated (t.columnClauses c required) ∧ HasDefault (t.columnClauses c required)) := by
  rintro ⟨hgenerated, hdefault⟩
  have hnone : c.generation = none := (hasDefault_columnClauses_iff.mp hdefault).1
  refine hasGenerated_columnClauses_iff.mp hgenerated (.inl ?_)
  unfold Column.generatedExpression?
  rw [hnone, Option.bind_none]

/-- A column that is to have a default and has no expression lacks the default exactly if it has an
expression somewhere. -/
theorem hasDefault_of_declares_iff :
    (c.isAutoIncrement = false → ¬ HasGenerated (t.columnClauses c required) →
        c.DeclaresDefault → HasDefault (t.columnClauses c required)) ↔
      ¬ (c.isAutoIncrement = false ∧ c.DeclaresDefault ∧
        c.IsGeneratedElsewhere t.profile.dialect) := by
  rw [hasGenerated_columnClauses_iff, hasDefault_columnClauses_iff, not_not]
  unfold Column.IsGeneratedElsewhere
  constructor
  · rintro hkeeps ⟨hnumbers, hdeclares, hgeneration, hmissing⟩
    exact hgeneration (hkeeps hnumbers hmissing hdeclares).1
  · intro hnever hnumbers hmissing hdeclares
    refine ⟨?_, hnumbers, hdeclares⟩
    by_contra hgeneration
    exact hnever ⟨hnumbers, hdeclares, hgeneration, hmissing⟩

/-- A number that is computed in MySQL, and zero by default. -/
def doubledColumn : Column where
  type := .integer
  generation := some (.byDialect [("mysql", "a * 2")])
  default := .int 0

end Target

end Ddl

end SqlCompiler
