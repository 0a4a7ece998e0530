import SqlCompiler.Proofs.Condition.Reading
import SqlCompiler.Proofs.Sql.Supply

/-!
# The arguments of conditions

The fragment of a condition and its arguments are made separately, and a statement only works if
they agree. `ConditionTarget.stated` is the condition as an expression with every operand in its own
place. Supplied with its arguments from left to right, the fragment is that expression, and no
argument is left (`takes_conditionFragment`). For the value that spells the condition the arguments
are its operands in order (`arguments_eq_operands`); only a test for a member and a search pass
their operand on in the form that the dialect asks for (`Dialect.memberArgument`,
`Dialect.searchArgument`).
-/

namespace SqlCompiler

open Sql (Fragment)
open Sql.Fragment (Takes TakeAll takes_placeholder takes_of_placeholders_eq_zero)

namespace Dialect

/-- What the conditions of a dialect are compiled for. -/
def target (d : Dialect) (columns : List String) (language : String) : ConditionTarget :=
  ⟨d.profile, columns, language⟩

/-- The argument of a test for a member: the operand itself, and in SQLite its text with a percent
sign on each side, which stands for any other text. -/
def memberArgument : Dialect → Value → Value
  | mysql, operand | postgres, operand => operand
  | sqlite, operand => .text ("%" ++ operand.plain ++ "%")

/-- The argument of a search. With a full-text index MySQL looks for words that start with the term
and PostgreSQL for the term; without one, and in SQLite, the term is between percent signs. -/
def searchArgument : Dialect → List String → Value → Value
  | mysql, _ :: _, term => .text (term.plain ++ "*")
  | postgres, _ :: _, term => .text term.plain
  | _, _, term => .text ("%" ++ term.plain ++ "%")

end Dialect

namespace ConditionTarget

variable (d : Dialect) (columns : List String) (language : String)

/-! ## Conditions with their operands in place -/

/-- A column, an operator and an operand. -/
def statedInfix (column : List String) (operator : String) (operand : Value) : Fragment :=
  .sequence [.identifier column, .verbatim " ", .verbatim operator, .verbatim " ",
    .literal operand]

/-- A predicate with its operands in place; none if nothing is asked. -/
def statedPredicate (column : List String) : Predicate → Option Fragment
  | .compare comparison operand =>
    some (statedInfix column (comparisonSql comparison operand) operand)
  | .isMember negated [] => some (.verbatim (if negated then "TRUE" else "FALSE"))
  | .isMember negated operands =>
    some (.sequence [.identifier column, .verbatim " ", .verbatim (membership negated).sql,
      .verbatim " (", .joined "," (operands.map .literal), .verbatim ")"])
  | .between low high =>
    some (.sequence [.identifier column, .verbatim " BETWEEN ", .literal low, .verbatim " AND ",
      .literal high])
  | .contains operand =>
    some (d.profile.containsTemplate.fill fun
      | .column => .identifier column
      | .value => .literal (d.memberArgument operand))
  | .matchesRegex operand => some (statedInfix column d.profile.regexOperator operand)
  | .search term =>
    if term.isPresent then
      match (d.target columns language).searchTemplate? with
      | some template => some (template.fill fun
        | .columns => fulltextExpression d.profile columns
        | .term => .literal (d.searchArgument columns term)
        | .language => .literal (.text language))
      | none => some (statedInfix column "LIKE" (d.searchArgument columns term))
    else none

mutual

/-- An entry with its operands in place; none if nothing is asked. -/
def statedEntry : Entry → Option Fragment
  | .test column predicate => statedPredicate d columns language (columnPath column) predicate
  | .verbatim sql => some (parenthesized (.verbatim sql))
  | .combine _ [] => some (.verbatim "TRUE")
  | .combine combinator children =>
    some (parenthesized (.joined (" " ++ combinator.sql ++ " ") (statedChildren children)))

/-- The entries that ask for something, with their operands in place. -/
def statedEntries : List Entry → List Fragment
  | [] => []
  | entry :: rest =>
    match statedEntry entry with
    | some f => f :: statedEntries rest
    | none => statedEntries rest

/-- Combined conditions with their operands in place. -/
def statedChildren : List (List Entry) → List Fragment
  | [] => []
  | child :: rest => conjunction (statedEntries child) :: statedChildren rest

end

/-- A condition with its operands in place. -/
def stated (condition : Condition) : Fragment :=
  conjunction (statedEntries d columns language condition)

/-! ## Supplying the arguments -/

/-- What may be a fragment takes arguments and becomes what may be another one. -/
inductive TakesIfAny : Option Fragment → List Value → Option Fragment → Prop
  | none : TakesIfAny none [] none
  | some {f g : Fragment} {args : List Value} (h : f.Takes args g) :
    TakesIfAny (some f) args (some g)

variable {d : Dialect} {columns : List String} {language : String}

theorem takes_verbatim (s : String) : (Fragment.verbatim s).Takes [] (.verbatim s) :=
  takes_of_placeholders_eq_zero rfl

theorem takes_identifier (path : List String) :
    (Fragment.identifier path).Takes [] (.identifier path) :=
  takes_of_placeholders_eq_zero rfl

theorem takes_infixed (column : List String) (operator : String) (v : Value) :
    (infixed column operator).Takes [v] (statedInfix column operator v) :=
  TakeAll.sequence (.cons_nil (takes_identifier column) (.cons_nil (takes_verbatim _)
    (.cons_nil (takes_verbatim _) (.cons_nil (takes_verbatim _)
      (.cons (takes_placeholder v) .nil)))))

theorem takes_parenthesized {f g : Fragment} {args : List Value} (h : f.Takes args g) :
    (parenthesized f).Takes args (parenthesized g) := by
  have hs : TakeAll [f, .verbatim ")"] (args ++ []) [g, .verbatim ")"] :=
    .cons h (.cons_nil (takes_verbatim _) .nil)
  rw [List.append_nil] at hs
  exact TakeAll.sequence (.cons_nil (takes_verbatim _) hs)

theorem takes_conjunction {fs gs : List Fragment} {args : List Value} (h : TakeAll fs args gs) :
    (conjunction fs).Takes args (conjunction gs) := by
  cases h with
  | nil => exact takes_verbatim _
  | cons h hs => exact TakeAll.joined _ (.cons h hs)

theorem placeholders_fulltextExpression (profile : Profile) (columns : List String) :
    (fulltextExpression profile columns).placeholders = 0 := by
  unfold fulltextExpression
  split
  all_goals
    refine Sql.Fragment.placeholders_joined _ fun f hf => ?_
    obtain ⟨c, _, rfl⟩ := List.mem_map.mp hf
    rfl

/-- A membership takes its operands in order. -/
theorem takes_isMember (column : List String) (negated : Bool) (v : Value) (vs : List Value) :
    TakesIfAny ((d.target columns language).predicateFragment column (.isMember negated (v :: vs)))
      (v :: vs) (statedPredicate d columns language column (.isMember negated (v :: vs))) := by
  have hs := TakeAll.joined "," (Sql.Fragment.takeAll_map_placeholder (v :: vs))
  have h : TakeAll _ ((v :: vs) ++ []) _ :=
    .cons hs (.cons_nil (takes_verbatim ")") .nil)
  rw [List.append_nil] at h
  refine .some (TakeAll.sequence (.cons_nil (takes_identifier column)
    (.cons_nil (takes_verbatim _) (.cons_nil ?_ (.cons_nil (takes_verbatim _) h)))))
  cases negated <;> exact takes_verbatim _

theorem takes_contains (column : List String) (operand : Value) :
    TakesIfAny ((d.target columns language).predicateFragment column (.contains operand))
      [d.memberArgument operand]
      (statedPredicate d columns language column (.contains operand)) := by
  refine .some ?_
  cases d with
  | mysql => exact fun _ => rfl
  | postgres => exact fun _ => rfl
  | sqlite => exact fun _ => rfl

/-- A search takes its term, wherever the full-text search of the dialect has it. -/
theorem takes_search (column : List String) {term : Value} (hterm : term.isPresent = true) :
    TakesIfAny ((d.target columns language).predicateFragment column (.search term))
      [d.searchArgument columns term]
      (statedPredicate d columns language column (.search term)) := by
  have hcolumns := takes_of_placeholders_eq_zero
    (placeholders_fulltextExpression d.profile columns)
  unfold predicateFragment statedPredicate
  simp only [if_pos hterm]
  cases columns with
  | nil => exact .some (takes_infixed _ _ _)
  | cons c columns =>
    -- What stands in front of the term has no placeholders, be it the columns or the language.
    cases d with
    | mysql =>
      exact .some (TakeAll.sequence (.cons_nil (takes_verbatim _) (.cons_nil hcolumns
        (.cons_nil (takes_verbatim _) (.cons (takes_placeholder _)
          (.cons_nil (takes_verbatim _) .nil))))))
    | postgres =>
      exact .some (TakeAll.sequence (.cons_nil (takes_verbatim _)
        (.cons_nil (takes_of_placeholders_eq_zero rfl) (.cons_nil (takes_verbatim _)
          (.cons_nil hcolumns (.cons_nil (takes_verbatim _) (.cons (takes_placeholder _)
            (.cons_nil (takes_verbatim _) .nil))))))))
    | sqlite => exact .some (takes_infixed _ _ _)

theorem predicateArguments_contains (operand : Value) :
    (d.target columns language).predicateArguments (.contains operand) =
      [d.memberArgument operand] := by
  cases d <;> rfl

theorem predicateArguments_search {term : Value} (hterm : term.isPresent = true) :
    (d.target columns language).predicateArguments (.search term) =
      [d.searchArgument columns term] := by
  unfold predicateArguments
  simp only [if_pos hterm]
  cases columns with
  | nil => cases d <;> rfl
  | cons c columns =>
    cases d with
    | mysql => rfl
    | postgres => exact congrArg (fun s => [Value.text s]) String.append_empty
    | sqlite => rfl

theorem predicateArguments_search_of_absent {target : ConditionTarget} {term : Value}
    (hterm : ¬ term.isPresent = true) : target.predicateArguments (.search term) = [] :=
  if_neg hterm

theorem takes_predicateFragment (column : List String) (predicate : Predicate) :
    TakesIfAny ((d.target columns language).predicateFragment column predicate)
      ((d.target columns language).predicateArguments predicate)
      (statedPredicate d columns language column predicate) := by
  cases predicate with
  | compare comparison operand => exact .some (takes_infixed _ _ _)
  | isMember negated operands =>
    cases operands with
    | nil => exact .some (takes_verbatim _)
    | cons v vs => exact takes_isMember column negated v vs
  | between low high =>
    exact .some (TakeAll.sequence (.cons_nil (takes_identifier column)
      (.cons_nil (takes_verbatim _) (.cons (takes_placeholder low)
        (.cons_nil (takes_verbatim _) (.cons (takes_placeholder high) .nil))))))
  | contains operand =>
    rw [predicateArguments_contains]
    exact takes_contains column operand
  | matchesRegex operand => exact .some (takes_infixed _ _ _)
  | search term =>
    by_cases hterm : term.isPresent = true
    · rw [predicateArguments_search hterm]
      exact takes_search column hterm
    · unfold predicateFragment statedPredicate
      rw [predicateArguments_search_of_absent hterm]
      simp only [if_neg hterm]
      exact .none

mutual

theorem takes_entryFragment : ∀ entry : Entry,
    TakesIfAny ((d.target columns language).entryFragment entry)
      ((d.target columns language).entryArguments entry)
      (statedEntry d columns language entry)
  | .test column predicate => by
    unfold entryFragment entryArguments statedEntry
    exact takes_predicateFragment (columnPath column) predicate
  | .verbatim sql => by
    unfold entryFragment entryArguments statedEntry
    exact .some (takes_parenthesized (takes_verbatim sql))
  | .combine combinator [] => by
    unfold entryFragment entryArguments statedEntry childArguments
    exact .some (takes_verbatim _)
  | .combine combinator (child :: children) => by
    unfold entryFragment entryArguments statedEntry
    exact .some (takes_parenthesized (TakeAll.joined _ (takeAll_childFragments _)))

theorem takeAll_entryFragments : ∀ entries : List Entry,
    TakeAll ((d.target columns language).entryFragments entries)
      ((d.target columns language).arguments entries)
      (statedEntries d columns language entries)
  | [] => by
    unfold entryFragments arguments statedEntries
    exact .nil
  | entry :: rest => by
    have h := takes_entryFragment entry
    have hs := takeAll_entryFragments rest
    unfold entryFragments arguments statedEntries
    revert h
    generalize (d.target columns language).entryFragment entry = f?
    generalize (d.target columns language).entryArguments entry = args
    generalize statedEntry d columns language entry = g?
    rintro (_ | h)
    · exact hs
    · exact .cons h hs

theorem takeAll_childFragments : ∀ children : List (List Entry),
    TakeAll ((d.target columns language).childFragments children)
      ((d.target columns language).childArguments children)
      (statedChildren d columns language children)
  | [] => by
    unfold childFragments childArguments statedChildren
    exact .nil
  | child :: rest => by
    unfold childFragments childArguments statedChildren
    exact .cons (takes_conjunction (takeAll_entryFragments child)) (takeAll_childFragments rest)

end

/-- The fragment of a condition takes the arguments of the condition and no others. -/
theorem takes_conditionFragment (condition : Condition) :
    ((d.target columns language).fragment condition).Takes
      ((d.target columns language).arguments condition) (stated d columns language condition) :=
  takes_conjunction (takeAll_entryFragments condition)

end ConditionTarget

/-! ## The operands of a value -/

namespace Condition

variable (d : Dialect) (columns : List String)

/-- The arguments that an operator makes of its operand: the members of a collection or of a pair,
in order, and else the operand. A search for nothing makes none. -/
def operatorArguments : Operator → Value → List Value
  | .isIn, operand | .notIn, operand => (ConditionTarget.collection? operand).getD []
  | .between, operand => (ConditionTarget.pair? operand).elim [] fun (low, high) => [low, high]
  | .contains, operand => [d.memberArgument operand]
  | .search, operand => if operand.isPresent then [d.searchArgument columns operand] else []
  | _, operand => [operand]

/-- The operands of a test of a column. Of several operators the last one counts. -/
def testOperands : Value → List Value
  | .object members =>
    match members.getLast? with
    | none => []
    | some (key, operand) =>
      (Operator.ofName? key).elim [] (operatorArguments d columns · operand)
  | v => [v]

mutual

/-- The operands of a condition in order, in the form that the dialect asks for. -/
def operands : Value → List Value
  | .object members => entriesOperands members
  | _ => []

/-- The operands of entries, one entry after the other. -/
def entriesOperands : List (String × Value) → List Value
  | [] => []
  | entry :: rest => entryOperands entry ++ entriesOperands rest

/-- The operands of an entry. A verbatim piece has none. -/
def entryOperands : String × Value → List Value
  | (key, v) =>
    match Combinator.ofName? key with
    | some _ => combinedOperands v
    | none => if key = "$sql" then [] else testOperands d columns v

/-- The operands of a combination. -/
def combinedOperands : Value → List Value
  | .list items | .tuple items => childOperands items
  | _ => []

/-- The operands of combined conditions, one condition after the other. -/
def childOperands : List Value → List Value
  | [] => []
  | v :: rest => operands v ++ childOperands rest

end

end Condition

namespace ConditionTarget

open Condition

variable {d : Dialect} {columns : List String} {language : String}

theorem ReadsOperand.arguments {column : String} {operator : Operator} {v : Value}
    {p : Predicate} (h : ReadsOperand (d.target columns language) column operator v p) :
    (d.target columns language).predicateArguments p = operatorArguments d columns operator v := by
  cases h with
  | compare comparison hc => cases comparison <;> rfl
  | isMember negated hv hc =>
    unfold operatorArguments
    cases negated <;> simp only [membership, hv, if_true, Bool.false_eq_true, if_false] <;> rfl
  | between hv hc =>
    unfold operatorArguments
    simp only [hv]
    rfl
  | contains hc => exact predicateArguments_contains _
  | matchesRegex hc => rfl
  | search hc =>
    unfold operatorArguments
    by_cases hv : v.isPresent = true
    · simp only [if_pos hv]
      exact predicateArguments_search hv
    · simp only [if_neg hv]
      exact predicateArguments_search_of_absent hv

theorem ReadsTest.arguments {column : String} {v : Value} {p : Predicate}
    (h : ReadsTest (d.target columns language) column v p) :
    (d.target columns language).predicateArguments p = testOperands d columns v := by
  unfold testOperands
  cases h with
  | plain hv hc =>
    split
    · exact absurd rfl (hv _)
    · rfl
  | operator hlast hop hp =>
    simp only [hlast, hop, Option.elim_some]
    exact hp.arguments

mutual

theorem arguments_eq_operands {v : Value} {c : Condition} :
    Reads (d.target columns language) v c →
      (d.target columns language).arguments c = operands d columns v
  | .null => rfl
  | .object h => arguments_eq_entriesOperands h

theorem arguments_eq_entriesOperands {members : List (String × Value)} {entries : List Entry} :
    ReadsEntries (d.target columns language) members entries →
      (d.target columns language).arguments entries = entriesOperands d columns members
  | .nil => rfl
  | .cons h hs => by
    unfold arguments entriesOperands
    rw [arguments_eq_entryOperands h, arguments_eq_entriesOperands hs]

theorem arguments_eq_entryOperands {key : String} {v : Value} {entry : Entry} :
    ReadsEntry (d.target columns language) key v entry →
      (d.target columns language).entryArguments entry = entryOperands d columns (key, v)
  | .test hkey h => by
    unfold entryArguments entryOperands
    rw [hkey.1]
    simp only [if_neg hkey.2]
    exact h.arguments
  | .verbatim sql => rfl
  | .combine hkey hv h => by
    unfold entryArguments entryOperands
    simp only [hkey]
    rw [arguments_eq_childOperands h]
    cases v <;> cases hv <;> rfl

theorem arguments_eq_childOperands {items : List Value} {children : List Condition} :
    ReadsChildren (d.target columns language) items children →
      (d.target columns language).childArguments children = childOperands d columns items
  | .nil => rfl
  | .cons h hs => by
    unfold childArguments childOperands
    rw [arguments_eq_operands h, arguments_eq_childOperands hs]

end

/-- **Placeholders and arguments.** A condition that compiles has as many arguments as placeholders,
each placeholder is in the place of its argument, and the arguments are the operands of the value
that spells the condition, in order. -/
theorem compile_arguments {v : Value} {j : Log.Journal} {p : Sql.Prepared}
    (h : ((d.target columns language).compile v).outcome j = .ok p) :
    ∃ c, ((d.target columns language).read v).outcome j = .ok c ∧
      ((d.target columns language).fragment c).render d.profile.identifierQuote = p.sql ∧
      ((d.target columns language).fragment c).placeholders = p.arguments.length ∧
      ((d.target columns language).fragment c).supply p.arguments =
        (stated d columns language c, []) ∧
      p.arguments = operands d columns v := by
  obtain ⟨c, hread, rfl⟩ := outcome_compile_eq_ok_iff.mp h
  have htakes : ((d.target columns language).fragment c).Takes
      ((d.target columns language).arguments c) _ := takes_conditionFragment c
  exact ⟨c, outcome_read_eq_ok_iff.mpr hread, rfl, htakes.placeholders_eq, htakes.supply_eq,
    arguments_eq_operands hread⟩

/-- A condition of every kind of entry that has operands, one of which stands in front of its
column in MySQL and is wrapped in SQLite. -/
def taggedCondition : Value :=
  .object [
    ("or", .list [
      .object [("tags", .object [("contains", .int 7)]),
        ("note", .object [("match", .text "red")])],
      .object [("age", .object [("between", .tuple [.int 1, .int 9])])]]),
    ("$sql", .text "a = '?'"),
    ("id", .object [("eq", .int 0), ("in", .list [.int 2, .int 3])])]

/-- In MySQL with a full-text index, and in SQLite. -/
theorem compile_arguments_taggedCondition :
    (((Dialect.mysql.target ["title"] "english").compile taggedCondition).outcome .empty =
        .ok ⟨"(? MEMBER OF (tags) AND MATCH(title) AGAINST (? IN BOOLEAN MODE)"
            ++ " OR age BETWEEN ? AND ?) AND (a = '?') AND id IN (?,?)",
          [.int 7, .text "red*", .int 1, .int 9, .int 2, .int 3]⟩ ∧
      ∃ c, ((Dialect.mysql.target ["title"] "english").read taggedCondition).outcome .empty =
          .ok c ∧
        ((Dialect.mysql.target ["title"] "english").fragment c).render "\x60" =
          "(? MEMBER OF (tags) AND MATCH(title) AGAINST (? IN BOOLEAN MODE)"
            ++ " OR age BETWEEN ? AND ?) AND (a = '?') AND id IN (?,?)" ∧
        ((Dialect.mysql.target ["title"] "english").fragment c).placeholders = 6 ∧
        ((Dialect.mysql.target ["title"] "english").fragment c).supply
            [.int 7, .text "red*", .int 1, .int 9, .int 2, .int 3] =
          (stated .mysql ["title"] "english" c, []) ∧
        [.int 7, .text "red*", .int 1, .int 9, .int 2, .int 3] =
          operands .mysql ["title"] taggedCondition) ∧
    (((Dialect.sqlite.target [] "english").compile taggedCondition).outcome .empty =
        .ok ⟨"(tags LIKE ? AND note LIKE ? OR age BETWEEN ? AND ?) AND (a = '?') AND id IN (?,?)",
          [.text "%7%", .text "%red%", .int 1, .int 9, .int 2, .int 3]⟩ ∧
      ∃ c, ((Dialect.sqlite.target [] "english").read taggedCondition).outcome .empty = .ok c ∧
        ((Dialect.sqlite.target [] "english").fragment c).render "\x22" =
          "(tags LIKE ? AND note LIKE ? OR age BETWEEN ? AND ?) AND (a = '?') AND id IN (?,?)" ∧
        ((Dialect.sqlite.target [] "english").fragment c).placeholders = 6 ∧
        ((Dialect.sqlite.target [] "english").fragment c).supply
            [.text "%7%", .text "%red%", .int 1, .int 9, .int 2, .int 3] =
          (stated .sqlite [] "english" c, []) ∧
        [.text "%7%", .text "%red%", .int 1, .int 9, .int 2, .int 3] =
          operands .sqlite [] taggedCondition) := by
  have hmysql :
      ((Dialect.mysql.target ["title"] "english").compile taggedCondition).outcome .empty =
      .ok ⟨"(? MEMBER OF (tags) AND MATCH(title) AGAINST (? IN BOOLEAN MODE)"
          ++ " OR age BETWEEN ? AND ?) AND (a = '?') AND id IN (?,?)",
        [.int 7, .text "red*", .int 1, .int 9, .int 2, .int 3]⟩ := rfl
  have hseven : "%" ++ (Value.int 7).plain ++ "%" = "%7%" := by
    have hplain : (Value.int 7).plain = intText 7 := by
      unfold Value.plain Value.display
      rfl
    rw [hplain]
    decide +kernel
  have hsqlite : ((Dialect.sqlite.target [] "english").compile taggedCondition).outcome .empty =
      .ok ⟨"(tags LIKE ? AND note LIKE ? OR age BETWEEN ? AND ?) AND (a = '?') AND id IN (?,?)",
        [.text "%7%", .text "%red%", .int 1, .int 9, .int 2, .int 3]⟩ := by
    rw [← hseven]
    rfl
  exact ⟨⟨hmysql, compile_arguments hmysql⟩, hsqlite, compile_arguments hsqlite⟩

end ConditionTarget

end SqlCompiler
