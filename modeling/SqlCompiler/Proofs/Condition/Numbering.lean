import SqlCompiler.Proofs.Condition.Arguments
import SqlCompiler.Proofs.Sql.Numbering
import SqlCompiler.Proofs.Text.Split

/-!
# Numbered conditions

PostgreSQL wants the placeholders of a compiled condition numbered, and numbering has only the text
to go by. Its scan knows literals between apostrophes, but no names between quotes. So a condition
is numbered as it should be exactly if its text has no null ordering to remove and literals tell its
question marks apart (`numberMarks_compile_iff`). A name with a question mark is numbered like a
placeholder (`numberMarks_markedName`), and two names with an apostrophe each hide the placeholders
between them. In a condition whose names have neither character, literals tell the marks apart
(`isCalm_entryFragment`).
-/

namespace SqlCompiler.ConditionTarget

open Sql (numberMarks stripNullOrdering MarksAgree cellText)

variable {columns : List String} {language : String}

/-! ## Ordinary names -/

/-- A text without apostrophes and question marks. -/
def IsPlain (s : String) : Prop :=
  '\'' ∉ s.toList ∧ '?' ∉ s.toList

instance (s : String) : Decidable (IsPlain s) :=
  inferInstanceAs (Decidable (_ ∧ _))

theorem IsPlain.isCalm {s : String} (h : IsPlain s) : Sql.IsCalm s.toList := by
  refine ⟨h.2, ?_⟩
  rw [List.count_eq_zero.mpr h.1]

/-- A text whose characters are those of plain texts is plain. -/
theorem isPlain_of_forall_mem {s : String} (h : ∀ c ∈ s.toList, ∃ t, IsPlain t ∧ c ∈ t.toList) :
    IsPlain s := by
  constructor
  · intro hc
    obtain ⟨t, ht, hmem⟩ := h _ hc
    exact ht.1 hmem
  · intro hc
    obtain ⟨t, ht, hmem⟩ := h _ hc
    exact ht.2 hmem

theorem IsPlain.quoteIdentifier {name : String} (h : IsPlain name) :
    IsPlain (Sql.quoteIdentifier "\"" name) := by
  unfold Sql.quoteIdentifier
  split
  · exact h
  · refine isPlain_of_forall_mem fun c hc => ?_
    rcases Text.mem_of_mem_enclose hc with hc | hc
    · exact ⟨"\"", ⟨by decide, by decide⟩, hc⟩
    · exact ⟨name, h, hc⟩

theorem isPlain_columnPath {column name : String} (h : IsPlain column)
    (hname : name ∈ columnPath column) : IsPlain name :=
  isPlain_of_forall_mem fun _ hc => ⟨column, h, Text.mem_of_mem_split hname hc⟩

theorem isCalm_identifier {path : List String} (h : ∀ name ∈ path, IsPlain name) :
    (Sql.Fragment.identifier path).IsCalm "\"" := by
  refine IsPlain.isCalm (isPlain_of_forall_mem fun c hc => ?_)
  rcases Text.mem_of_mem_intercalate hc with hc | ⟨part, hpart, hc⟩
  · exact ⟨".", ⟨by decide, by decide⟩, hc⟩
  · obtain ⟨name, hname, rfl⟩ := List.mem_map.mp hpart
    exact ⟨_, (h name hname).quoteIdentifier, hc⟩

theorem isCalm_language (h : IsPlain language) :
    (Sql.Fragment.literal (.text language)).IsCalm "\"" := by
  show Sql.IsCalm (Text.enclose "'" language).toList
  unfold Text.enclose
  simp only [String.toList_append, String.toList_ofList]
  show Sql.IsCalm (['\''] ++ Text.doubleMark ['\''] language.toList ++ ['\''])
  rw [Text.doubleMark_singleton_of_not_mem h.1]
  refine ⟨?_, ?_⟩
  · simpa using h.2
  · rw [List.count_append, List.count_append, List.count_eq_zero.mpr h.1]
    decide

theorem isCalm_fulltextExpression (h : ∀ c ∈ columns, IsPlain c) :
    (fulltextExpression .postgres columns).IsCalm "\"" := by
  show Sql.Fragment.AreCalm "\"" (Sql.Fragment.interleave _ (columns.map _))
  refine Sql.Fragment.areCalm_interleave (by decide : Sql.IsCalm "||' '||".toList) ?_
  refine Sql.Fragment.areCalm_map fun c hc => ⟨?_, ?_, ?_, trivial⟩
  · exact (by decide : Sql.IsCalm "COALESCE(".toList)
  · exact isCalm_identifier fun name hname => by
      rw [List.mem_singleton.mp hname]
      exact h c hc
  · exact (by decide : Sql.IsCalm ",'')".toList)

theorem isCalm_infixed {path : List String} {operator : String}
    (hpath : ∀ name ∈ path, IsPlain name) (hoperator : Sql.IsCalm operator.toList) :
    (infixed path operator).IsCalm "\"" :=
  ⟨isCalm_identifier hpath, (by decide : Sql.IsCalm " ".toList), hoperator,
    (by decide : Sql.IsCalm " ".toList), trivial, trivial⟩

theorem isCalm_comparisonSql (comparison : Comparison) (operand : Value) :
    Sql.IsCalm (comparisonSql comparison operand).toList := by
  unfold comparisonSql
  split
  · decide
  · decide
  · cases comparison <;> decide

/-- The texts that a search brings into a statement are plain. -/
structure PlainSearch (columns : List String) (language : String) : Prop where
  columns : ∀ c ∈ columns, IsPlain c
  language : IsPlain language

/-- The fragment of a predicate has no question marks but placeholders. -/
theorem isCalm_predicateFragment (hsearch : PlainSearch columns language) {path : List String}
    (hpath : ∀ name ∈ path, IsPlain name) {predicate : Predicate} {f : Sql.Fragment}
    (hf : (Dialect.postgres.target columns language).predicateFragment path predicate = some f) :
    f.IsCalm "\"" := by
  have hcolumn := isCalm_identifier hpath
  cases predicate with
  | compare comparison operand =>
    cases hf
    exact isCalm_infixed hpath (isCalm_comparisonSql comparison operand)
  | isMember negated operands =>
    cases operands with
    | nil =>
      cases hf
      show Sql.IsCalm (if negated then "TRUE" else "FALSE").toList
      cases negated <;> decide
    | cons v vs =>
      cases hf
      refine ⟨hcolumn, (by decide : Sql.IsCalm " ".toList), ?_,
        (by decide : Sql.IsCalm " (".toList), ?_, (by decide : Sql.IsCalm ")".toList), trivial⟩
      · show Sql.IsCalm (if negated then Operator.notIn else Operator.isIn).sql.toList
        cases negated <;> decide
      · exact Sql.Fragment.areCalm_interleave (by decide : Sql.IsCalm ",".toList)
          (Sql.Fragment.areCalm_map fun _ _ => trivial)
  | between low high =>
    cases hf
    exact ⟨hcolumn, (by decide : Sql.IsCalm " BETWEEN ".toList), trivial,
      (by decide : Sql.IsCalm " AND ".toList), trivial, trivial⟩
  | contains operand =>
    cases hf
    exact ⟨(by decide : Sql.IsCalm "JSONB_EXISTS(CAST(".toList), hcolumn,
      (by decide : Sql.IsCalm " AS JSONB), ".toList), trivial, (by decide : Sql.IsCalm ")".toList),
      trivial⟩
  | matchesRegex operand =>
    cases hf
    exact isCalm_infixed hpath (by decide : Sql.IsCalm "~*".toList)
  | search term =>
    by_cases hterm : term.isPresent = true
    · unfold predicateFragment at hf
      simp only [if_pos hterm] at hf
      have hexpression := isCalm_fulltextExpression hsearch.columns
      cases columns with
      | nil =>
        cases hf
        exact isCalm_infixed hpath (by decide : Sql.IsCalm "LIKE".toList)
      | cons c columns =>
        cases hf
        exact ⟨(by decide : Sql.IsCalm "TO_TSVECTOR(".toList), isCalm_language hsearch.language,
          (by decide : Sql.IsCalm ", ".toList), hexpression,
          (by decide : Sql.IsCalm ") @@ TO_TSQUERY(".toList), trivial,
          (by decide : Sql.IsCalm ")".toList), trivial⟩
    · unfold predicateFragment at hf
      simp only [if_neg hterm] at hf
      cases hf

theorem isCalm_parenthesized {f : Sql.Fragment} (hf : f.IsCalm "\"") :
    (parenthesized f).IsCalm "\"" :=
  ⟨(by decide : Sql.IsCalm "(".toList), hf, (by decide : Sql.IsCalm ")".toList), trivial⟩

theorem isCalm_conjunction {fs : List Sql.Fragment} (h : Sql.Fragment.AreCalm "\"" fs) :
    (conjunction fs).IsCalm "\"" := by
  cases fs with
  | nil => exact (by decide : Sql.IsCalm "TRUE".toList)
  | cons f fs =>
    exact Sql.Fragment.areCalm_interleave (by decide : Sql.IsCalm " AND ".toList) h

mutual

/-- The texts that an entry brings into a statement: the names of its columns, and verbatim
pieces. -/
def entryTexts : Entry → List String
  | .test column _ => [column]
  | .verbatim sql => [sql]
  | .combine _ children => childTexts children

/-- The texts that a condition brings into a statement. -/
def conditionTexts : List Entry → List String
  | [] => []
  | entry :: rest => entryTexts entry ++ conditionTexts rest

/-- The texts that combined conditions bring into a statement. -/
def childTexts : List (List Entry) → List String
  | [] => []
  | child :: rest => conditionTexts child ++ childTexts rest

end

mutual

theorem isCalm_entryFragment (hsearch : PlainSearch columns language) :
    ∀ {entry : Entry} {f : Sql.Fragment}, (∀ s ∈ entryTexts entry, IsPlain s) →
      (Dialect.postgres.target columns language).entryFragment entry = some f → f.IsCalm "\""
  | .test column predicate, f, htexts, hf => by
    unfold entryFragment at hf
    unfold entryTexts at htexts
    exact isCalm_predicateFragment hsearch
      (fun _ hname => isPlain_columnPath (htexts column List.mem_cons_self) hname) hf
  | .verbatim sql, f, htexts, hf => by
    unfold entryFragment at hf
    unfold entryTexts at htexts
    cases hf
    exact isCalm_parenthesized (htexts sql List.mem_cons_self).isCalm
  | .combine combinator [], f, htexts, hf => by
    unfold entryFragment at hf
    cases hf
    exact (by decide : Sql.IsCalm "TRUE".toList)
  | .combine combinator (child :: children), f, htexts, hf => by
    unfold entryFragment at hf
    unfold entryTexts at htexts
    cases hf
    refine isCalm_parenthesized (Sql.Fragment.areCalm_interleave ?_
      (areCalm_childFragments hsearch htexts))
    show Sql.IsCalm (" " ++ combinator.sql ++ " ").toList
    cases combinator <;> decide

theorem areCalm_entryFragments (hsearch : PlainSearch columns language) :
    ∀ {entries : List Entry}, (∀ s ∈ conditionTexts entries, IsPlain s) →
      Sql.Fragment.AreCalm "\"" ((Dialect.postgres.target columns language).entryFragments entries)
  | [], _ => by
    unfold entryFragments
    exact trivial
  | entry :: rest, htexts => by
    unfold conditionTexts at htexts
    rw [List.forall_mem_append] at htexts
    have hrest := areCalm_entryFragments hsearch htexts.2
    unfold entryFragments
    rcases hf : (Dialect.postgres.target columns language).entryFragment entry with _ | f
    · exact hrest
    · exact ⟨isCalm_entryFragment hsearch htexts.1 hf, hrest⟩

theorem areCalm_childFragments (hsearch : PlainSearch columns language) :
    ∀ {children : List (List Entry)}, (∀ s ∈ childTexts children, IsPlain s) →
      Sql.Fragment.AreCalm "\"" ((Dialect.postgres.target columns language).childFragments children)
  | [], _ => by
    unfold childFragments
    exact trivial
  | child :: rest, htexts => by
    unfold childTexts at htexts
    rw [List.forall_mem_append] at htexts
    unfold childFragments
    exact ⟨isCalm_conjunction (areCalm_entryFragments hsearch htexts.1),
      areCalm_childFragments hsearch htexts.2⟩

end

/-! ## Numbered conditions -/

/-- **Numbered conditions.** A condition that compiles for PostgreSQL has as many placeholders among
its cells as it has arguments. Numbering its text numbers these placeholders from left to right and
leaves the rest alone exactly if there is no null ordering to remove and literals tell the question
marks apart. They do if the texts that go into the condition are ordinary ones. -/
theorem numberMarks_compile_iff {v : Value} {j : Log.Journal} {p : Sql.Prepared}
    (h : ((Dialect.postgres.target columns language).compile v).outcome j = .ok p) :
    ∃ c, ((Dialect.postgres.target columns language).read v).outcome j = .ok c ∧
      cellText (((Dialect.postgres.target columns language).fragment c).cells "\"") =
        p.sql.toList ∧
      (((Dialect.postgres.target columns language).fragment c).cells "\"").count .placeholder =
        p.arguments.length ∧
      (numberMarks p.sql = ((Dialect.postgres.target columns language).fragment c).numbered "\"" ↔
        stripNullOrdering p.sql = p.sql ∧
          MarksAgree [] (((Dialect.postgres.target columns language).fragment c).cells "\"")) ∧
      (PlainSearch columns language → (∀ s ∈ conditionTexts c, IsPlain s) →
        MarksAgree [] (((Dialect.postgres.target columns language).fragment c).cells "\"")) := by
  obtain ⟨c, hread, rfl⟩ := outcome_compile_eq_ok_iff.mp h
  have htakes : ((Dialect.postgres.target columns language).fragment c).Takes
      ((Dialect.postgres.target columns language).arguments c) _ := takes_conditionFragment c
  refine ⟨c, outcome_read_eq_ok_iff.mpr hread, Sql.Fragment.cellText_cells _, ?_,
    Sql.Fragment.numberMarks_render_eq_iff, fun hsearch htexts =>
      (isCalm_conjunction (areCalm_entryFragments hsearch htexts)).marksAgree⟩
  rw [Sql.Fragment.count_cells]
  exact htakes.placeholders_eq

/-- The condition is `a = 1 AND b IN (2, 3)`. Its names are ordinary, so it is numbered as it should
be. -/
theorem numberMarks_compile_iff_membership :
    ((Dialect.postgres.target ["body"] "english").compile
        (.object [("a", .int 1), ("b", .object [("in", .list [.int 2, .int 3])])])).outcome .empty =
        .ok ⟨"a = ? AND b IN (?,?)", [.int 1, .int 2, .int 3]⟩ ∧
      ∃ c, ((Dialect.postgres.target ["body"] "english").read
          (.object [("a", .int 1), ("b", .object [("in", .list [.int 2, .int 3])])])).outcome
            .empty = .ok c ∧
        cellText (((Dialect.postgres.target ["body"] "english").fragment c).cells "\"") =
          "a = ? AND b IN (?,?)".toList ∧
        (((Dialect.postgres.target ["body"] "english").fragment c).cells "\"").count .placeholder =
          3 ∧
        stripNullOrdering "a = ? AND b IN (?,?)" = "a = ? AND b IN (?,?)" ∧
        MarksAgree [] (((Dialect.postgres.target ["body"] "english").fragment c).cells "\"") ∧
        ((Dialect.postgres.target ["body"] "english").fragment c).numbered "\"" =
          "a = $1 AND b IN ($2,$3)" ∧
        numberMarks "a = ? AND b IN (?,?)" = "a = $1 AND b IN ($2,$3)" := by
  have h : ((Dialect.postgres.target ["body"] "english").compile
      (.object [("a", .int 1), ("b", .object [("in", .list [.int 2, .int 3])])])).outcome .empty =
        .ok ⟨"a = ? AND b IN (?,?)", [.int 1, .int 2, .int 3]⟩ := rfl
  obtain ⟨c, hread, htext, hcount, hiff, hordinary⟩ := numberMarks_compile_iff h
  have hstrip : stripNullOrdering "a = ? AND b IN (?,?)" = "a = ? AND b IN (?,?)" := by
    decide +kernel
  have hc : [Entry.test "a" (.compare .eq (.int 1)), .test "b" (.isMember false [.int 2, .int 3])] =
      c := Except.ok.inj hread
  subst hc
  have hmarks := hordinary ⟨by decide, by decide⟩ (by decide)
  have hnumbered : ((Dialect.postgres.target ["body"] "english").fragment
      [.test "a" (.compare .eq (.int 1)), .test "b" (.isMember false [.int 2, .int 3])]).numbered
        "\"" = "a = $1 AND b IN ($2,$3)" := by
    decide +kernel
  exact ⟨h, _, hread, htext, hcount, hstrip, hmarks, hnumbered,
    (hiff.mpr ⟨hstrip, hmarks⟩).trans hnumbered⟩

/-- The question mark of a name takes the number of the placeholder. -/
theorem numberMarks_markedName :
    ((Dialect.postgres.target [] "english").compile (.object [("a?", .int 1)])).outcome .empty =
        .ok ⟨"\"a?\" = ?", [.int 1]⟩ ∧
      ((Dialect.postgres.target [] "english").read (.object [("a?", .int 1)])).outcome .empty =
        .ok [.test "a?" (.compare .eq (.int 1))] ∧
      ((Dialect.postgres.target [] "english").fragment
        [.test "a?" (.compare .eq (.int 1))]).numbered "\"" = "\"a?\" = $1" ∧
      numberMarks "\"a?\" = ?" = "\"a$1\" = $2" := by
  have hread : ((Dialect.postgres.target [] "english").read
      (.object [("a?", .int 1)])).outcome .empty =
        .ok [.test "a?" (.compare .eq (.int 1))] := rfl
  have hsql : "\"a?\" = ?" = ((Dialect.postgres.target [] "english").fragment
      [.test "a?" (.compare .eq (.int 1))]).render "\"" := by decide +kernel
  refine ⟨?_, hread, by decide +kernel, by decide +kernel⟩
  exact outcome_compile_eq_ok_iff.mpr
    ⟨_, outcome_read_eq_ok_iff.mp hread, congrArg (Sql.Prepared.mk · [.int 1]) hsql⟩

example : numberMarks "\"a'\" = ? AND \"b'\" = ?" = "\"a'\" = ? AND \"b'\" = $1" := by
  decide +kernel

end SqlCompiler.ConditionTarget
