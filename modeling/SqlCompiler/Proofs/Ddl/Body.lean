import SqlCompiler.Proofs.Ddl.Naming
import SqlCompiler.Proofs.Ddl.Refusal
import SqlCompiler.Proofs.Lists

/-!
# The body of a table

Between the parentheses of a table stand the lines of its columns, then its foreign keys where the
dialect has them, then its checks, sorted. There is a check for each column of whose values something
is demanded and for each constraint of the table that is meant for the dialect, and nothing else
(`createTable_body`).
-/

namespace SqlCompiler

open Sql

namespace Ddl

open Sql.Fragment

/-! ## Sorted texts -/

theorem perm_sortTexts (texts : List String) : (sortTexts texts).Perm texts :=
  List.mergeSort_perm texts _

theorem pairwise_sortTexts (texts : List String) : (sortTexts texts).Pairwise (· ≤ ·) := by
  have htrans : ∀ a b c : String, decide (a ≤ b) → decide (b ≤ c) → decide (a ≤ c) := by
    intro a b c hab hbc
    exact decide_eq_true (String.le_trans (of_decide_eq_true hab) (of_decide_eq_true hbc))
  have htotal : ∀ a b : String, decide (a ≤ b) || decide (b ≤ a) := by
    intro a b
    simpa using String.le_total a b
  have hsorted : (sortTexts texts).Pairwise fun a b => decide (a ≤ b) :=
    List.pairwise_mergeSort htrans htotal texts
  exact hsorted.imp of_decide_eq_true

namespace Target

/-! ## Written clauses -/

variable (t : Target)

/-- A text that is copied into a clause, as it is written there. -/
def copied (sql : String) : String :=
  respellWords t.profile.keywordSpellings sql

/-- The action of a foreign key. An empty action is none. -/
def actionText (event : String) (action : Option String) : String :=
  match action with
  | some "" | none => ""
  | some a => t.copied (" ON " ++ event ++ " " ++ referentialAction a)

/-- A foreign key. -/
def keyText (stem name : String) (r : Relation) : String :=
  "CONSTRAINT " ++ t.writtenName (stem ++ "_" ++ name) ++ " FOREIGN KEY ("
    ++ t.writtenName r.column ++ ") REFERENCES " ++ t.writtenName r.target ++ " (id)"
    ++ t.actionText "DELETE" r.onDelete ++ t.actionText "UPDATE" r.onUpdate

/-- The opening of a check with a name, where the dialect names checks. -/
def checkHead (name : Option String) : String :=
  match name with
  | some n => if t.profile.supportsNamedChecks then "CONSTRAINT " ++ t.writtenName n ++ " " else ""
  | none => ""

/-- A check. -/
def checkText (name : Option String) (demand : String) (enforced : Option Bool) : String :=
  t.checkHead name ++ "CHECK (" ++ demand ++ ")"
    ++ if enforced = some false && t.profile.supportsNotEnforced then " NOT ENFORCED" else ""

/-- A bound of a column. -/
def boundTexts (name operator : String) (bound : Option Bound) : List String :=
  (bound.map fun b =>
    t.writtenName name ++ " " ++ operator ++ " " ++ t.copied (literal b.value)).toList

/-- What is demanded of the values of a column. -/
def demandText (name : String) (c : Column) : String :=
  match c.ownConstraint? with
  | some sql => t.copied sql
  | none => joinWith " AND " (t.boundTexts name ">=" c.minimum
      ++ t.boundTexts name ">" c.exclusiveMinimum ++ t.boundTexts name "<=" c.maximum
      ++ t.boundTexts name "<" c.exclusiveMaximum)

/-- The check of a column. -/
def columnCheckText (stem name : String) (c : Column) : String :=
  t.checkText (some (stem ++ "_" ++ name)) (t.demandText name c) none

/-- A check of the table. -/
def tableCheckText (stem : String) : Constraint → String
  | .expression sql => t.checkText none (t.copied sql) none
  | .check c => t.checkText (checkName? stem c.name) (t.copied c.check) c.enforced

variable (d : Dialect) (settings : CompilerSettings)

/-- The texts that clauses are made of have no keywords in them. -/
theorem respellWords_clause : ∀ text ∈ ["CONSTRAINT ", " FOREIGN KEY (", ") REFERENCES ", " (id)",
    " ", "CHECK (", ")", " NOT ENFORCED", " AND "],
    respellWords d.profile.keywordSpellings text = text := by
  cases d <;> decide +kernel

theorem spelledAll_actionClause (event : String) (action : Option String) :
    spelledAll t.writtenName (respellWords t.profile.keywordSpellings)
      (actionClause event action) = t.actionText event action := by
  unfold actionText
  split
  · rfl
  · rfl
  · rename_i a _
    have hclause : actionClause event (some a) =
        [.verbatim (" ON " ++ event ++ " " ++ referentialAction a)] := by
      simp [actionClause]
    rw [hclause]
    exact String.append_empty

theorem finish_foreignKey (stem name : String) (r : Relation) :
    finish ⟨d.profile, settings⟩ (foreignKey stem name r) =
      keyText ⟨d.profile, settings⟩ stem name r := by
  have hstays := respellWords_clause d
  simp only [List.forall_mem_cons] at hstays
  obtain ⟨hconstraint, hforeign, hreferences, hid, _⟩ := hstays
  refine (isRespelled_foreignKey stem name r).trans ?_
  unfold foreignKey keyText
  rw [spelledBy, spelledAll_append, spelledAll_append]
  refine congrArg₂ (· ++ ·) (congrArg₂ (· ++ ·) ?_ ?_) ?_
  · simp only [spelledAll, spelledBy, hconstraint, hforeign, hreferences, hid,
      String.append_empty, String.append_assoc]
    rfl
  · exact spelledAll_actionClause ⟨d.profile, settings⟩ _ _
  · exact spelledAll_actionClause ⟨d.profile, settings⟩ _ _

theorem finish_checkClause (name : Option String) {expression : Fragment}
    (h : IsRespelled d.profile.keywordSpellings d.profile.identifierQuote expression)
    (enforced : Option Bool) :
    finish ⟨d.profile, settings⟩ (checkClause d.profile name expression enforced) =
      checkText ⟨d.profile, settings⟩ name (written ⟨d.profile, settings⟩ expression) enforced := by
  have hstays := respellWords_clause d
  simp only [List.forall_mem_cons] at hstays
  obtain ⟨hconstraint, _, _, _, hspace, hcheck, hclose, hnot, _⟩ := hstays
  refine (isRespelled_checkClause d.profile name h enforced).trans ?_
  have hparts : checkText ⟨d.profile, settings⟩ name (written ⟨d.profile, settings⟩ expression)
      enforced = checkHead ⟨d.profile, settings⟩ name
        ++ ("CHECK (" ++ (written ⟨d.profile, settings⟩ expression ++ ")"))
        ++ if enforced = some false && d.profile.supportsNotEnforced then " NOT ENFORCED" else "" := by
    unfold checkText
    simp only [String.append_assoc]
  rw [hparts]
  unfold checkClause checkHead
  rw [spelledBy, spelledAll_append, spelledAll_append]
  refine congrArg₂ (· ++ ·) (congrArg₂ (· ++ ·) ?head ?demand) ?enforced
  case head =>
    cases name with
    | none => rfl
    | some n =>
      dsimp only
      split
      · simp only [spelledAll, spelledBy, hconstraint, hspace, String.append_empty,
          String.append_assoc]
        rfl
      · rfl
  case demand =>
    simp only [spelledAll, spelledBy, hcheck, hclose, String.append_empty]
    rfl
  case enforced =>
    split
    · simp only [spelledAll, spelledBy, hnot, String.append_empty]
    · rfl

/-- How a column is compared with its bounds. -/
def boundOperators : List String :=
  [">=", ">", "<=", "<"]

theorem map_written_boundTest {operator : String} (h : operator ∈ boundOperators) (name : String)
    (bound : Option Bound) : (boundTest name operator bound).map (written ⟨d.profile, settings⟩) =
      boundTexts ⟨d.profile, settings⟩ name operator bound := by
  have hstays : ∀ operator ∈ boundOperators,
      respellWords d.profile.keywordSpellings (" " ++ operator ++ " ") = " " ++ operator ++ " " := by
    cases d <;> decide +kernel
  cases bound with
  | none => rfl
  | some b =>
    have htest : written ⟨d.profile, settings⟩
        (.sequence [.name name, .verbatim (" " ++ operator ++ " "), .literal b.value]) =
          writtenName ⟨d.profile, settings⟩ name ++ (" " ++ operator ++ " "
            ++ copied ⟨d.profile, settings⟩ (literal b.value)) := by
      unfold written copied
      simp only [spelledBy, spelledAll, hstays operator h, String.append_empty]
      rfl
    refine congrArg ([·]) (htest.trans ?_)
    simp only [String.append_assoc]

theorem written_joined (parts : List Fragment) :
    written ⟨d.profile, settings⟩ (.joined " AND " parts) =
      joinWith " AND " (parts.map (written ⟨d.profile, settings⟩)) := by
  have hand : respellWords d.profile.keywordSpellings " AND " = " AND " :=
    respellWords_clause d _ (by simp)
  refine (spelledAll_interleave _ _ _ _).trans ?_
  rw [hand]
  rfl

theorem map_written_columnExpression (name : String) (c : Column) :
    (columnExpression? name c).map (written ⟨d.profile, settings⟩) =
      if c.isChecked then some (demandText ⟨d.profile, settings⟩ name c) else none := by
  rw [columnExpression?_eq]
  unfold Column.isChecked demandText
  cases c.ownConstraint? with
  | some sql => rfl
  | none =>
    cases c.isBounded with
    | false => rfl
    | true =>
      refine congrArg some ((written_joined d settings _).trans ?_)
      unfold bounds
      simp only [List.map_append]
      rw [map_written_boundTest d settings (by decide),
        map_written_boundTest d settings (by decide), map_written_boundTest d settings (by decide),
        map_written_boundTest d settings (by decide)]

theorem map_finish_columnCheck (stem name : String) (c : Column) :
    (columnCheck? d.profile stem name c).map (finish ⟨d.profile, settings⟩) =
      if c.isChecked then some (columnCheckText ⟨d.profile, settings⟩ stem name c) else none := by
  have hexpression := map_written_columnExpression d settings name c
  unfold columnCheck? columnCheckText
  cases h : columnExpression? name c with
  | none =>
    rw [h] at hexpression
    cases hchecked : c.isChecked with
    | false => rfl
    | true => simp [hchecked] at hexpression
  | some f =>
    rw [h] at hexpression
    cases hchecked : c.isChecked with
    | false => simp [hchecked] at hexpression
    | true =>
      rw [hchecked] at hexpression
      rw [← Option.some.inj hexpression]
      exact congrArg some (finish_checkClause d settings _ (isRespelled_columnExpression h) none)

theorem finish_tableCheck (stem : String) (c : Constraint) :
    finish ⟨d.profile, settings⟩ (tableCheck d.profile stem c) =
      tableCheckText ⟨d.profile, settings⟩ stem c := by
  cases c with
  | expression sql => exact finish_checkClause d settings none (isRespelled_verbatim sql) none
  | check c =>
    exact finish_checkClause d settings (checkName? stem c.name) (isRespelled_verbatim c.check)
      c.enforced

/-! ## Bodies -/

theorem relationTexts_eq (stem : String) (s : Schema) :
    relationTexts ⟨d.profile, settings⟩ stem s =
      if d.profile.supportsForeignKeys then
        s.relations.map fun p => keyText ⟨d.profile, settings⟩ stem p.1 p.2
      else [] := by
  unfold relationTexts relations
  dsimp only
  split
  · rw [List.map_map]
    exact List.map_congr_left fun p _ => finish_foreignKey d settings stem p.1 p.2
  · rfl

/-- The checks of a table before they are sorted. -/
def declaredChecks (t : Target) (stem : String) (s : Schema) : List String :=
  (s.columns.filter (·.2.isChecked)).map (fun p => t.columnCheckText stem p.1 p.2)
    ++ (s.constraints.filter (·.appliesTo t.profile.dialect)).map (t.tableCheckText stem)

theorem map_finish_checks (stem : String) (s : Schema) :
    (checks ⟨d.profile, settings⟩ stem s).map (finish ⟨d.profile, settings⟩) =
      declaredChecks ⟨d.profile, settings⟩ stem s := by
  unfold checks declaredChecks
  rw [List.map_append, List.map_map]
  refine congrArg₂ (· ++ ·) ?_ (List.map_congr_left fun c _ => finish_tableCheck d settings stem c)
  rw [List.map_filterMap, ← List.filterMap_eq_map, List.filterMap_filter]
  refine List.filterMap_congr fun p _ => ?_
  exact map_finish_columnCheck d settings stem p.1 p.2

/-- What stands between the parentheses of a table: the lines of its columns, each starting with the
written name, the foreign keys, and the checks. -/
structure IsBody (t : Target) (stem : String) (s : Schema) (columns keys checks : List String) :
    Prop where
  lines : List.Forall₂ (fun p line =>
    line = t.copied (t.columnLine p.1 p.2 (s.isRequired p.1) (t.namePad s)) ∧
      ∃ rest, line = spaces t.settings.padWidth ++ t.writtenName p.1 ++ " " ++ rest)
    s.columns columns
  references : keys = if t.profile.supportsForeignKeys then
    s.relations.map fun p => t.keyText stem p.1 p.2 else []
  demands : checks.Perm (t.declaredChecks stem s)
  sorted : checks.Pairwise (· ≤ ·)

/-- The lines between the parentheses: the columns as they are, all else indented. -/
def bodyItems (t : Target) (columns keys checks : List String) : List String :=
  columns ++ (keys ++ checks).map (spaces t.settings.padWidth ++ ·)

theorem isBody (stem : String) (s : Schema) : IsBody ⟨d.profile, settings⟩ stem s
    (columnLines ⟨d.profile, settings⟩ s) (relationTexts ⟨d.profile, settings⟩ stem s)
    (checkTexts ⟨d.profile, settings⟩ stem s) where
  lines := by
    refine (List.forall₂_map_right_iff ..).mpr (List.forall₂_same.mpr ?_)
    rintro ⟨name, c⟩ hc
    exact ⟨rfl, exists_columnLine _ (length_lt_namePad _ (List.mem_map_of_mem hc)) c _⟩
  references := relationTexts_eq d settings stem s
  demands := by
    unfold checkTexts
    rw [map_finish_checks]
    exact perm_sortTexts _
  sorted := pairwise_sortTexts _

section Items

variable {t : Target} {stem : String} {s : Schema}

theorem keyText_ne_empty (name : String) (r : Relation) : t.keyText stem name r ≠ "" := by
  unfold keyText
  simp [String.append_eq_empty_iff]

theorem checkText_ne_empty (name : Option String) (demand : String) (enforced : Option Bool) :
    t.checkText name demand enforced ≠ "" := by
  unfold checkText
  simp [String.append_eq_empty_iff]

theorem ne_empty_of_mem_declaredChecks {text : String} (h : text ∈ t.declaredChecks stem s) :
    text ≠ "" := by
  rcases List.mem_append.mp h with h | h
  · obtain ⟨p, _, rfl⟩ := List.mem_map.mp h
    exact checkText_ne_empty _ _ _
  · obtain ⟨c, _, rfl⟩ := List.mem_map.mp h
    cases c <;> exact checkText_ne_empty _ _ _

variable {columns keys checks : List String}

/-- Nothing between the parentheses is empty. -/
theorem IsBody.ne_empty (h : t.IsBody stem s columns keys checks) :
    ∀ item ∈ t.bodyItems columns keys checks, item ≠ "" := by
  intro item hitem
  rcases List.mem_append.mp hitem with hitem | hitem
  · have hlines : ∀ line ∈ columns, line ≠ "" := by
      refine forall_mem_of_forall₂ h.lines fun p line hline => ?_
      obtain ⟨_, rest, rfl⟩ := hline
      simp [String.append_eq_empty_iff]
    exact hlines item hitem
  · obtain ⟨text, htext, rfl⟩ := List.mem_map.mp hitem
    have hne : text ≠ "" := by
      rcases List.mem_append.mp htext with hkey | hcheck
      · rw [h.references] at hkey
        split at hkey
        · obtain ⟨p, _, rfl⟩ := List.mem_map.mp hkey
          exact keyText_ne_empty _ _
        · cases hkey
      · exact ne_empty_of_mem_declaredChecks (h.demands.mem_iff.mp hcheck)
    exact fun hempty => hne (String.append_eq_empty_iff.mp hempty).2

end Items

/-- **The body of a table.** A schema with columns has a table exactly if it is named. The table is
its head, the items of its body with a comma and a new line between any two, and the closing line:
the items are the lines of the columns, the foreign keys and the checks, each once and none empty. -/
theorem createTable_body {v : Value} {override : Option String} {s : Schema}
    (h : s.Describes v override) (j : Log.Journal) :
    ∃ table columns keys checks, chooseName? override s = some table ∧
      IsBody ⟨d.profile, settings⟩ (Text.lower table) s columns keys checks ∧
      (∀ item ∈ bodyItems ⟨d.profile, settings⟩ columns keys checks, item ≠ "") ∧
      (s.IsNamed d.profile → ∃ others,
        (Database.compiled ⟨d.profile, settings⟩ v override).outcome j =
          .ok (("CREATE TABLE IF NOT EXISTS " ++ nameText ⟨d.profile, settings⟩ table ++ " (\n"
            ++ joinWith ",\n" (bodyItems ⟨d.profile, settings⟩ columns keys checks) ++ "\n);")
              :: others)) ∧
      (¬ s.IsNamed d.profile → (Database.compiled ⟨d.profile, settings⟩ v override).outcome j =
        .error (.fragment (.badName (.text "")))) := by
  obtain ⟨hschema, ⟨table, hname⟩, hcolumns⟩ := h
  have hstatements := statements?_eq (t := ⟨d.profile, settings⟩) hname hcolumns
    (Schema.coherent_of_ofValue hschema)
  have hbody := isBody d settings (Text.lower table) s
  rw [outcome_compiled, hschema]
  refine ⟨table, _, _, _, hname, hbody, hbody.ne_empty, fun hnamed => ?_, fun hnot => ?_⟩
  · obtain ⟨_, hok⟩ := hstatements.resolve_right fun h => h.1 hnamed
    show ∃ others, Except.map _ _ = _
    rw [hok]
    exact ⟨_, rfl⟩
  · obtain ⟨_, herror⟩ := hstatements.resolve_left fun h => hnot h.1
    show Except.map _ _ = _
    rw [herror]
    rfl

/-- A table of three columns with a foreign key: one column has a bound that is zero, one a
constraint, and one an empty constraint, which is none. The table has a check of its own. -/
def checkedDocument : Value :=
  .object [("table", .text "T"),
    ("properties", .object [("b", .object [("type", .text "integer"), ("minimum", .int 0)]),
      ("a", .object [("constraint", .text "a <> 'x'")]), ("c", .object [("constraint", .text "")])]),
    ("relations", .object [("r", .object [("join", .text "b"), ("target", .text "u")])]),
    ("constraints", .list [.text "b < 9"])]

/-- The document has a table with all of these. -/
theorem createTable_body_checked : ∃ s table columns keys checks,
    s.Describes checkedDocument none ∧ s.IsNamed Dialect.postgres.profile ∧
      IsBody ⟨Dialect.postgres.profile, {}⟩ (Text.lower table) s columns keys checks ∧
      ∃ others, (Database.compiled ⟨Dialect.postgres.profile, {}⟩ checkedDocument none).outcome
        .empty = .ok (("CREATE TABLE IF NOT EXISTS "
          ++ nameText ⟨Dialect.postgres.profile, {}⟩ table ++ " (\n" ++ joinWith ",\n"
            (bodyItems ⟨Dialect.postgres.profile, {}⟩ columns keys checks) ++ "\n);") :: others) := by
  have hfacts : ((Schema.ofValue checkedDocument).toOption.map fun s =>
      (s.columnNames, s.relations.map (·.2.target), (chooseName? none s))) =
        some (["b", "a", "c"], ["u"], some "T") := by
    decide +kernel
  obtain ⟨s, hs, hfacts⟩ := Option.map_eq_some_iff.mp hfacts
  obtain ⟨hcolumns, hfacts⟩ := Prod.mk.inj hfacts
  obtain ⟨htargets, hname⟩ := Prod.mk.inj hfacts
  have hdescribes : s.Describes checkedDocument none := by
    refine ⟨Log.eq_ok_of_toOption hs, ⟨_, hname⟩, fun hnone => ?_⟩
    unfold Schema.columnNames at hcolumns
    rw [hnone] at hcolumns
    cases hcolumns
  have hnamed : s.IsNamed Dialect.postgres.profile := by
    refine ⟨by rw [hcolumns]; decide, fun _ p hp hempty => ?_⟩
    have hmem := List.mem_map_of_mem hp (f := fun p => p.2.target)
    rw [htargets, List.mem_singleton, hempty] at hmem
    exact absurd hmem (by decide)
  obtain ⟨table, columns, keys, checks, _, hbody, _, hok, _⟩ :=
    createTable_body .postgres {} hdescribes .empty
  exact ⟨s, table, columns, keys, checks, hdescribes, hnamed, hbody, hok hnamed⟩

/-- A schema with a column, and no table. -/
theorem createTable_blankColumn :
    (∃ s : Schema, s.Describes blankColumn none ∧ s.columns.length = 1) ∧
      ¬ ∃ texts, (Database.compiled ⟨Dialect.sqlite.profile, {}⟩ blankColumn none).outcome
        .empty = .ok texts := by
  refine ⟨⟨_, describes_blankColumn, rfl⟩, ?_⟩
  rw [outcome_compiled_blankColumn]
  rintro ⟨_, hok⟩
  cases hok

end Target

end Ddl

end SqlCompiler
