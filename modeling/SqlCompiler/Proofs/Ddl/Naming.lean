import Mathlib.Data.List.Forall2
import SqlCompiler.Condition.Order
import SqlCompiler.Proofs.Ddl.Default
import SqlCompiler.Proofs.Sql.Spelling

/-!
# Names in the statements of a table

Every name in the clauses of a table and in the statements of its indices is written the same way:
quoted where it needs it, and respelled (`Target.writtenName`). The head of the table, conditions
and orders do not respell. So a table is created and queried under the names that its own indices
and constraints use exactly if no keyword that the dialect spells differently is a word of a name
(`statements_names`).
-/

namespace SqlCompiler

open Sql

namespace Ddl

open Sql.Fragment

/-! ## Respelled clauses -/

section Clauses

variable {spellings : List (String × String)} {quote : String}

theorem actionClause_cases (event : String) (action : Option String) :
    actionClause event action = [] ∨
      ∃ text, actionClause event action = [.verbatim text] ∧ BeginsApart text := by
  have hon : BeginsApart " ON " := by decide
  unfold actionClause
  split
  · exact .inl rfl
  · exact .inl rfl
  · exact .inr ⟨_, rfl, beginsApart_append (beginsApart_append (beginsApart_append hon _) _) _⟩

theorem areRespelled_actionClauses (onDelete onUpdate : Option String) :
    AreRespelled spellings quote
      (actionClause "DELETE" onDelete ++ actionClause "UPDATE" onUpdate) := by
  rcases actionClause_cases "UPDATE" onUpdate with hupdate | ⟨update, hupdate, hbegins⟩
  all_goals
    rcases actionClause_cases "DELETE" onDelete with hdelete | ⟨delete, hdelete, _⟩
    all_goals rw [hupdate, hdelete]
  · exact areRespelled_nil
  · exact areRespelled_singleton (isRespelled_verbatim delete)
  · exact areRespelled_singleton (isRespelled_verbatim update)
  · exact areRespelled_cons_verbatim (isRespelled_verbatim delete) hbegins
      (areRespelled_singleton (isRespelled_verbatim update))

theorem isRespelled_foreignKey (stem name : String) (r : Relation) :
    IsRespelled spellings quote (foreignKey stem name r) := by
  unfold foreignKey
  rw [List.append_assoc]
  refine areRespelled_between (by decide) (isRespelled_name _) (by decide) ?_
  refine areRespelled_between (by decide) (isRespelled_name _) (by decide) ?_
  refine areRespelled_between (by decide) (isRespelled_name _) (by decide) ?_
  exact areRespelled_verbatim_cons (by decide) (areRespelled_actionClauses _ _)

theorem isRespelled_checkClause (profile : Profile) (name : Option String) {expression : Fragment}
    (h : IsRespelled spellings quote expression) (enforced : Option Bool) :
    IsRespelled spellings quote (checkClause profile name expression enforced) := by
  have hbody : ∀ tail, tail = [] ∨ tail = [.verbatim " NOT ENFORCED"] →
      AreRespelled spellings quote ([.verbatim "CHECK (", expression, .verbatim ")"] ++ tail) := by
    intro tail htail
    refine areRespelled_between (by decide) h (by decide)
      (areRespelled_verbatim_cons (by decide) ?_)
    rcases htail with rfl | rfl
    · exact areRespelled_nil
    · exact areRespelled_singleton (isRespelled_verbatim _)
  have htail : ∀ condition : Bool,
      (if condition then [Fragment.verbatim " NOT ENFORCED"] else []) = [] ∨
        (if condition then [Fragment.verbatim " NOT ENFORCED"] else []) =
          [.verbatim " NOT ENFORCED"] := by
    rintro (_ | _)
    · exact .inl rfl
    · exact .inr rfl
  refine AreRespelled.isRespelled ?_
  rw [List.append_assoc]
  cases name with
  | none => exact hbody _ (htail _)
  | some name =>
    dsimp only
    split
    · refine areRespelled_between (by decide) (isRespelled_name name) (by decide)
        (areRespelled_verbatim_cons (by decide) ?_)
      exact hbody _ (htail _)
    · exact hbody _ (htail _)

theorem isRespelled_of_mem_boundTest {name operator : String} {bound : Option Bound} :
    ∀ f ∈ boundTest name operator bound, IsRespelled spellings quote f := by
  intro f hf
  cases bound with
  | none => cases hf
  | some b =>
    obtain rfl := List.mem_singleton.mp hf
    have hspace : BeginsApart " " := by decide
    exact areRespelled_cons_verbatim (isRespelled_name name)
      (beginsApart_append (beginsApart_append hspace _) _)
      (areRespelled_verbatim_cons (endsApart_append _ (by decide) (by decide))
        (areRespelled_singleton (isRespelled_literal b.value)))

theorem isRespelled_columnExpression {name : String} {c : Column} {f : Fragment}
    (h : columnExpression? name c = some f) : IsRespelled spellings quote f := by
  have hbounds : IsRespelled spellings quote
      (.joined " AND " (boundTest name ">=" c.minimum ++ boundTest name ">" c.exclusiveMinimum
        ++ boundTest name "<=" c.maximum ++ boundTest name "<" c.exclusiveMaximum)) := by
    refine isRespelled_joined (by decide) (by decide) fun part hpart => ?_
    simp only [List.mem_append] at hpart
    rcases hpart with ((hpart | hpart) | hpart) | hpart <;>
      exact isRespelled_of_mem_boundTest part hpart
  unfold columnExpression? at h
  dsimp only at h
  split at h
  · split at h
    · cases h
    · obtain rfl := Option.some.inj h
      exact hbounds
  · split at h
    · cases h
    · obtain rfl := Option.some.inj h
      exact hbounds
  · obtain rfl := Option.some.inj h
    exact isRespelled_verbatim _

theorem isRespelled_tableCheck (profile : Profile) (stem : String) (c : Constraint) :
    IsRespelled spellings quote (tableCheck profile stem c) := by
  cases c with
  | expression sql => exact isRespelled_checkClause profile none (isRespelled_verbatim sql) none
  | check c =>
    exact isRespelled_checkClause profile (checkName? stem c.name) (isRespelled_verbatim c.check)
      c.enforced

theorem isRespelled_fulltextExpression (profile : Profile) (columns : List String) :
    IsRespelled spellings quote (fulltextExpression profile columns) := by
  unfold fulltextExpression
  split
  · refine isRespelled_joined (by decide) (by decide) fun part hpart => ?_
    obtain ⟨c, _, rfl⟩ := List.mem_map.mp hpart
    exact areRespelled_between (by decide) (isRespelled_name c) (by decide)
      (areRespelled_singleton (isRespelled_verbatim _))
  · refine isRespelled_joined (by decide) (by decide) fun part hpart => ?_
    obtain ⟨c, _, rfl⟩ := List.mem_map.mp hpart
    exact isRespelled_name c

theorem isRespelled_of_mem_indexColumns (d : Dialect) (settings : CompilerSettings) (i : Index)
    (position : Nat) (columns : List String) :
    ∀ f ∈ indexColumns d.profile settings i position columns, IsRespelled spellings quote f := by
  induction columns generalizing position with
  | nil => exact nofun
  | cons column rest ih =>
    refine List.forall_mem_cons.mpr ⟨?_, ih (position + 1)⟩
    split
    · refine areRespelled_between (by decide) (isRespelled_name column) (by decide)
        (areRespelled_verbatim_cons (by decide) ?_)
      have hclosed : AreRespelled spellings quote
          [.verbatim (textOr i.subType settings.arraySubtype), .verbatim "))"] :=
        areRespelled_cons_verbatim (isRespelled_verbatim _) (by decide)
          (areRespelled_singleton (isRespelled_verbatim _))
      -- Only one dialect has a suffix behind the type of the cast.
      cases d with
      | mysql =>
        exact areRespelled_cons_verbatim (isRespelled_verbatim _) (by decide)
          (areRespelled_cons_verbatim (isRespelled_verbatim _) (by decide)
            (areRespelled_singleton (isRespelled_verbatim _)))
      | postgres | sqlite => exact areRespelled_cons_empty hclosed
    · exact isRespelled_name column

theorem isRespelled_createIndex (d : Dialect) (settings : CompilerSettings) (stem table : String)
    (i : Index) : IsRespelled spellings quote (createIndex d.profile settings stem table i) := by
  have hcolumns : IsRespelled spellings quote
      (joined "," (indexColumns d.profile settings i 0 i.columns)) :=
    isRespelled_joined (by decide) (by decide)
      (isRespelled_of_mem_indexColumns d settings i 0 i.columns)
  refine areRespelled_verbatim_cons (by decide) (areRespelled_verbatim_cons ?_ ?_)
  · cases i.unique <;> decide
  · refine areRespelled_between (by decide) (isRespelled_name _) (by decide) ?_
    refine areRespelled_between (by decide) (isRespelled_name _) (by decide) ?_
    exact areRespelled_between (by decide) hcolumns (by decide)
      (areRespelled_singleton (isRespelled_verbatim _))

theorem isRespelled_createFulltext (d : Dialect) {settings : CompilerSettings}
    {stem table : String} {columns : List String} {f : Fragment}
    (h : createFulltext? d.profile settings stem table columns = some f) :
    IsRespelled spellings quote f := by
  have hexpression : IsRespelled spellings quote (fulltextExpression d.profile columns) :=
    isRespelled_fulltextExpression d.profile columns
  unfold createFulltext? at h
  split at h
  · cases h
  cases d with
  | sqlite => cases h
  | mysql =>
    obtain rfl := Option.some.inj h
    refine areRespelled_cons_verbatim (AreRespelled.isRespelled ?_) (by decide)
      (areRespelled_singleton (isRespelled_verbatim _))
    refine areRespelled_between (by decide) (isRespelled_name _) (by decide) ?_
    refine areRespelled_between (by decide) (isRespelled_name _) (by decide) ?_
    exact areRespelled_between (by decide) hexpression (by decide)
      (areRespelled_singleton (isRespelled_verbatim _))
  | postgres =>
    obtain rfl := Option.some.inj h
    refine areRespelled_cons_verbatim (AreRespelled.isRespelled ?_) (by decide)
      (areRespelled_singleton (isRespelled_verbatim _))
    refine areRespelled_between (by decide) (isRespelled_name _) (by decide) ?_
    refine areRespelled_between (by decide) (isRespelled_name _) (by decide) ?_
    refine areRespelled_between (by decide) (isRespelled_literal _) (by decide) ?_
    exact areRespelled_between (by decide) hexpression (by decide)
      (areRespelled_singleton (isRespelled_verbatim _))

end Clauses

namespace Target

/-! ## Written names -/

/-- A name as it stands in clauses and in the statements of indices. -/
def writtenName (t : Target) (name : String) : String :=
  respellName t.profile.keywordSpellings t.profile.identifierQuote name

/-- A fragment with its names written so, and the keywords of its other texts respelled. -/
def written (t : Target) (f : Fragment) : String :=
  f.spelledBy t.writtenName (respellWords t.profile.keywordSpellings)

theorem nameText_eq (t : Target) (name : String) :
    t.nameText name = quoteIdentifier t.profile.identifierQuote name := by
  show ".".intercalate [quoteIdentifier t.profile.identifierQuote name] = _
  exact String.intercalate_singleton

/-- The columns between the parentheses of an index. -/
def indexColumnsText (t : Target) (i : Index) : String :=
  joinWith "," ((indexColumns t.profile t.settings i 0 i.columns).map t.written)

/-- The statement of an index. -/
def indexText (t : Target) (stem table : String) (i : Index) : String :=
  "CREATE " ++ (if i.unique then "UNIQUE " else "") ++ "INDEX "
    ++ t.writtenName (Index.nameFor stem i) ++ " ON " ++ t.writtenName table ++ " ("
    ++ t.indexColumnsText i ++ ");"

/-- The name of the full-text index. -/
def fulltextName (t : Target) (stem : String) : String :=
  stem ++ "_" ++ t.settings.fulltextIndexSuffix

/-- The opening of the statement of a full-text index, up to its name. -/
def fulltextOpening (d : Dialect) : String :=
  match d with
  | .mysql => "CREATE FULLTEXT INDEX "
  | _ => "CREATE INDEX "

variable (d : Dialect) (settings : CompilerSettings)

theorem finish_createIndex (stem table : String) (i : Index) :
    finish ⟨d.profile, settings⟩ (createIndex d.profile settings stem table i) =
      indexText ⟨d.profile, settings⟩ stem table i := by
  have hstays : ∀ text ∈ ["CREATE ", "UNIQUE ", "", "INDEX ", " ON ", " (", ",", ");"],
      respellWords d.profile.keywordSpellings text = text := by
    cases d <;> decide +kernel
  simp only [List.forall_mem_cons] at hstays
  obtain ⟨hcreate, hunique, hempty, hindex, hon, hopen, hcomma, hclose, _⟩ := hstays
  have hkind : respellWords d.profile.keywordSpellings (if i.unique then "UNIQUE " else "") =
      if i.unique then "UNIQUE " else "" := by
    split
    · exact hunique
    · exact hempty
  refine (isRespelled_createIndex d settings stem table i).trans ?_
  unfold createIndex indexText joined indexColumnsText
  simp only [spelledBy, spelledAll, spelledAll_interleave, hcreate, hkind, hindex,
    hon, hopen, hcomma, hclose, String.append_empty, String.append_assoc]
  rfl

/-- A statement that opens with a name, and goes on with the name of a table. -/
theorem spelledAll_named {name word : String → String} {opening on n table : String}
    {gap gap' : String} {rest : List Fragment} (hopening : word opening = opening)
    (hon : word on = " ON ") (hgap : word gap = " " ++ gap') :
    ∃ more, spelledAll name word
        (.verbatim opening :: .name n :: .verbatim on :: .name table :: .verbatim gap :: rest) =
      opening ++ name n ++ " ON " ++ name table ++ " " ++ more := by
  refine ⟨gap' ++ spelledAll name word rest, ?_⟩
  rw [spelledAll, spelledAll, spelledAll, spelledAll, spelledAll, spelledBy_name, spelledBy_name]
  simp only [spelledBy, hopening, hon, hgap, String.append_assoc]

/-- The full-text index has its usual name, and is one of the table. -/
theorem exists_fulltextText {stem table : String} {s : Schema} {text : String}
    (h : text ∈ fulltextTexts ⟨d.profile, settings⟩ stem table s) :
    ∃ rest, text = fulltextOpening d
      ++ writtenName ⟨d.profile, settings⟩ (fulltextName ⟨d.profile, settings⟩ stem) ++ " ON "
      ++ writtenName ⟨d.profile, settings⟩ table ++ " " ++ rest := by
  obtain ⟨f, hf, rfl⟩ := List.mem_map.mp h
  have hf := Option.mem_toList.mp hf
  have hfinish : finish ⟨d.profile, settings⟩ f = written ⟨d.profile, settings⟩ f :=
    isRespelled_createFulltext d hf
  have hclosed : ∀ parts before more, spelledAll (writtenName ⟨d.profile, settings⟩)
      (respellWords d.profile.keywordSpellings) parts = before ++ more →
        written ⟨d.profile, settings⟩ (.sequence [.sequence parts, .verbatim ";"]) =
          before ++ (more ++ spelledAll (writtenName ⟨d.profile, settings⟩)
            (respellWords d.profile.keywordSpellings) [.verbatim ";"]) := by
    intro parts before more hparts
    rw [← String.append_assoc, ← hparts]
    rfl
  unfold createFulltext? at hf
  split at hf
  · cases hf
  rw [hfinish]
  cases d with
  | sqlite => cases hf
  | mysql =>
    obtain rfl := Option.some.inj hf
    obtain ⟨more, hmore⟩ := @spelledAll_named (writtenName ⟨Dialect.mysql.profile, settings⟩)
      (respellWords Dialect.mysql.profile.keywordSpellings) "CREATE FULLTEXT INDEX " " ON "
      (stem ++ "_" ++ settings.fulltextIndexSuffix) table " (" "("
      [fulltextExpression Dialect.mysql.profile s.fulltext, .verbatim ")"] (by decide +kernel)
      (by decide +kernel) (by decide +kernel)
    exact ⟨_, hclosed _ _ _ hmore⟩
  | postgres =>
    obtain rfl := Option.some.inj hf
    obtain ⟨more, hmore⟩ := @spelledAll_named (writtenName ⟨Dialect.postgres.profile, settings⟩)
      (respellWords Dialect.postgres.profile.keywordSpellings) "CREATE INDEX " " ON "
      (stem ++ "_" ++ settings.fulltextIndexSuffix) table " USING GIN (TO_TSVECTOR("
      "USING GIN (TO_TSVECTOR(" [.literal (.text settings.fulltextLanguage), .verbatim ", ",
        fulltextExpression Dialect.postgres.profile s.fulltext, .verbatim "))"] (by decide +kernel)
      (by decide +kernel) (by decide +kernel)
    exact ⟨_, hclosed _ _ _ hmore⟩

/-- Respelling leaves spaces alone. -/
theorem respellWords_spaces (spellings : List (String × String)) (n : Int) :
    respellWords spellings (spaces n) = spaces n := by
  have hall : ∀ k, Text.mapWords (respellWord spellings) (List.replicate k ' ') =
      List.replicate k ' ' := by
    intro k
    induction k with
    | zero => rfl
    | succ k ih => rw [List.replicate_succ, Text.mapWords_cons isWord_space, ih]
  rw [← String.toList_inj, toList_respellWords]
  unfold spaces
  rw [String.toList_ofList, hall]

theorem spaces_of_pos {n : Int} (h : 0 < n) : spaces n = " " ++ spaces (n - 1) := by
  obtain ⟨k, hk⟩ : ∃ k, n.toNat = k + 1 := ⟨n.toNat - 1, by omega⟩
  have hk' : (n - 1).toNat = k := by omega
  unfold spaces
  rw [hk, hk', ← String.toList_inj, String.toList_append, String.toList_ofList,
    String.toList_ofList, String.toList_ofList]
  rfl

/-- The line of a column starts with its name. -/
theorem exists_columnLine (t : Target) {name : String} {namePad : Int}
    (h : ((t.nameText name).length : Int) < namePad) (c : Column) (required : Bool) :
    ∃ rest, respellWords t.profile.keywordSpellings (t.columnLine name c required namePad) =
      spaces t.settings.padWidth ++ t.writtenName name ++ " " ++ rest := by
  have hspace : BeginsApart " " := by decide
  have hpad : padRight namePad (t.nameText name) =
      t.nameText name ++ (" " ++ spaces (namePad - (t.nameText name).length - 1)) := by
    unfold padRight
    rw [spaces_of_pos (by omega)]
  have hline : ∃ rest, t.columnLine name c required namePad =
      spaces t.settings.padWidth ++ (t.nameText name ++ (" " ++ rest)) := by
    unfold columnLine
    rw [hpad]
    simp only [String.append_assoc]
    exact ⟨_, rfl⟩
  have hends : EndsApart (spaces t.settings.padWidth) := by
    unfold EndsApart spaces
    rw [String.toList_ofList, List.getLast?_replicate]
    split
    · rfl
    · decide
  obtain ⟨rest, hline⟩ := hline
  have hrest : respellWords t.profile.keywordSpellings (" " ++ rest) =
      " " ++ respellWords t.profile.keywordSpellings rest := by
    rw [respellWords_append (.inl (EndsApart.isBoundary (by decide)))]
    exact congrArg (· ++ _) (respellWords_spaces _ 1)
  refine ⟨respellWords t.profile.keywordSpellings rest, ?_⟩
  rw [hline, respellWords_append (.inl hends.isBoundary), respellWords_spaces,
    respellWords_append (.inr (beginsApart_append hspace rest).isBoundary), hrest, nameText_eq]
  simp only [String.append_assoc]
  rfl

theorem length_lt_namePad (t : Target) {s : Schema} {name : String} (h : name ∈ s.columnNames) :
    ((t.nameText name).length : Int) < t.namePad s := by
  have hle : (t.nameText name).length ≤
      (s.columnNames.map fun name => (t.nameText name).length).max?.getD 0 :=
    List.le_max?_getD_of_mem (List.mem_map_of_mem h)
  unfold namePad
  omega

/-! ## Statements and conditions -/

theorem finish_relations (t : Target) (stem : String) (s : Schema) :
    ∀ f ∈ t.relations stem s, t.finish f = t.written f := by
  intro f hf
  unfold relations at hf
  split at hf
  · obtain ⟨⟨name, r⟩, _, rfl⟩ := List.mem_map.mp hf
    exact isRespelled_foreignKey stem name r
  · cases hf

theorem finish_checks (t : Target) (stem : String) (s : Schema) :
    ∀ f ∈ t.checks stem s, t.finish f = t.written f := by
  intro f hf
  rcases List.mem_append.mp hf with hf | hf
  · obtain ⟨⟨name, c⟩, _, hcheck⟩ := List.mem_filterMap.mp hf
    obtain ⟨expression, hexpression, rfl⟩ := Option.map_eq_some_iff.mp hcheck
    exact isRespelled_checkClause t.profile _ (isRespelled_columnExpression hexpression) none
  · obtain ⟨c, _, rfl⟩ := List.mem_map.mp hf
    exact isRespelled_tableCheck t.profile stem c

theorem finish_fulltextFragments (stem table : String) (s : Schema) :
    ∀ f ∈ fulltextFragments ⟨d.profile, settings⟩ stem table s,
      finish ⟨d.profile, settings⟩ f = written ⟨d.profile, settings⟩ f :=
  fun _ hf => isRespelled_createFulltext d (Option.mem_toList.mp hf)

/-- How the statements of a table write names. The head of the table has its name as it is quoted.
In everything else names are written: the lines of the columns start with them, and foreign keys,
checks and the statements of indices have them wherever they name anything. -/
structure WritesNames (t : Target) (table : String) (s : Schema) (texts : List String) : Prop where
  statements : texts = t.createTable table s ::
    (t.indexTexts (Text.lower table) table s ++ t.fulltextTexts (Text.lower table) table s)
  head : t.createTable table s = "CREATE TABLE IF NOT EXISTS " ++ t.nameText table ++ " (\n"
    ++ joinWith ",\n" (t.bodyLines (Text.lower table) s) ++ "\n);"
  lines : t.bodyLines (Text.lower table) s = t.columnLines s
    ++ (t.relationTexts (Text.lower table) s ++ t.checkTexts (Text.lower table) s).map
      (spaces t.settings.padWidth ++ ·)
  columns : List.Forall₂ (fun p line => ∃ rest,
    line = spaces t.settings.padWidth ++ t.writtenName p.1 ++ " " ++ rest) s.columns
    (t.columnLines s)
  relations : t.relationTexts (Text.lower table) s =
    (t.relations (Text.lower table) s).map t.written
  checks : t.checkTexts (Text.lower table) s =
    sortTexts ((t.checks (Text.lower table) s).map t.written)
  indices : t.indexTexts (Text.lower table) table s =
    sortTexts ((Target.indices s).map (t.indexText (Text.lower table) table)).eraseDups
  fulltext : t.fulltextTexts (Text.lower table) table s =
    (t.fulltextFragments (Text.lower table) table s).map t.written
  fulltextTable : ∀ text ∈ t.fulltextTexts (Text.lower table) table s, ∃ before rest,
    text = before ++ " ON " ++ t.writtenName table ++ " " ++ rest

theorem writesNames (table : String) (s : Schema) :
    WritesNames ⟨d.profile, settings⟩ table s (tableStatements ⟨d.profile, settings⟩ table s) where
  statements := rfl
  head := rfl
  lines := rfl
  columns := by
    refine (List.forall₂_map_right_iff ..).mpr (List.forall₂_same.mpr ?_)
    rintro ⟨name, c⟩ hc
    exact exists_columnLine _ (length_lt_namePad _ (List.mem_map_of_mem hc)) c _
  relations := List.map_congr_left (finish_relations _ _ s)
  checks := congrArg sortTexts (List.map_congr_left (finish_checks _ _ s))
  indices := by
    unfold indexTexts indexFragments
    rw [List.map_map]
    simp only [Function.comp_def, finish_createIndex]
  fulltext := List.map_congr_left (finish_fulltextFragments d settings _ table s)
  fulltextTable := by
    intro text htext
    obtain ⟨rest, hrest⟩ := exists_fulltextText d settings htext
    exact ⟨_, rest, hrest⟩

/-- A condition is rendered and not respelled. -/
theorem sql_prepare {target : ConditionTarget} (htarget : target.profile = d.profile)
    (condition : Condition) : (target.prepare condition).sql =
      (target.fragment condition).spelledBy (nameText ⟨d.profile, settings⟩) id := by
  have hname : nameText ⟨d.profile, settings⟩ = quoteIdentifier d.profile.identifierQuote :=
    funext (nameText_eq ⟨d.profile, settings⟩)
  rw [hname, ← htarget, ← render_eq_spelledBy]
  rfl

/-- A column without dots is ordered by its name. -/
theorem sql_sortKey {name : String} (hne : name ≠ "") (hdot : '.' ∉ name.toList)
    (descending : Bool) : columnPath name = [name] ∧
      SortKey.sql d.profile.identifierQuote ⟨name, descending⟩ =
        .ok (nameText ⟨d.profile, settings⟩ name ++ if descending then " DESC" else " ASC") := by
  have hpath : columnPath name = [name] := by
    unfold columnPath Text.split
    rw [Text.splitAt_of_not_mem hdot, List.map_singleton, String.ofList_toList]
  have hvalid : nameError? (.identifier [name]) = none := by
    unfold nameError?
    exact if_neg (by simpa using hne.symm)
  refine ⟨hpath, ?_⟩
  unfold SortKey.sql render?
  rw [hpath, hvalid]
  rfl

/-- **Names.** In the statements of a table all names are written, but the head of the table has its
name as it is quoted, and so have conditions and orders the names of their columns. These two forms
of a name are the same exactly if no keyword that the dialect spells differently is a word of it. -/
theorem statements_names {s : Schema} {override : Option String} {j : Log.Journal}
    {texts : List String}
    (h : (statements ⟨d.profile, settings⟩ s override).outcome j = .ok texts) :
    (∃ table, chooseName? override s = some table ∧
        WritesNames ⟨d.profile, settings⟩ table s texts) ∧
      (∀ (target : ConditionTarget) (condition : Condition), target.profile = d.profile →
        (target.prepare condition).sql =
          (target.fragment condition).spelledBy (nameText ⟨d.profile, settings⟩) id) ∧
      (∀ name, name ≠ "" → '.' ∉ name.toList → ∀ descending, columnPath name = [name] ∧
        SortKey.sql d.profile.identifierQuote ⟨name, descending⟩ =
          .ok (nameText ⟨d.profile, settings⟩ name ++ if descending then " DESC" else " ASC")) ∧
      ∀ name, writtenName ⟨d.profile, settings⟩ name = nameText ⟨d.profile, settings⟩ name ↔
        ∀ keyword ∈ d.profile.keywordSpellings.map (·.1),
          ¬ HasWord keyword.toList name.toList := by
  obtain ⟨table, hname, _, _, rfl⟩ := statements_eq_ok_iff.mp h
  refine ⟨⟨table, hname, writesNames d settings table s⟩,
    fun target condition htarget => sql_prepare d settings htarget condition,
    fun name hne hdot descending => sql_sortKey d settings hne hdot descending, fun name => ?_⟩
  obtain ⟨mark, hquote, hmark, _, _⟩ := exists_identifierQuote d
  rw [nameText_eq]
  exact respellName_eq_iff hquote hmark (areApart_keywordSpellings d) name

/-- A table of one column that is indexed. -/
def indexedSchema (table column : String) : Schema :=
  { table := some table, columns := [(column, { index := some [column] })] }

/-- Names without keywords: `DATETIME` is not a word of `DATETIMES`. -/
theorem statements_names_plural :
    (statements ⟨Dialect.postgres.profile, {}⟩ (indexedSchema "DATETIMES" "a b") none).outcome
        .empty = .ok ["CREATE TABLE IF NOT EXISTS DATETIMES (\n    \"a b\" VARCHAR(128)\n);",
          "CREATE INDEX \"datetimes_a b\" ON DATETIMES (\"a b\");"] ∧
      (∃ table, chooseName? none (indexedSchema "DATETIMES" "a b") = some table ∧
        WritesNames ⟨Dialect.postgres.profile, {}⟩ table (indexedSchema "DATETIMES" "a b")
          ["CREATE TABLE IF NOT EXISTS DATETIMES (\n    \"a b\" VARCHAR(128)\n);",
            "CREATE INDEX \"datetimes_a b\" ON DATETIMES (\"a b\");"]) ∧
      (writtenName ⟨Dialect.postgres.profile, {}⟩ "DATETIMES" =
          nameText ⟨Dialect.postgres.profile, {}⟩ "DATETIMES" ↔
        ∀ keyword ∈ Dialect.postgres.profile.keywordSpellings.map (·.1),
          ¬ HasWord keyword.toList "DATETIMES".toList) := by
  have hstatements :
      (statements ⟨Dialect.postgres.profile, {}⟩ (indexedSchema "DATETIMES" "a b") none).outcome
        .empty = .ok ["CREATE TABLE IF NOT EXISTS DATETIMES (\n    \"a b\" VARCHAR(128)\n);",
          "CREATE INDEX \"datetimes_a b\" ON DATETIMES (\"a b\");"] :=
    Log.eq_ok_of_toOption (by decide +kernel)
  obtain ⟨htable, _, _, hsame⟩ := statements_names .postgres {} hstatements
  exact ⟨hstatements, htable, hsame "DATETIMES"⟩

/-- A table and a column whose names are keywords: the index is one of another table, and a
condition asks for a column that the table does not have. -/
theorem statements_keywordNames :
    (statements ⟨Dialect.postgres.profile, {}⟩ (indexedSchema "DATETIME" "REGEXP") none).outcome
        .empty = .ok ["CREATE TABLE IF NOT EXISTS DATETIME (\n    ~* VARCHAR(128)\n);",
          "CREATE INDEX datetime_REGEXP ON TIMESTAMP (~*);"] ∧
      (ConditionTarget.prepare ⟨Dialect.postgres.profile, [], "english"⟩
        [.test "REGEXP" (.compare .eq (.int 1))]).sql = "REGEXP = ?" ∧
      writtenName ⟨Dialect.postgres.profile, {}⟩ "DATETIME" = "TIMESTAMP" ∧
      nameText ⟨Dialect.postgres.profile, {}⟩ "DATETIME" = "DATETIME" :=
  ⟨Log.eq_ok_of_toOption (by decide +kernel), by decide +kernel, by decide +kernel,
    by decide +kernel⟩

end Target

end Ddl

end SqlCompiler
