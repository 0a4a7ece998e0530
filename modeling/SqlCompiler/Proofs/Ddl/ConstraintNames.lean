import Mathlib.Data.List.Nodup
import SqlCompiler.Proofs.Ddl.Body
import SqlCompiler.Proofs.Ddl.IndexNames

/-!
# Names of constraints

The foreign keys of a table, the checks of its columns and its own checks are all named by the stem
of the table and a name behind it: that of the relation, of the column, or of the check in lower
case. Nothing keeps the three apart, so the names in the statement of a table are distinct exactly if
no two declarations of different kinds come to one name (`constraintNames_nodup_iff`).
-/

namespace SqlCompiler

open Sql

/-! ## Quoted names -/

namespace Sql

section Quotes

variable {quote : String} {mark : Char}

theorem doubleMark_singleton_inj {s t : List Char} :
    Text.doubleMark [mark] s = Text.doubleMark [mark] t ↔ s = t := by
  refine ⟨fun h => ?_, congrArg _⟩
  have hnil : Text.doubleMark [mark] [] = [] := by
    rw [Text.doubleMark]
  have hne : ∀ c s, Text.doubleMark [mark] (c :: s) ≠ [] := by
    intro c s
    rw [Text.doubleMark_singleton_cons]
    split <;> exact List.cons_ne_nil _ _
  induction s generalizing t with
  | nil =>
    cases t with
    | nil => rfl
    | cons c t => exact absurd (h.symm.trans hnil) (hne c t)
  | cons c s ih =>
    cases t with
    | nil => exact absurd (h.trans hnil) (hne c s)
    | cons d t =>
      rw [Text.doubleMark_singleton_cons, Text.doubleMark_singleton_cons] at h
      by_cases hc : c = mark <;> by_cases hd : d = mark
      · rw [if_pos hc, if_pos hd] at h
        rw [hc, hd, ih (List.cons.inj (List.cons.inj h).2).2]
      · rw [if_pos hc, if_neg hd] at h
        exact absurd (List.cons.inj h).1.symm hd
      · rw [if_neg hc, if_pos hd] at h
        exact absurd (List.cons.inj h).1 hc
      · rw [if_neg hc, if_neg hd] at h
        obtain ⟨hhead, htail⟩ := List.cons.inj h
        rw [hhead, ih htail]

theorem enclose_inj (hquote : quote.toList = [mark]) {s t : String} :
    Text.enclose quote s = Text.enclose quote t ↔ s = t := by
  refine ⟨fun h => ?_, congrArg _⟩
  rw [← String.toList_inj, toList_enclose hquote, toList_enclose hquote] at h
  have hbody := List.append_cancel_right (List.cons.inj h).2
  exact String.toList_inj.mp (doubleMark_singleton_inj.mp hbody)

/-- A quote that no plain word has tells names apart. -/
theorem quoteIdentifier_inj (hquote : quote.toList = [mark]) (hbreak : mark ≠ '\n')
    (hplain : isNameChar mark = false) {s t : String} :
    quoteIdentifier quote s = quoteIdentifier quote t ↔ s = t := by
  have hother : ∀ s t : String, isPlainWord s.toList = true → s ≠ Text.enclose quote t := by
    rintro s t hs rfl
    have hmark : mark ∈ (Text.enclose quote t).toList := by
      rw [toList_enclose hquote]
      exact List.mem_cons_self
    rcases Ddl.mem_of_isPlainWord hs hmark with h | h
    · exact absurd h (Bool.eq_false_iff.mp hplain)
    · exact hbreak h
  unfold quoteIdentifier
  split <;> rename_i hs <;> split <;> rename_i ht
  · exact Iff.rfl
  · refine iff_of_false (hother s t hs) ?_
    rintro rfl
    exact ht hs
  · refine iff_of_false (fun h => hother t s ht h.symm) ?_
    rintro rfl
    exact hs ht
  · exact enclose_inj hquote

end Quotes

end Sql

namespace Ddl

/-! ## Reading names -/

/-- How a clause with a name opens. -/
def constraintOpening : String :=
  "CONSTRAINT "

/-- The name of a constraint, as it stands in its clause; none if the clause has no name. -/
def constraintName? (quote clause : String) : Option String :=
  if constraintOpening.toList.isPrefixOf clause.toList then
    some (String.ofList (nameSpan quote false
      (clause.toList.drop constraintOpening.toList.length)))
  else none

/-- The names of constraints, in order. -/
def constraintNames (d : Dialect) (clauses : List String) : List String :=
  clauses.filterMap (constraintName? d.profile.identifierQuote)

theorem constraintName?_of_opening (quote rest : String) :
    constraintName? quote (constraintOpening ++ rest) =
      some (String.ofList (nameSpan quote false rest.toList)) := by
  unfold constraintName?
  rw [String.toList_append, if_pos (List.isPrefixOf_iff_prefix.mpr (List.prefix_append _ _)),
    List.drop_left]

theorem constraintName?_check (quote rest : String) :
    constraintName? quote ("CHECK (" ++ rest) = none := by
  have hapart : Apart constraintOpening.toList "CHECK (".toList := by decide
  refine if_neg fun hprefix => ?_
  rw [String.toList_append, List.isPrefixOf_iff_prefix] at hprefix
  obtain ⟨tail, htail⟩ := hprefix
  exact hapart.append_ne tail rest.toList htail

/-! ## Declarations -/

/-- What a constraint is made from: a relation, a column of whose values something is demanded, or a
check of the table, each by its name. -/
inductive ConstraintOrigin
  | relation (name : String)
  | column (name : String)
  | table (name : String)
deriving DecidableEq

/-- The name of a constraint of a table. -/
def ConstraintOrigin.fullName (stem : String) : ConstraintOrigin → String
  | relation name | column name => stem ++ "_" ++ name
  | table name => Text.lower (stem ++ "_" ++ name)

/-- The names of the checks of the table that are meant for the dialect. -/
def checkNames (profile : Profile) (s : Schema) : List String :=
  (s.constraints.filter (·.appliesTo profile.dialect)).filterMap (·.ownName?)

/-- The declarations of a table that a dialect makes named constraints from. -/
def constraintOrigins (profile : Profile) (s : Schema) : List ConstraintOrigin :=
  (if profile.supportsForeignKeys then s.relations.map (.relation ·.1) else [])
    ++ if profile.supportsNamedChecks then
      (s.columns.filter (·.2.isChecked)).map (.column ·.1) ++ (checkNames profile s).map .table
    else []

namespace Target

variable (d : Dialect) (settings : CompilerSettings)

theorem constraintName?_keyText (stem name : String) (r : Relation) :
    constraintName? d.profile.identifierQuote (keyText ⟨d.profile, settings⟩ stem name r) =
      some (writtenName ⟨d.profile, settings⟩ (stem ++ "_" ++ name)) := by
  have hgap : " FOREIGN KEY (".toList = ' ' :: "FOREIGN KEY (".toList := by decide
  unfold keyText
  simp only [String.append_assoc]
  refine (constraintName?_of_opening _ _).trans ?_
  rw [String.toList_append, String.toList_append, hgap, List.cons_append, nameSpan_writtenName,
    String.ofList_toList]

theorem constraintName?_checkText (name : Option String) (demand : String)
    (enforced : Option Bool) :
    constraintName? d.profile.identifierQuote
        (checkText ⟨d.profile, settings⟩ name demand enforced) =
      if d.profile.supportsNamedChecks then name.map (writtenName ⟨d.profile, settings⟩)
      else none := by
  have hgap : " ".toList = [' '] := by decide
  unfold checkText checkHead
  cases name with
  | none =>
    simp only [String.append_assoc, String.empty_append, constraintName?_check]
    split <;> rfl
  | some n =>
    dsimp only
    split
    · simp only [String.append_assoc]
      refine (constraintName?_of_opening _ _).trans ?_
      rw [String.toList_append, String.toList_append, hgap, List.cons_append, nameSpan_writtenName,
        String.ofList_toList]
      rfl
    · simp only [String.append_assoc, String.empty_append, constraintName?_check]

/-- The name of a constraint as it is written. -/
def originName (t : Target) (stem : String) (o : ConstraintOrigin) : String :=
  t.writtenName (o.fullName stem)

theorem constraintNames_relationTexts (stem : String) (s : Schema) :
    constraintNames d (relationTexts ⟨d.profile, settings⟩ stem s) =
      (if d.profile.supportsForeignKeys then s.relations.map (.relation ·.1) else []).map
        (originName ⟨d.profile, settings⟩ stem) := by
  rw [relationTexts_eq]
  split
  · unfold constraintNames
    rw [List.filterMap_map, List.map_map, ← List.filterMap_eq_map]
    refine List.filterMap_congr fun p _ => ?_
    rw [Function.comp_apply, constraintName?_keyText]
    rfl
  · rfl

theorem constraintName?_tableCheckText (stem : String) (c : Constraint) :
    constraintName? d.profile.identifierQuote (tableCheckText ⟨d.profile, settings⟩ stem c) =
      if d.profile.supportsNamedChecks then
        (c.ownName?.map .table).map (originName ⟨d.profile, settings⟩ stem)
      else none := by
  cases c with
  | expression sql => exact constraintName?_checkText d settings none _ none
  | check c =>
    refine (constraintName?_checkText d settings _ _ _).trans ?_
    rw [checkName?_eq, Option.map_map]
    unfold Constraint.ownName?
    rw [Option.map_map]
    rfl

theorem constraintNames_declaredChecks (stem : String) (s : Schema) :
    constraintNames d (declaredChecks ⟨d.profile, settings⟩ stem s) =
      (if d.profile.supportsNamedChecks then
        (s.columns.filter (·.2.isChecked)).map (.column ·.1)
          ++ (checkNames d.profile s).map .table
      else []).map (originName ⟨d.profile, settings⟩ stem) := by
  unfold constraintNames declaredChecks checkNames
  rw [List.filterMap_append, List.filterMap_map, List.filterMap_map]
  have hcolumns : ∀ p : String × Column, constraintName? d.profile.identifierQuote
      (columnCheckText ⟨d.profile, settings⟩ stem p.1 p.2) =
        if d.profile.supportsNamedChecks then
          some (originName ⟨d.profile, settings⟩ stem (.column p.1)) else none :=
    fun p => constraintName?_checkText d settings _ _ none
  simp only [Function.comp_def, hcolumns, constraintName?_tableCheckText]
  cases d.profile.supportsNamedChecks with
  | false => simp
  | true =>
    simp only [if_true, List.map_append, List.map_map, List.map_filterMap]
    rw [← List.filterMap_eq_map]
    rfl

/-- The clauses of a table with constraints: its foreign keys and its checks. -/
def clauses (t : Target) (stem : String) (s : Schema) : List String :=
  t.relationTexts stem s ++ t.checkTexts stem s

/-- The clauses of a table name the constraints of its declarations. Sorting may change their order.
-/
theorem perm_constraintNames (stem : String) (s : Schema) :
    (constraintNames d (clauses ⟨d.profile, settings⟩ stem s)).Perm
      ((constraintOrigins d.profile s).map (originName ⟨d.profile, settings⟩ stem)) := by
  have hchecks : (constraintNames d (checkTexts ⟨d.profile, settings⟩ stem s)).Perm
      (constraintNames d (declaredChecks ⟨d.profile, settings⟩ stem s)) :=
    (isBody d settings stem s).demands.filterMap _
  have happend : constraintNames d (clauses ⟨d.profile, settings⟩ stem s) =
      constraintNames d (relationTexts ⟨d.profile, settings⟩ stem s)
        ++ constraintNames d (checkTexts ⟨d.profile, settings⟩ stem s) :=
    List.filterMap_append
  unfold constraintOrigins
  rw [happend, List.map_append, ← constraintNames_relationTexts, ← constraintNames_declaredChecks]
  exact hchecks.append_left _

end Target

/-! ## Distinct names -/

/-- A schema that declares every relation and every column once, and whose checks of the table that
are meant for the dialect have different names in lower case. -/
structure DeclaresOnce (profile : Profile) (s : Schema) : Prop where
  relations : (s.relations.map (·.1)).Nodup
  columns : s.columnNames.Nodup
  checks : ((checkNames profile s).map Text.lower).Nodup

theorem DeclaresOnce.nodup_constraintOrigins {profile : Profile} {s : Schema}
    (h : DeclaresOnce profile s) : (constraintOrigins profile s).Nodup := by
  have hrelations : (s.relations.map (ConstraintOrigin.relation ·.1)).Nodup := by
    have hmap := h.relations.map (f := ConstraintOrigin.relation) fun _ _ =>
      ConstraintOrigin.relation.inj
    rwa [List.map_map] at hmap
  have hcolumns : ((s.columns.filter (·.2.isChecked)).map (ConstraintOrigin.column ·.1)).Nodup := by
    have hsub : ((s.columns.filter (·.2.isChecked)).map (·.1)).Nodup :=
      h.columns.sublist (List.filter_sublist.map _)
    have hmap := hsub.map (f := ConstraintOrigin.column) fun _ _ => ConstraintOrigin.column.inj
    rwa [List.map_map] at hmap
  have hchecks := h.checks.of_map.map (f := ConstraintOrigin.table) fun _ _ =>
    ConstraintOrigin.table.inj
  unfold constraintOrigins
  refine List.Nodup.append ?_ ?_ ?_
  · split
    · exact hrelations
    · exact List.nodup_nil
  · split
    · refine hcolumns.append hchecks fun o hcolumn htable => ?_
      obtain ⟨p, _, rfl⟩ := List.mem_map.mp hcolumn
      obtain ⟨n, _, hn⟩ := List.mem_map.mp htable
      cases hn
    · exact List.nodup_nil
  · intro o hrelation hother
    split at hrelation
    · obtain ⟨p, _, rfl⟩ := List.mem_map.mp hrelation
      split at hother
      · simp at hother
      · cases hother
    · cases hrelation

theorem mem_checkNames_of_mem_constraintOrigins {profile : Profile} {s : Schema} {name : String}
    (h : .table name ∈ constraintOrigins profile s) : name ∈ checkNames profile s := by
  rcases List.mem_append.mp h with h | h
  · split at h
    · simp at h
    · cases h
  · split at h
    · simpa using h
    · cases h

/-- No two declarations of different kinds come to one name: no relation has the name of a column
that is checked, and no check of the table has in lower case what one of these has as it is. -/
structure AreNamedApart (profile : Profile) (stem : String) (s : Schema) : Prop where
  relationColumn : ∀ a b, .relation a ∈ constraintOrigins profile s →
    .column b ∈ constraintOrigins profile s → a ≠ b
  relationTable : ∀ a b, .relation a ∈ constraintOrigins profile s →
    .table b ∈ constraintOrigins profile s → stem ++ "_" ++ a ≠ Text.lower (stem ++ "_" ++ b)
  columnTable : ∀ a b, .column a ∈ constraintOrigins profile s →
    .table b ∈ constraintOrigins profile s → stem ++ "_" ++ a ≠ Text.lower (stem ++ "_" ++ b)

/-- Declarations that are named apart are told apart by their names. -/
theorem areNamedApart_iff {profile : Profile} {stem : String} {s : Schema}
    (h : DeclaresOnce profile s) : AreNamedApart profile stem s ↔
      ∀ a ∈ constraintOrigins profile s, ∀ b ∈ constraintOrigins profile s,
        a.fullName stem = b.fullName stem → a = b := by
  constructor
  · rintro hapart (a | a | a) ha (b | b | b) hb hname
    · exact congrArg _ (stem_append_inj.mp hname)
    · exact absurd (stem_append_inj.mp hname) (hapart.relationColumn a b ha hb)
    · exact absurd hname (hapart.relationTable a b ha hb)
    · exact absurd (stem_append_inj.mp hname.symm) (hapart.relationColumn b a hb ha)
    · exact congrArg _ (stem_append_inj.mp hname)
    · exact absurd hname (hapart.columnTable a b ha hb)
    · exact absurd hname.symm (hapart.relationTable b a hb ha)
    · exact absurd hname.symm (hapart.columnTable b a hb ha)
    · have hlower : Text.lower a = Text.lower b := lower_stem_append_inj.mp hname
      exact congrArg _ (List.inj_on_of_nodup_map h.checks
        (mem_checkNames_of_mem_constraintOrigins ha) (mem_checkNames_of_mem_constraintOrigins hb)
        hlower)
  · intro hinj
    constructor
    case relationColumn =>
      rintro a _ ha hb rfl
      cases hinj _ ha _ hb rfl
    case relationTable =>
      intro a b ha hb hname
      cases hinj _ ha _ hb hname
    case columnTable =>
      intro a b ha hb hname
      cases hinj _ ha _ hb hname

namespace Target

variable (d : Dialect) (settings : CompilerSettings)

/-- Names without keywords are told apart where they are written. -/
theorem writtenName_inj_of_forall_not_hasWord {a b : String}
    (ha : ∀ keyword ∈ d.profile.keywordSpellings.map (·.1), ¬ HasWord keyword.toList a.toList)
    (hb : ∀ keyword ∈ d.profile.keywordSpellings.map (·.1), ¬ HasWord keyword.toList b.toList) :
    writtenName ⟨d.profile, settings⟩ a = writtenName ⟨d.profile, settings⟩ b ↔ a = b := by
  obtain ⟨mark, hquote, hmark, ⟨_, hbreak, hplain⟩, _⟩ := exists_identifierQuote d
  have hname := respellName_eq_iff hquote hmark (areApart_keywordSpellings d)
  unfold writtenName
  rw [(hname a).mpr ha, (hname b).mpr hb]
  exact quoteIdentifier_inj hquote hbreak hplain

/-- **Names of constraints.** The statement that creates a table has its clauses between the lines of
its columns and the closing line, and they name the constraints of its declarations. In a schema that
declares everything once these names are distinct exactly if no two declarations have the same
written name, and if no keyword is a word of one, exactly if the declarations are named apart. -/
theorem constraintNames_nodup_iff {s : Schema} {override : Option String} {j : Log.Journal}
    {texts : List String}
    (h : (statements ⟨d.profile, settings⟩ s override).outcome j = .ok texts)
    (hs : DeclaresOnce d.profile s) :
    ∃ table names, chooseName? override s = some table ∧
      names = constraintNames d (clauses ⟨d.profile, settings⟩ (Text.lower table) s) ∧
      texts.head? = some ("CREATE TABLE IF NOT EXISTS " ++ nameText ⟨d.profile, settings⟩ table
        ++ " (\n" ++ joinWith ",\n" (columnLines ⟨d.profile, settings⟩ s
          ++ (clauses ⟨d.profile, settings⟩ (Text.lower table) s).map
            (spaces settings.padWidth ++ ·)) ++ "\n);") ∧
      names.Perm ((constraintOrigins d.profile s).map
        (originName ⟨d.profile, settings⟩ (Text.lower table))) ∧
      (names.Nodup ↔ ∀ a ∈ constraintOrigins d.profile s, ∀ b ∈ constraintOrigins d.profile s,
        originName ⟨d.profile, settings⟩ (Text.lower table) a =
          originName ⟨d.profile, settings⟩ (Text.lower table) b → a = b) ∧
      ((∀ o ∈ constraintOrigins d.profile s,
          ∀ keyword ∈ d.profile.keywordSpellings.map (·.1),
            ¬ HasWord keyword.toList (o.fullName (Text.lower table)).toList) →
        (names.Nodup ↔ AreNamedApart d.profile (Text.lower table) s)) := by
  obtain ⟨table, hname, _, _, rfl⟩ := statements_eq_ok_iff.mp h
  have hperm := perm_constraintNames d settings (Text.lower table) s
  have hnodup := hperm.nodup_iff.trans (List.nodup_map_iff_inj_on hs.nodup_constraintOrigins)
  refine ⟨table, _, hname, rfl, rfl, hperm, hnodup, fun hwords => ?_⟩
  rw [hnodup, areNamedApart_iff hs]
  refine forall₂_congr fun a ha => forall₂_congr fun b hb => imp_congr_left ?_
  exact writtenName_inj_of_forall_not_hasWord d settings (hwords a ha) (hwords b hb)

/-- A table whose owner refers to an account and is checked as well, by a check of the column or one
of the table. -/
def ownedSchema (relation : String) (check : Option String) : Schema :=
  { table := some "T", columns := [("owner", { type := .integer, minimum := some (.int 1) })],
    relations := [(relation, { column := "owner", target := "account" })],
    constraints := (check.map fun name => .check { name := some name, check := "owner < 9" }).toList }

/-- Three declarations with names of their own. -/
theorem constraintNames_account : DeclaresOnce Dialect.mysql.profile
      (ownedSchema "account" (some "Limit")) ∧
    ∃ texts names, (statements ⟨Dialect.mysql.profile, {}⟩
        (ownedSchema "account" (some "Limit")) none).outcome .empty = .ok texts ∧
      names = constraintNames .mysql (clauses ⟨Dialect.mysql.profile, {}⟩ "t"
        (ownedSchema "account" (some "Limit"))) ∧
      names.Perm ["t_account", "t_owner", "t_limit"] ∧ names.Nodup := by
  have hs : DeclaresOnce Dialect.mysql.profile (ownedSchema "account" (some "Limit")) :=
    ⟨by decide, by decide, by decide⟩
  have hstatements : ∃ texts, (statements ⟨Dialect.mysql.profile, {}⟩
      (ownedSchema "account" (some "Limit")) none).outcome .empty = .ok texts :=
    ⟨_, statements_eq_ok_iff.mpr ⟨"T", by decide, rfl,
      (Fragment.nameErrorIn?_eq_none_iff _).mpr (by decide), rfl⟩⟩
  obtain ⟨texts, htexts⟩ := hstatements
  obtain ⟨table, names, htable, hnames, _, hperm, _, hapart⟩ :=
    constraintNames_nodup_iff .mysql {} htexts hs
  obtain rfl : "T" = table := Option.some.inj ((by decide : _ = some "T").symm.trans htable)
  have hlower : Text.lower "T" = "t" := by decide
  have horigins : (constraintOrigins Dialect.mysql.profile
      (ownedSchema "account" (some "Limit"))).map (originName ⟨Dialect.mysql.profile, {}⟩ "t") =
        ["t_account", "t_owner", "t_limit"] := by
    decide
  rw [hlower] at hnames hperm hapart
  rw [horigins] at hperm
  -- The dialect respells no keywords.
  refine ⟨hs, texts, names, htexts, hnames, hperm, (hapart fun _ _ => nofun).mpr ?_⟩
  exact (areNamedApart_iff hs).mpr (by decide)

/-- A document with a relation that has the name of its column, of whose values something is
demanded. -/
def ownedDocument : Value :=
  .object [("table", .text "T"),
    ("properties", .object [("owner", .object [("type", .text "integer"), ("minimum", .int 1)])]),
    ("relations", .object [("owner", .object [("join", .text "owner"), ("target", .text "account")])])]

/-- The foreign key and the check have one name. -/
theorem constraintNames_owner :
    Schema.ofValue ownedDocument = .ok (ownedSchema "owner" none) ∧
      DeclaresOnce Dialect.postgres.profile (ownedSchema "owner" none) ∧
      (statements ⟨Dialect.postgres.profile, {}⟩ (ownedSchema "owner" none) none).outcome .empty =
        .ok ["CREATE TABLE IF NOT EXISTS T (\n    owner INTEGER,\n" ++
          "    CONSTRAINT t_owner FOREIGN KEY (owner) REFERENCES account (id),\n" ++
          "    CONSTRAINT t_owner CHECK (owner >= 1)\n);"] ∧
      (constraintNames .postgres (clauses ⟨Dialect.postgres.profile, {}⟩ (Text.lower "T")
        (ownedSchema "owner" none))).Perm ["t_owner", "t_owner"] ∧
      ¬ (constraintNames .postgres (clauses ⟨Dialect.postgres.profile, {}⟩ (Text.lower "T")
        (ownedSchema "owner" none))).Nodup := by
  have hperm := perm_constraintNames .postgres {} (Text.lower "T") (ownedSchema "owner" none)
  have horigins : (constraintOrigins Dialect.postgres.profile (ownedSchema "owner" none)).map
      (originName ⟨Dialect.postgres.profile, {}⟩ (Text.lower "T")) = ["t_owner", "t_owner"] := by
    decide +kernel
  have hread : Schema.ofValue ownedDocument = .ok (ownedSchema "owner" none) :=
    Schema.ofValue_object_eq_ok_iff.mpr rfl
  rw [horigins] at hperm
  refine ⟨hread, ⟨by decide, by decide, by decide⟩, Log.eq_ok_of_toOption (by decide +kernel),
    hperm, ?_⟩
  rw [hperm.nodup_iff]
  decide

end Target

end Ddl

end SqlCompiler
