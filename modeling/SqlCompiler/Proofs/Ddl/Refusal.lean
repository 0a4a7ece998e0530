import SqlCompiler.Proofs.Database.Creation
import SqlCompiler.Proofs.Ddl.Checks
import SqlCompiler.Proofs.Ddl.Default
import SqlCompiler.Proofs.Freshness.Coherence
import SqlCompiler.Proofs.Sql.Paths

/-!
# Refused schemas

A document is refused with an error about its schema if it is no schema, or one whose table has no
name or no columns. What a schema names is checked for being declared but not for being empty, so a
schema may still have an empty name for a column or for the table that a foreign key refers to
(`Schema.IsNamed`). Such a schema is refused as well, but with the error of a fragment that has no
name (`compiled_refusals`).
-/

namespace SqlCompiler

open Sql

/-- A schema without empty names where its statements name something: none of its columns, and no
table that a foreign key refers to. -/
structure Schema.IsNamed (profile : Profile) (s : Schema) : Prop where
  columns : "" ∉ s.columnNames
  targets : profile.supportsForeignKeys = true → ∀ p ∈ s.relations, p.2.target ≠ ""

namespace Ddl

open Sql.Fragment

/-! ## Names in clauses -/

theorem paths_actionClause (event : String) (action : Option String) :
    pathsIn (actionClause event action) = [] := by
  unfold actionClause
  split <;> rfl

theorem paths_foreignKey (stem name : String) (r : Relation) :
    (foreignKey stem name r).paths = [[stem ++ "_" ++ name], [r.column], [r.target]] := by
  unfold foreignKey
  rw [paths, pathsIn_append, pathsIn_append, paths_actionClause, paths_actionClause]
  rfl

theorem mem_paths_checkClause {profile : Profile} {name : Option String} {expression : Fragment}
    {enforced : Option Bool} {path : List String}
    (h : path ∈ (checkClause profile name expression enforced).paths) :
    (∃ n, name = some n ∧ path = [n]) ∨ path ∈ expression.paths := by
  have htail : pathsIn (if enforced = some false && profile.supportsNotEnforced then
      [.verbatim " NOT ENFORCED"] else []) = [] := by
    split <;> rfl
  unfold checkClause at h
  rw [paths, pathsIn_append, pathsIn_append, htail, List.append_nil, List.mem_append] at h
  rcases h with h | h
  · split at h
    · split at h
      · exact .inl ⟨_, rfl, List.mem_singleton.mp h⟩
      · cases h
    · cases h
  · exact .inr (by simpa [pathsIn, paths] using h)

theorem mem_paths_columnExpression {name : String} {c : Column} {f : Fragment}
    (h : columnExpression? name c = some f) {path : List String} (hpath : path ∈ f.paths) :
    path = [name] := by
  have hbound : ∀ operator bound, ∀ path ∈ pathsIn (boundTest name operator bound),
      path = [name] := by
    intro operator bound path hpath
    cases bound with
    | none => cases hpath
    | some b => exact List.mem_singleton.mp hpath
  have hbounds : ∀ path ∈ (joined " AND " (bounds name c)).paths, path = [name] := by
    unfold bounds
    simp only [paths_joined, pathsIn_append, List.forall_mem_append]
    exact ⟨⟨⟨hbound _ _, hbound _ _⟩, hbound _ _⟩, hbound _ _⟩
  rw [columnExpression?_eq] at h
  split at h
  · obtain rfl := Option.some.inj h
    cases hpath
  · split at h
    · obtain rfl := Option.some.inj h
      exact hbounds path hpath
    · cases h

theorem pathsIn_indexColumns (profile : Profile) (settings : CompilerSettings) (i : Index)
    (position : Nat) (columns : List String) :
    pathsIn (indexColumns profile settings i position columns) = columns.map ([·]) := by
  induction columns generalizing position with
  | nil => rfl
  | cons column rest ih =>
    rw [indexColumns, pathsIn, ih, List.map_cons]
    split <;> rfl

theorem paths_createIndex (profile : Profile) (settings : CompilerSettings) (stem table : String)
    (i : Index) : (createIndex profile settings stem table i).paths =
      [Index.nameFor stem i] :: [table] :: i.columns.map ([·]) := by
  unfold createIndex
  simp only [paths, pathsIn, paths_joined, pathsIn_indexColumns, List.append_nil]
  rfl

theorem paths_fulltextExpression (profile : Profile) (columns : List String) :
    (fulltextExpression profile columns).paths = columns.map ([·]) := by
  unfold fulltextExpression
  split
  · rw [paths_joined, pathsIn_eq_flatMap, List.flatMap_map]
    exact List.flatMap_pure_eq_map _ columns
  · rw [paths_joined, ← pathsIn_map_name]

theorem mem_paths_createFulltext {profile : Profile} {settings : CompilerSettings}
    {stem table : String} {columns : List String} {f : Fragment}
    (h : createFulltext? profile settings stem table columns = some f) {path : List String}
    (hpath : path ∈ f.paths) :
    path = [stem ++ "_" ++ settings.fulltextIndexSuffix] ∨ path = [table] ∨
      ∃ column ∈ columns, path = [column] := by
  unfold createFulltext? at h
  split at h
  · cases h
  obtain ⟨template, _, rfl⟩ := Option.map_eq_some_iff.mp h
  simp only [paths, pathsIn, List.append_nil] at hpath
  obtain ⟨slot, _, hslot⟩ := mem_paths_fill hpath
  cases slot with
  | name => exact .inl (List.mem_singleton.mp hslot)
  | table => exact .inr (.inl (List.mem_singleton.mp hslot))
  | columns =>
    rw [paths_fulltextExpression] at hslot
    obtain ⟨column, hcolumn, rfl⟩ := List.mem_map.mp hslot
    exact .inr (.inr ⟨column, hcolumn, rfl⟩)
  | language => cases hslot

/-- An index has its own name if that is not empty, and one behind the stem otherwise. -/
theorem nameFor_ne_empty (stem : String) (i : Index) : Index.nameFor stem i ≠ "" := by
  have husual : indexName stem i.columns "" ≠ "" := stem_append_ne_empty stem _
  unfold Index.nameFor textOr
  split
  · exact husual
  · exact husual
  · rename_i name hempty _
    exact hempty

theorem mem_paths_columnCheck {profile : Profile} {stem name : String} {c : Column} {f : Fragment}
    (h : columnCheck? profile stem name c = some f) {path : List String} (hpath : path ∈ f.paths) :
    path = [stem ++ "_" ++ name] ∨ path = [name] := by
  obtain ⟨expression, hexpression, rfl⟩ := Option.map_eq_some_iff.mp h
  rcases mem_paths_checkClause hpath with ⟨n, hn, rfl⟩ | hpath
  · exact .inl (congrArg ([·]) (Option.some.inj hn).symm)
  · exact .inr (mem_paths_columnExpression hexpression hpath)

theorem mem_paths_tableCheck {profile : Profile} {stem : String} {c : Constraint}
    {path : List String} (h : path ∈ (tableCheck profile stem c).paths) :
    ∃ n, path = [n] ∧ n ≠ "" := by
  cases c with
  | expression sql =>
    unfold tableCheck at h
    rcases mem_paths_checkClause h with ⟨n, hn, _⟩ | h
    · cases hn
    · cases h
  | check c =>
    unfold tableCheck at h
    rcases mem_paths_checkClause h with ⟨n, hn, rfl⟩ | h
    · exact ⟨n, rfl, ne_empty_of_checkName hn⟩
    · cases h

namespace Target

variable {t : Target} {table : String} {s : Schema}

/-- Indices are over columns of the table. -/
theorem mem_columnNames_of_mem_indices (hs : s.Coherent) {i : Index} (hi : i ∈ indices s) :
    ∀ column ∈ i.columns, column ∈ s.columnNames := by
  rcases List.mem_append.mp hi with hi | hi
  · exact (hs.indexColumns i hi).2
  · obtain ⟨⟨name, c⟩, hp, hindex⟩ := List.mem_filterMap.mp hi
    have hindex : columnIndex? s c = some i := hindex
    unfold columnIndex? at hindex
    split at hindex
    · cases hindex
    · cases hindex
    · rename_i columns _ hcolumns
      obtain rfl := Option.some.inj hindex
      exact hs.columnIndices (name, c) hp columns hcolumns

/-- What a table is about, as far as it may be empty: its columns, and the tables that its foreign
keys refer to. -/
def mentions (t : Target) (s : Schema) : List String :=
  s.columnNames ++ if t.profile.supportsForeignKeys then s.relations.map (·.2.target) else []

theorem isNamed_iff : s.IsNamed t.profile ↔ "" ∉ t.mentions s := by
  unfold mentions
  rw [List.mem_append, not_or]
  constructor
  · rintro ⟨hcolumns, htargets⟩
    refine ⟨hcolumns, ?_⟩
    split
    · rename_i hkeys
      intro hmem
      obtain ⟨p, hp, hempty⟩ := List.mem_map.mp hmem
      exact htargets hkeys p hp hempty
    · exact List.not_mem_nil
  · rintro ⟨hcolumns, htargets⟩
    refine ⟨hcolumns, fun hkeys p hp hempty => htargets ?_⟩
    rw [if_pos hkeys]
    exact List.mem_map.mpr ⟨p, hp, hempty⟩

/-- The statements of a table name what it is about, each on its own. -/
theorem mem_pathsIn_of_mem_mentions {n : String} (h : n ∈ t.mentions s) :
    [n] ∈ pathsIn (t.fragments table s) := by
  rw [mem_pathsIn]
  unfold fragments
  simp only [List.mem_append]
  rcases List.mem_append.mp h with h | h
  · obtain ⟨p, hp, rfl⟩ := List.mem_map.mp h
    exact ⟨.name p.1, .inl (.inl (.inl (.inl (List.mem_map_of_mem hp)))),
      List.mem_singleton_self _⟩
  · split at h
    · rename_i hkeys
      obtain ⟨p, hp, rfl⟩ := List.mem_map.mp h
      refine ⟨foreignKey (Text.lower table) p.1 p.2, .inl (.inl (.inl (.inr ?_))), ?_⟩
      · unfold relations
        rw [if_pos hkeys]
        exact List.mem_map_of_mem hp
      · rw [paths_foreignKey]
        simp
    · cases h

/-- Everything else that the statements of a table name is not empty. -/
theorem of_mem_pathsIn_fragments (htable : table ≠ "") (hs : s.Coherent) {path : List String}
    (h : path ∈ pathsIn (t.fragments table s)) :
    ∃ n, path = [n] ∧ (n ∈ t.mentions s ∨ n ≠ "") := by
  have hcolumn : ∀ n ∈ s.columnNames, ∃ m, [n] = [m] ∧ (m ∈ t.mentions s ∨ m ≠ "") :=
    fun n hn => ⟨n, rfl, .inl (List.mem_append_left _ hn)⟩
  obtain ⟨f, hf, hpath⟩ := mem_pathsIn.mp h
  unfold fragments at hf
  simp only [List.mem_append] at hf
  rcases hf with (((hf | hf) | hf) | hf) | hf
  · obtain ⟨p, hp, rfl⟩ := List.mem_map.mp hf
    obtain rfl := List.mem_singleton.mp hpath
    exact hcolumn p.1 (List.mem_map_of_mem hp)
  · unfold relations at hf
    split at hf
    · rename_i hkeys
      obtain ⟨p, hp, rfl⟩ := List.mem_map.mp hf
      rw [paths_foreignKey] at hpath
      simp only [List.mem_cons, List.not_mem_nil, or_false] at hpath
      rcases hpath with rfl | rfl | rfl
      · exact ⟨_, rfl, .inr (stem_append_ne_empty _ _)⟩
      · exact hcolumn _ (hs.relations p hp)
      · refine ⟨_, rfl, .inl (List.mem_append_right _ ?_)⟩
        rw [if_pos hkeys]
        exact List.mem_map.mpr ⟨p, hp, rfl⟩
    · cases hf
  · rcases List.mem_append.mp hf with hf | hf
    · obtain ⟨p, hp, hcheck⟩ := List.mem_filterMap.mp hf
      rcases mem_paths_columnCheck hcheck hpath with rfl | rfl
      · exact ⟨_, rfl, .inr (stem_append_ne_empty _ _)⟩
      · exact hcolumn p.1 (List.mem_map_of_mem hp)
    · obtain ⟨c, _, rfl⟩ := List.mem_map.mp hf
      obtain ⟨n, rfl, hn⟩ := mem_paths_tableCheck hpath
      exact ⟨n, rfl, .inr hn⟩
  · obtain ⟨i, hi, rfl⟩ := List.mem_map.mp hf
    rw [paths_createIndex] at hpath
    simp only [List.mem_cons, List.mem_map] at hpath
    rcases hpath with rfl | rfl | ⟨column, hcolumns, rfl⟩
    · exact ⟨_, rfl, .inr (nameFor_ne_empty _ i)⟩
    · exact ⟨_, rfl, .inr htable⟩
    · exact hcolumn column (mem_columnNames_of_mem_indices hs hi column hcolumns)
  · rcases mem_paths_createFulltext (Option.mem_toList.mp hf) hpath with
      rfl | rfl | ⟨column, hcolumns, rfl⟩
    · exact ⟨_, rfl, .inr (stem_append_ne_empty _ _)⟩
    · exact ⟨_, rfl, .inr htable⟩
    · exact hcolumn column (hs.fulltext column hcolumns)

/-- A name in the statements of a table is empty exactly if what the table is about has an empty
name, and that is all that is found wrong with them. -/
theorem nameErrorIn?_fragments (htable : table ≠ "") (hs : s.Coherent) :
    nameErrorIn? (t.fragments table s) = none ∧ s.IsNamed t.profile ∨
      nameErrorIn? (t.fragments table s) = some (.badName (.text "")) ∧
        ¬ s.IsNamed t.profile := by
  rw [isNamed_iff]
  by_cases hempty : "" ∈ t.mentions s
  · refine .inr ⟨?_, not_not_intro hempty⟩
    refine nameErrorIn?_eq_some ?_ (mem_pathsIn_of_mem_mentions hempty) (List.mem_singleton_self _)
    intro hnone
    obtain ⟨n, hn, _⟩ := of_mem_pathsIn_fragments htable hs hnone
    cases hn
  · refine .inl ⟨(nameErrorIn?_eq_none_iff _).mpr fun path hpath => ?_, hempty⟩
    obtain ⟨n, rfl, hn⟩ := of_mem_pathsIn_fragments htable hs hpath
    refine ⟨List.cons_ne_nil _ _, fun h => ?_⟩
    obtain rfl := List.mem_singleton.mp h
    exact hn.elim hempty (· rfl)

theorem ne_empty_of_chooseName {override : Option String}
    (h : chooseName? override s = some table) : table ≠ "" := by
  unfold chooseName? at h
  have hown : s.tableName.filter (!·.isEmpty) = some table → table ≠ "" := by
    intro h
    rintro rfl
    have hkept := (Option.filter_eq_some_iff.mp h).2
    exact absurd hkept (by decide)
  split at h
  · exact hown h
  · exact hown h
  · rename_i name hne
    obtain rfl := Option.some.inj h
    exact hne

/-- A table with a name and columns has its statements unless a name in them is empty. -/
theorem statements?_eq {override : Option String} (hname : chooseName? override s = some table)
    (hcolumns : s.columns ≠ []) (hs : s.Coherent) :
    s.IsNamed t.profile ∧ t.statements? s override = .ok (table, t.tableStatements table s) ∨
      ¬ s.IsNamed t.profile ∧
        t.statements? s override = .error (.fragment (.badName (.text ""))) := by
  have hnonempty : s.columns.isEmpty = false := by simpa using hcolumns
  unfold statements?
  simp only [hname, hnonempty]
  rcases nameErrorIn?_fragments (t := t) (ne_empty_of_chooseName hname) hs with
    ⟨hnone, hnamed⟩ | ⟨hsome, hnot⟩
  · rw [hnone]
    exact .inl ⟨hnamed, rfl⟩
  · rw [hsome]
    exact .inr ⟨hnot, rfl⟩

end Target

end Ddl

/-! ## Documents -/

namespace Schema

theorem exists_schemaError_of_ofValue {v : Value} {e : Error} (h : ofValue v = .error e) :
    ∃ error, e = .schema error := by
  unfold ofValue at h
  split at h
  · split at h
    · cases h
    · exact ⟨_, (Except.error.inj h).symm⟩
  · exact ⟨_, (Except.error.inj h).symm⟩

/-- A document that is a schema, with a name for its table and with columns. -/
structure Describes (v : Value) (override : Option String) (s : Schema) : Prop where
  schema : ofValue v = .ok s
  name : ∃ table, Ddl.Target.chooseName? override s = some table
  columns : s.columns ≠ []

end Schema

open Ddl Database

variable (d : Dialect) (settings : CompilerSettings) {v : Value} {override : Option String}

/-- The statements of a document come to those of its schema. -/
theorem outcome_compiled (target : Target) (v : Value) (override : Option String)
    (j : Log.Journal) : (compiled target v override).outcome j =
      Schema.ofValue v >>= fun s => (target.statements? s override).map (·.2) := by
  unfold compiled
  rw [Log.outcome_bind, Log.outcome_lift]
  cases Schema.ofValue v with
  | error e => rfl
  | ok s => exact Target.outcome_statements target s override _

theorem outcome_compiled_of_describes {s : Schema} (h : s.Describes v override)
    (target : Target) (j : Log.Journal) :
    s.IsNamed target.profile ∧ (∃ texts, (compiled target v override).outcome j = .ok texts) ∨
      ¬ s.IsNamed target.profile ∧
        (compiled target v override).outcome j = .error (.fragment (.badName (.text ""))) := by
  obtain ⟨hschema, ⟨table, hname⟩, hcolumns⟩ := h
  rw [outcome_compiled, hschema]
  show _ ∧ (∃ texts, Except.map _ _ = _) ∨ _ ∧ Except.map _ _ = _
  rcases Target.statements?_eq (t := target) hname hcolumns (Schema.coherent_of_ofValue hschema)
    with ⟨hnamed, hstatements⟩ | ⟨hnot, hstatements⟩
  · rw [hstatements]
    exact .inl ⟨hnamed, _, rfl⟩
  · rw [hstatements]
    exact .inr ⟨hnot, rfl⟩

theorem exists_schemaError_of_not_describes (h : ∀ s : Schema, ¬ s.Describes v override)
    (target : Target) (j : Log.Journal) :
    ∃ e, (compiled target v override).outcome j = .error (.schema e) := by
  rw [outcome_compiled]
  cases hread : Schema.ofValue v with
  | error e =>
    obtain ⟨error, rfl⟩ := Schema.exists_schemaError_of_ofValue hread
    exact ⟨error, rfl⟩
  | ok s =>
    show ∃ e, Except.map _ _ = _
    unfold Target.statements?
    cases hname : Target.chooseName? override s with
    | none => exact ⟨_, rfl⟩
    | some table =>
      cases hcolumns : s.columns.isEmpty with
      | true => exact ⟨_, rfl⟩
      | false => exact absurd ⟨hread, ⟨table, hname⟩, by simpa using hcolumns⟩ (h s)

/-- **Refusals.** A document comes to statements or to an error about its schema exactly if every
schema that it describes is named. The error is one about the schema exactly if it describes none,
and a schema that is not named is refused as a fragment without a name. -/
theorem compiled_refusals (v : Value) (override : Option String) (j : Log.Journal) :
    (((∃ texts, (compiled ⟨d.profile, settings⟩ v override).outcome j = .ok texts) ∨
        ∃ e, (compiled ⟨d.profile, settings⟩ v override).outcome j = .error (.schema e)) ↔
      ∀ s : Schema, s.Describes v override → s.IsNamed d.profile) ∧
    ((∃ e, (compiled ⟨d.profile, settings⟩ v override).outcome j = .error (.schema e)) ↔
      ∀ s : Schema, ¬ s.Describes v override) ∧
    ∀ s : Schema, s.Describes v override → ¬ s.IsNamed d.profile →
      (compiled ⟨d.profile, settings⟩ v override).outcome j =
        .error (.fragment (.badName (.text ""))) := by
  have hdescribes : ∀ s : Schema, s.Describes v override → _ := fun s hs =>
    outcome_compiled_of_describes hs ⟨d.profile, settings⟩ j
  refine ⟨⟨?_, fun h => ?_⟩, ⟨?_, fun h => ?_⟩, fun s hs hnot => ?_⟩
  · rintro hfine s hs
    rcases hdescribes s hs with ⟨hnamed, _⟩ | ⟨_, hfragment⟩
    · exact hnamed
    · rw [hfragment] at hfine
      rcases hfine with ⟨_, hok⟩ | ⟨_, herror⟩
      · cases hok
      · cases herror
  · by_cases hthere : ∃ s : Schema, s.Describes v override
    · obtain ⟨s, hs⟩ := hthere
      rcases hdescribes s hs with ⟨_, hok⟩ | ⟨hnot, _⟩
      · exact .inl hok
      · exact absurd (h s hs) hnot
    · exact .inr (exists_schemaError_of_not_describes (fun s hs => hthere ⟨s, hs⟩) _ j)
  · rintro ⟨e, herror⟩ s hs
    rcases hdescribes s hs with ⟨_, _, hok⟩ | ⟨_, hfragment⟩
    · rw [hok] at herror
      cases herror
    · rw [hfragment] at herror
      cases herror
  · exact exists_schemaError_of_not_describes h _ j
  · exact ((hdescribes s hs).resolve_left fun h => hnot h.1).2

/-- A table of one column without a name. -/
def blankColumn : Value :=
  .object [("table", .text "t"), ("properties", .object [("", .object [])])]

theorem describes_blankColumn :
    Schema.Describes blankColumn none { table := some "t", columns := [("", {})] } where
  schema := Schema.ofValue_object_eq_ok_iff.mpr rfl
  name := ⟨"t", rfl⟩
  columns := nofun

theorem outcome_compiled_blankColumn (target : Target) :
    (compiled target blankColumn none).outcome .empty = .error (.fragment (.badName (.text ""))) :=
  ((outcome_compiled_of_describes describes_blankColumn target .empty).resolve_left fun h =>
    h.1.columns (List.mem_singleton_self _)).2

/-- The document is a schema with a column, and is refused otherwise than for its schema. -/
theorem compiled_blankColumn :
    (∃ s, Schema.ofValue blankColumn = .ok s ∧ s.columnNames = [""]) ∧
      ¬ ((∃ texts, (compiled ⟨Dialect.postgres.profile, {}⟩ blankColumn none).outcome .empty =
            .ok texts) ∨
          ∃ e, (compiled ⟨Dialect.postgres.profile, {}⟩ blankColumn none).outcome .empty =
            .error (.schema e)) := by
  refine ⟨⟨_, describes_blankColumn.schema, rfl⟩, ?_⟩
  rw [outcome_compiled_blankColumn]
  rintro (⟨_, hok⟩ | ⟨_, herror⟩)
  · cases hok
  · cases herror

end SqlCompiler
