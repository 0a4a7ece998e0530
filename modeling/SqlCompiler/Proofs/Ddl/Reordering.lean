import SqlCompiler.Proofs.Ddl.Body
import SqlCompiler.Proofs.Ddl.IndexNames

/-!
# The order of declaration

Two schemas that declare the same columns, indices, constraints and required columns in another
order have the same objects (`statements_reordered`). Statements of indices and checks are sorted by
their texts, so the order in which they are made does not show. The line of a column depends on
what the column is, on whether it is required and on the longest name, and on none of these by its
position. What is left of the order is the order of the lines of the columns.
-/

namespace SqlCompiler

open Sql

namespace Ddl

/-- Sorted texts do not show the order that they were in. -/
theorem sortTexts_eq_of_perm {texts texts' : List String} (h : texts.Perm texts') :
    sortTexts texts = sortTexts texts' := by
  refine List.Perm.eq_of_pairwise (fun _ _ _ _ => String.le_antisymm) (pairwise_sortTexts texts)
    (pairwise_sortTexts texts') ?_
  exact (perm_sortTexts texts).trans (h.trans (perm_sortTexts texts').symm)

theorem pairwise_lt_sortTexts {texts : List String} (h : texts.Nodup) :
    (sortTexts texts).Pairwise (· < ·) := by
  refine ((pairwise_sortTexts texts).and (nodup_sortTexts h)).imp ?_
  rintro a b ⟨hle, hne⟩
  exact String.not_le.mp fun hge => hne (String.le_antisymm hle hge)

end Ddl

/-- Where every path has names, the error about fragments does not depend on their order. -/
theorem Sql.Fragment.nameErrorIn?_eq_of_perm {parts parts' : List Fragment} (h : parts.Perm parts')
    (hpaths : [] ∉ pathsIn parts) : nameErrorIn? parts' = nameErrorIn? parts := by
  have hmem : ∀ path, path ∈ pathsIn parts' ↔ path ∈ pathsIn parts := by
    intro path
    simp only [mem_pathsIn, h.mem_iff]
  cases herror : nameErrorIn? parts with
  | none =>
    rw [nameErrorIn?_eq_none_iff] at herror ⊢
    exact fun path hpath => herror path ((hmem path).mp hpath)
  | some e =>
    obtain rfl := (eq_of_nameErrorIn?_eq_some herror).resolve_right hpaths
    cases herror' : nameErrorIn? parts' with
    | none =>
      rw [nameErrorIn?_eq_none_iff] at herror'
      have hnone := (nameErrorIn?_eq_none_iff parts).mpr fun path hpath =>
        herror' path ((hmem path).mpr hpath)
      exact absurd (hnone.symm.trans herror) nofun
    | some e' =>
      rw [(eq_of_nameErrorIn?_eq_some herror').resolve_right fun hnil =>
        hpaths ((hmem []).mp hnil)]

/-! ## Reordered schemas -/

/-- A schema with the same declarations as another one, of which the columns, the indices, the
constraints and the names of required columns may be in another order. -/
structure Schema.Reordered (s s' : Schema) : Prop where
  columns : s.columns.Perm s'.columns
  indices : s.indices.Perm s'.indices
  constraints : s.constraints.Perm s'.constraints
  required : s.required.Perm s'.required
  rest : s' = { s with
    columns := s'.columns, indices := s'.indices, constraints := s'.constraints,
    required := s'.required }

namespace Schema.Reordered

variable {s s' : Schema}

theorem columnNames (h : s.Reordered s') : s.columnNames.Perm s'.columnNames :=
  h.columns.map _

theorem relations (h : s.Reordered s') : s'.relations = s.relations := by
  rw [h.rest]

theorem fulltext (h : s.Reordered s') : s'.fulltext = s.fulltext := by
  rw [h.rest]

theorem tableName (h : s.Reordered s') : s'.tableName = s.tableName := by
  rw [h.rest]
  rfl

theorem isRequired (h : s.Reordered s') (name : String) :
    s'.isRequired name = s.isRequired name := by
  unfold Schema.isRequired
  rw [Bool.eq_iff_iff, List.contains_iff_mem, List.contains_iff_mem, h.required.mem_iff]

theorem column? (h : s.Reordered s') (hnames : s.columnNames.Nodup) (name : String) :
    s'.column? name = s.column? name :=
  lookup_eq_of_perm h.columns hnames name

end Schema.Reordered

/-- A schema with its declarations in the reverse order. -/
def Schema.reversed (s : Schema) : Schema :=
  { s with
    columns := s.columns.reverse
    indices := s.indices.reverse
    constraints := s.constraints.reverse
    required := s.required.reverse }

theorem Schema.reordered_reversed (s : Schema) : s.Reordered s.reversed where
  columns := (List.reverse_perm _).symm
  indices := (List.reverse_perm _).symm
  constraints := (List.reverse_perm _).symm
  required := (List.reverse_perm _).symm
  rest := rfl

namespace Ddl.Target

open Sql.Fragment

variable {s s' : Schema} (t : Target)

/-! ## What the statements are made from -/

/-- The index that a column asks for is looked up by names. -/
theorem columnIndex?_reordered (h : s.Reordered s') (hnames : s.columnNames.Nodup) (c : Column) :
    columnIndex? s' c = columnIndex? s c := by
  unfold columnIndex?
  simp only [h.column? hnames]

theorem perm_indices (h : s.Reordered s') (hnames : s.columnNames.Nodup) :
    (indices s).Perm (indices s') := by
  unfold indices
  simp only [columnIndex?_reordered h hnames]
  exact h.indices.append (h.columns.filterMap _)

theorem perm_indexFragments (h : s.Reordered s') (hnames : s.columnNames.Nodup)
    (stem table : String) :
    (t.indexFragments stem table s).Perm (t.indexFragments stem table s') :=
  (perm_indices h hnames).map _

theorem perm_checks (h : s.Reordered s') (stem : String) :
    (t.checks stem s).Perm (t.checks stem s') :=
  (h.columns.filterMap _).append ((h.constraints.filter _).map _)

theorem relations_reordered (h : s.Reordered s') (stem : String) :
    t.relations stem s' = t.relations stem s := by
  unfold relations
  rw [h.relations]

theorem fulltextFragments_reordered (h : s.Reordered s') (stem table : String) :
    t.fulltextFragments stem table s' = t.fulltextFragments stem table s := by
  unfold fulltextFragments
  rw [h.fulltext]

theorem perm_fragments (h : s.Reordered s') (hnames : s.columnNames.Nodup) (table : String) :
    (t.fragments table s).Perm (t.fragments table s') := by
  unfold fragments
  dsimp only
  rw [t.relations_reordered h, t.fulltextFragments_reordered h]
  exact ((((h.columns.map _).append_right _).append (t.perm_checks h _)).append
    (t.perm_indexFragments h hnames _ _)).append_right _

theorem chooseName?_reordered (h : s.Reordered s') (override : Option String) :
    chooseName? override s' = chooseName? override s := by
  unfold chooseName?
  rw [h.tableName]

theorem namePad_reordered (h : s.Reordered s') : t.namePad s' = t.namePad s := by
  unfold namePad
  rw [max?_eq_of_perm (h.columnNames.symm.map _)]

theorem nil_not_mem_pathsIn_indexFragments (stem table : String) (s : Schema) :
    [] ∉ pathsIn (t.indexFragments stem table s) := by
  intro hnil
  obtain ⟨f, hf, hpath⟩ := mem_pathsIn.mp hnil
  obtain ⟨i, _, rfl⟩ := List.mem_map.mp hf
  rw [paths_createIndex] at hpath
  simp at hpath

theorem nil_not_mem_pathsIn_checks (stem : String) (s : Schema) :
    [] ∉ pathsIn (t.checks stem s) := by
  intro hnil
  obtain ⟨f, hf, hpath⟩ := mem_pathsIn.mp hnil
  rcases List.mem_append.mp hf with hf | hf
  · obtain ⟨p, _, hcheck⟩ := List.mem_filterMap.mp hf
    rcases mem_paths_columnCheck hcheck hpath with hpath | hpath
    · cases hpath
    · cases hpath
  · obtain ⟨c, _, rfl⟩ := List.mem_map.mp hf
    obtain ⟨_, hpath, _⟩ := mem_paths_tableCheck hpath
    cases hpath

/-! ## Texts -/

theorem indexTexts_reordered (h : s.Reordered s') (hnames : s.columnNames.Nodup)
    (stem table : String) : t.indexTexts stem table s' = t.indexTexts stem table s :=
  sortTexts_eq_of_perm (perm_eraseDups ((t.perm_indexFragments h hnames stem table).symm.map _))

theorem checkTexts_reordered (h : s.Reordered s') (stem : String) :
    t.checkTexts stem s' = t.checkTexts stem s :=
  sortTexts_eq_of_perm ((t.perm_checks h stem).symm.map _)

/-- The line of a column of a schema. -/
def lineOf (s : Schema) (p : String × Column) : String :=
  t.copied (t.columnLine p.1 p.2 (s.isRequired p.1) (t.namePad s))

theorem columnLines_eq (s : Schema) : t.columnLines s = s.columns.map (t.lineOf s) := rfl

theorem lineOf_reordered (h : s.Reordered s') : t.lineOf s' = t.lineOf s := by
  funext p
  unfold lineOf
  rw [h.isRequired, t.namePad_reordered h]

theorem mem_indexTexts_of_mem_indices {i : Index} (hi : i ∈ indices s) (stem table : String) :
    t.finish (createIndex t.profile t.settings stem table i) ∈ t.indexTexts stem table s := by
  unfold indexTexts sortTexts
  rw [List.mem_mergeSort, List.mem_eraseDups]
  exact List.mem_map_of_mem (List.mem_map_of_mem hi)

/-- The text of a table with these lines between its parentheses. -/
def tableText (table : String) (columns keys checks : List String) : String :=
  "CREATE TABLE IF NOT EXISTS " ++ t.nameText table ++ " (\n"
    ++ joinWith ",\n" (t.bodyItems columns keys checks) ++ "\n);"

/-- The objects that two schemas come to, under a stem and in a table. They have the same index
statements, in increasing order, each once, with that of every declared index and of every index
that a column asks for. They have the same checks. They have the same lines of columns, each where
its column is. Indices or checks that cannot be written because a name in them is empty are refused
for both. -/
structure SameObjects (stem table : String) (s s' : Schema) : Prop where
  indices : t.indexTexts stem table s' = t.indexTexts stem table s
  increasing : (t.indexTexts stem table s).Pairwise (· < ·)
  declared : ∀ i ∈ s.indices,
    t.finish (createIndex t.profile t.settings stem table i) ∈ t.indexTexts stem table s
  asked : ∀ p ∈ s.columns, ∀ names, p.2.index = some names → names ≠ [] →
    ∃ i, s.IsIndexOver names i ∧
      t.finish (createIndex t.profile t.settings stem table i) ∈ t.indexTexts stem table s
  checks : t.checkTexts stem s' = t.checkTexts stem s
  lines : ∃ line : String × Column → String,
    t.columnLines s = s.columns.map line ∧ t.columnLines s' = s'.columns.map line
  refusedIndices : nameErrorIn? (t.indexFragments stem table s') =
    nameErrorIn? (t.indexFragments stem table s)
  refusedChecks : nameErrorIn? (t.checks stem s') = nameErrorIn? (t.checks stem s)

theorem sameObjects (h : s.Reordered s') (hs : s.Coherent) (hnames : s.columnNames.Nodup)
    (stem table : String) : t.SameObjects stem table s s' where
  indices := t.indexTexts_reordered h hnames stem table
  increasing := pairwise_lt_sortTexts (nodup_eraseDups _)
  declared _ hi := t.mem_indexTexts_of_mem_indices (List.mem_append_left _ hi) stem table
  asked p hp names hindex hne := by
    obtain ⟨i, hi, hover⟩ := hs.isIndexOver hp hindex hne
    have hmem : i ∈ Target.indices s :=
      List.mem_append_right _ (List.mem_filterMap.mpr ⟨p, hp, hi⟩)
    exact ⟨i, hover, t.mem_indexTexts_of_mem_indices hmem stem table⟩
  checks := t.checkTexts_reordered h stem
  lines := by
    refine ⟨t.lineOf s, t.columnLines_eq s, ?_⟩
    rw [← t.lineOf_reordered h]
    exact t.columnLines_eq s'
  refusedIndices := nameErrorIn?_eq_of_perm (t.perm_indexFragments h hnames stem table)
    (t.nil_not_mem_pathsIn_indexFragments stem table s)
  refusedChecks := nameErrorIn?_eq_of_perm (t.perm_checks h stem)
    (t.nil_not_mem_pathsIn_checks stem s)

/-! ## Statements -/

theorem nameErrorIn?_fragments_reordered (h : s.Reordered s') (hs : s.Coherent)
    (hnames : s.columnNames.Nodup) {table : String} (htable : table ≠ "") :
    nameErrorIn? (t.fragments table s') = nameErrorIn? (t.fragments table s) := by
  refine nameErrorIn?_eq_of_perm (t.perm_fragments h hnames table) fun hnil => ?_
  obtain ⟨_, hpath, _⟩ := of_mem_pathsIn_fragments htable hs hnil
  cases hpath

theorem tableStatements_eq (table : String) (s : Schema) : t.tableStatements table s =
    t.tableText table (t.columnLines s) (t.relationTexts (Text.lower table) s)
        (t.checkTexts (Text.lower table) s) ::
      (t.indexTexts (Text.lower table) table s ++ t.fulltextTexts (Text.lower table) table s) :=
  rfl

/-- What a table comes to if it is declared in another order: the same statements, with the lines of
its columns in their new order. -/
theorem statements?_reordered (h : s.Reordered s') (hs : s.Coherent)
    (hnames : s.columnNames.Nodup) (override : Option String) :
    (∃ e, t.statements? s override = .error e ∧ t.statements? s' override = .error e) ∨
      ∃ table line keys checks others,
        t.statements? s override =
            .ok (table, t.tableText table (s.columns.map line) keys checks :: others) ∧
          t.statements? s' override =
            .ok (table, t.tableText table (s'.columns.map line) keys checks :: others) := by
  have hempty : s'.columns.isEmpty = s.columns.isEmpty := by
    rw [Bool.eq_iff_iff, List.isEmpty_iff, List.isEmpty_iff]
    exact ⟨fun hnil => (hnil ▸ h.columns).eq_nil, fun hnil => (hnil ▸ h.columns).nil_eq.symm⟩
  unfold statements?
  rw [chooseName?_reordered h, hempty]
  cases hname : chooseName? override s with
  | none => exact .inl ⟨_, rfl, rfl⟩
  | some table =>
    dsimp only
    rw [t.nameErrorIn?_fragments_reordered h hs hnames (ne_empty_of_chooseName hname)]
    split
    · exact .inl ⟨_, rfl, rfl⟩
    · split
      · exact .inl ⟨_, rfl, rfl⟩
      · refine .inr ⟨table, t.lineOf s, t.relationTexts (Text.lower table) s,
          t.checkTexts (Text.lower table) s, t.indexTexts (Text.lower table) table s
            ++ t.fulltextTexts (Text.lower table) table s, rfl, ?_⟩
        have hkeys : t.relationTexts (Text.lower table) s' =
            t.relationTexts (Text.lower table) s := by
          unfold relationTexts
          rw [t.relations_reordered h]
        have hfulltext : t.fulltextTexts (Text.lower table) table s' =
            t.fulltextTexts (Text.lower table) table s := by
          unfold fulltextTexts
          rw [t.fulltextFragments_reordered h]
        rw [tableStatements_eq, hkeys, hfulltext, t.checkTexts_reordered h,
          t.indexTexts_reordered h hnames, columnLines_eq, t.lineOf_reordered h]

/-- **The order of declaration.** A coherent schema, as all are that are read, that declares no
column twice, and one with the same declarations in another order have the same objects, whatever
the stem and the table. Both are refused with the same error, or both have statements: those of one
are those of the other, but that the lines of the columns stand in the order of the columns. -/
theorem statements_reordered (h : s.Reordered s') (hs : s.Coherent) (hnames : s.columnNames.Nodup)
    (override : Option String) (j : Log.Journal) :
    (∀ stem table, t.SameObjects stem table s s') ∧
      ((∃ e, (t.statements s override).outcome j = .error e ∧
          (t.statements s' override).outcome j = .error e) ∨
        ∃ table line keys checks others,
          (t.statements s override).outcome j =
              .ok (t.tableText table (s.columns.map line) keys checks :: others) ∧
            (t.statements s' override).outcome j =
              .ok (t.tableText table (s'.columns.map line) keys checks :: others)) := by
  refine ⟨t.sameObjects h hs hnames, ?_⟩
  rw [outcome_statements, outcome_statements]
  rcases t.statements?_reordered h hs hnames override with
    ⟨e, herror, herror'⟩ | ⟨table, line, keys, checks, others, hok, hok'⟩
  · rw [herror, herror']
    exact .inl ⟨e, rfl, rfl⟩
  · rw [hok, hok']
    exact .inr ⟨table, line, keys, checks, others, rfl, rfl⟩

/-- Three columns, one of them in an index with an array that it asks for, two declared indices, two
constraints and two required columns. -/
def severalDocument : Value :=
  .object [("table", .text "T"),
    ("properties", .object [
      ("tags", .object [("type", .text "array")]),
      ("a", .object [("index", .text "a, tags"), ("minimum", .int 0)]),
      ("b", .object [])]),
    ("required", .list [.text "a", .text "b"]),
    ("indices", .list [.object [("properties", .text "b"), ("unique", .bool true)],
      .object [("properties", .text "a")]]),
    ("constraints", .list [.text "b <> ''", .text "a < 9"])]

/-- The document, and the same in the reverse order. -/
theorem statements_reordered_several : ∃ s : Schema, Schema.ofValue severalDocument = .ok s ∧
    s.Coherent ∧ s.columnNames.Nodup ∧ s.Reordered s.reversed ∧
    s.reversed.columnNames = ["b", "a", "tags"] ∧
    (∀ stem table, SameObjects ⟨Dialect.mysql.profile, {}⟩ stem table s s.reversed) ∧
    ∃ table line keys checks others,
      (statements ⟨Dialect.mysql.profile, {}⟩ s none).outcome .empty =
          .ok (tableText ⟨Dialect.mysql.profile, {}⟩ table (s.columns.map line) keys checks
            :: others) ∧
        (statements ⟨Dialect.mysql.profile, {}⟩ s.reversed none).outcome .empty =
          .ok (tableText ⟨Dialect.mysql.profile, {}⟩ table (s.reversed.columns.map line) keys checks
            :: others) := by
  have hfacts : ((Schema.ofValue severalDocument).toOption.map fun s => (s.columnNames,
      (s.columns.reverse.map (·.1)), ((statements ⟨Dialect.mysql.profile, {}⟩ s
        none).outcome .empty).toOption.isSome)) =
          some (["tags", "a", "b"], ["b", "a", "tags"], true) := by
    decide +kernel
  obtain ⟨s, hs, hfacts⟩ := Option.map_eq_some_iff.mp hfacts
  obtain ⟨hcolumns, hfacts⟩ := Prod.mk.inj hfacts
  obtain ⟨hreversed, hok⟩ := Prod.mk.inj hfacts
  obtain ⟨texts, htexts⟩ := Option.isSome_iff_exists.mp hok
  have hok := Log.eq_ok_of_toOption htexts
  have hread := Log.eq_ok_of_toOption hs
  have hcoherent := Schema.coherent_of_ofValue hread
  have hnames : s.columnNames.Nodup := by
    rw [hcolumns]
    decide
  obtain ⟨hobjects, hstatements⟩ := statements_reordered ⟨Dialect.mysql.profile, {}⟩
    s.reordered_reversed hcoherent hnames none .empty
  have hboth := hstatements.resolve_left fun ⟨_, herror, _⟩ => by
    rw [hok] at herror
    cases herror
  exact ⟨s, hread, hcoherent, hnames, s.reordered_reversed, hreversed, hobjects, hboth⟩

end Ddl.Target

end SqlCompiler
