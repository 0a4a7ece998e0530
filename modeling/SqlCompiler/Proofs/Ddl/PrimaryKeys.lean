import SqlCompiler.Proofs.Ddl.Body
import SqlCompiler.Proofs.Ddl.IndexNames
import SqlCompiler.Proofs.Schema.Accumulation

/-!
# Primary keys

The line of a column has a clause of a primary key exactly if the column is one, and neither foreign
keys nor checks have such a clause. Base columns are added by their name alone, and the base column
`id` is a primary key. So a schema that has a primary key of another name and does not declare `id`
gets a second one if it is asked for `id`, and its table has two clauses then; in all other cases
there is one at most if there was one at most (`primaryKeys_enhance`).
-/

namespace SqlCompiler

open Sql

namespace Ddl

/-! ## The clause of a key -/

namespace Target

/-- What stands before the clause of a key in the line of a column. -/
def beforeKey (t : Target) (name : String) (c : Column) (required : Bool) (namePad : Int) :
    String :=
  t.beforeDefault name c required namePad ++ t.defaultClause c

/-- What stands behind the clause of a key in the line of a column. -/
def afterKey (t : Target) (c : Column) : String :=
  t.autoIncrementClause c ++ t.commentClause c

/-- A text that does not go on a word before it. -/
def StartsApart (text : String) : Prop :=
  isBoundary text.toList.head? = true

theorem startsApart_empty : StartsApart "" :=
  rfl

theorem startsApart_space (text : String) : StartsApart (" " ++ text) := by
  have hspace : " ".toList = [' '] := by decide
  unfold StartsApart
  rw [String.toList_append, hspace]
  simp [isBoundary, isWord_space]

theorem startsApart_append {a b : String} (ha : StartsApart a) (hb : StartsApart b) :
    StartsApart (a ++ b) := by
  unfold StartsApart at *
  rw [String.toList_append]
  cases h : a.toList with
  | nil => exact hb
  | cons c rest =>
    rw [h] at ha
    exact ha

variable (d : Dialect) (settings : CompilerSettings) (c : Column)

theorem startsApart_keyClause : StartsApart (keyClause c) := by
  unfold keyClause
  split
  · exact startsApart_space "PRIMARY KEY"
  · split
    · exact startsApart_space "UNIQUE"
    · exact startsApart_empty

theorem startsApart_afterKey : StartsApart (afterKey ⟨d.profile, settings⟩ c) := by
  have hnumbers : StartsApart d.profile.autoIncrement := by
    cases d with
    | mysql => exact startsApart_space "AUTO_INCREMENT"
    | postgres => exact startsApart_empty
    | sqlite => exact startsApart_space "AUTOINCREMENT"
  have hword : (" COMMENT " : String) = " " ++ "COMMENT " := by decide
  refine startsApart_append ?numbers ?comment
  case numbers =>
    unfold autoIncrementClause
    split
    · exact hnumbers
    · exact startsApart_empty
  case comment =>
    unfold commentClause
    split
    · exact startsApart_empty
    · exact startsApart_empty
    · split
      · rw [hword, String.append_assoc]
        exact startsApart_space _
      · exact startsApart_empty

/-- The clause of a key has no keyword that could be respelled. -/
theorem copied_keyClause : copied ⟨d.profile, settings⟩ (keyClause c) = keyClause c := by
  have hclauses : ∀ clause ∈ [" PRIMARY KEY", " UNIQUE", ""],
      respellWords d.profile.keywordSpellings clause = clause := by
    cases d <;> decide +kernel
  refine hclauses _ ?_
  unfold keyClause
  split
  · simp
  · split <;> simp

/-- The clause of a key stands in the line of its column as it is. -/
theorem copied_columnLine (name : String) (required : Bool) (namePad : Int) :
    copied ⟨d.profile, settings⟩ (columnLine ⟨d.profile, settings⟩ name c required namePad) =
      copied ⟨d.profile, settings⟩ (beforeKey ⟨d.profile, settings⟩ name c required namePad)
        ++ keyClause c ++ copied ⟨d.profile, settings⟩ (afterKey ⟨d.profile, settings⟩ c) := by
  have hline : columnLine ⟨d.profile, settings⟩ name c required namePad =
      beforeKey ⟨d.profile, settings⟩ name c required namePad
        ++ (keyClause c ++ afterKey ⟨d.profile, settings⟩ c) := by
    rw [columnLine_eq]
    unfold beforeKey afterKey afterDefault
    simp only [String.append_assoc]
  have hafter := startsApart_afterKey d settings c
  have hkey := copied_keyClause d settings c
  unfold copied at hkey ⊢
  rw [hline, respellWords_append (.inr (startsApart_append (startsApart_keyClause c) hafter)),
    respellWords_append (.inr hafter), hkey, String.append_assoc]

end Target

end Ddl

/-! ## Primary keys of schemas -/

namespace Schema

/-- The columns that are primary keys. -/
def primaryKeys (s : Schema) : List String :=
  (s.columns.filter (·.2.primaryKey)).map (·.1)

/-- There are as many clauses of a primary key as there are primary keys. -/
theorem count_keyClause (s : Schema) :
    (s.columns.map fun p => Ddl.Target.keyClause p.2).count " PRIMARY KEY" =
      s.primaryKeys.length := by
  have hclause : ∀ c : Column, (Ddl.Target.keyClause c == " PRIMARY KEY") = c.primaryKey := by
    intro c
    unfold Ddl.Target.keyClause
    cases c.primaryKey with
    | true => rfl
    | false =>
      rw [if_neg Bool.false_ne_true]
      cases c.unique <;> decide
  unfold primaryKeys
  rw [List.length_map, List.count, List.countP_map, List.countP_eq_length_filter]
  exact congrArg List.length (List.filter_congr fun p _ => hclause p.2)

/-- Of the base columns, `id` is a primary key. -/
theorem primaryKey_baseColumn {name : String} (h : name ∈ baseColumns.map (·.1)) :
    (baseColumn name).primaryKey = (name == "id") := by
  simp only [baseColumns, List.map_cons, List.map_nil, List.mem_cons, List.not_mem_nil,
    or_false] at h
  rcases h with rfl | rfl | rfl | rfl <;> rfl

/-- The primary keys among the base columns of distinct names. -/
theorem primaryKeys_baseColumnsOf {names : List String} (hnodup : names.Nodup)
    (h : ∀ name ∈ names, name ∈ baseColumns.map (·.1)) :
    ((baseColumnsOf names).filter (·.2.primaryKey)).map (·.1) =
      if "id" ∈ names then ["id"] else [] := by
  have hfilter : (baseColumnsOf names).filter (·.2.primaryKey) =
      baseColumnsOf (names.filter (· == "id")) := by
    unfold baseColumnsOf
    rw [List.filter_map]
    exact congrArg _ (List.filter_congr fun name hname => primaryKey_baseColumn (h name hname))
  rw [hfilter, map_fst_baseColumnsOf, List.filter_beq]
  by_cases hid : "id" ∈ names
  · rw [if_pos hid, List.count_eq_one_of_mem hnodup hid]
    rfl
  · rw [if_neg hid, List.count_eq_zero.mpr hid]
    rfl

variable {s e : Schema} {names : List String}

theorem primaryKeys_withBase (s : Schema) (hnames : ∀ name ∈ names, name ∈ baseColumns.map (·.1)) :
    (s.withBase names).primaryKeys =
      (if "id" ∈ undeclared s.columnNames names then ["id"] else []) ++ s.primaryKeys := by
  unfold withBase
  by_cases hnil : undeclared s.columnNames names = []
  · rw [if_pos hnil, hnil, if_neg List.not_mem_nil, List.nil_append]
  · have hrewritten : ((s.columns.map fun p => (p.1, p.2.rewritten)).filter
        (·.2.primaryKey)).map (·.1) = s.primaryKeys := by
      rw [List.filter_map, List.map_map]
      rfl
    have hnodup : (undeclared s.columnNames names).Nodup := nodup_eraseDups _
    rw [if_neg hnil, primaryKeys, enhancedWith]
    dsimp only
    rw [List.filter_append, List.map_append, hrewritten, primaryKeys_baseColumnsOf hnodup]
    exact fun name hname => hnames name (mem_undeclared.mp hname).1

/-- One key at most and `id`, if that is added, are one key at most exactly if there was none. -/
theorem length_added_le_one_iff {p : Prop} [Decidable p] {keys : List String}
    (h : keys.length ≤ 1) :
    ((if p then ["id"] else []) ++ keys).length ≤ 1 ↔ (p → keys = []) := by
  rw [← List.length_eq_zero_iff, List.length_append]
  by_cases hp : p
  · rw [if_pos hp, List.length_singleton, imp_iff_right hp]
    omega
  · rw [if_neg hp, List.length_nil]
    exact iff_of_true (by omega) fun h => absurd h hp

end Schema

namespace Ddl.Target

open Schema

/-- **Primary keys of enhanced schemas.** The primary keys of an enhanced schema are those of the
schema, and `id` in front if it is asked for and not declared. So with one primary key at most the
schema stays so, unless `id` is added to a schema that has one. Its table has the clause of a
primary key in the line of each of these columns and nowhere else. -/
theorem primaryKeys_enhance {v : Value} {s e : Schema} (h : ofValue v = .ok s)
    {names : List String} (he : s.enhance names = .ok e) :
    e.primaryKeys =
      (if "id" ∈ undeclared s.columnNames names then ["id"] else []) ++ s.primaryKeys ∧
    (s.primaryKeys.length ≤ 1 → (e.primaryKeys.length ≤ 1 ↔
      ("id" ∈ names → "id" ∉ s.columnNames → s.primaryKeys = []))) ∧
    ∀ (d : Dialect) (settings : CompilerSettings) (override : Option String) (j : Log.Journal)
      (texts : List String), (statements ⟨d.profile, settings⟩ e override).outcome j = .ok texts →
      ∃ table lines keys checks others,
        texts = ("CREATE TABLE IF NOT EXISTS " ++ nameText ⟨d.profile, settings⟩ table ++ " (\n"
          ++ joinWith ",\n" (bodyItems ⟨d.profile, settings⟩ lines keys checks) ++ "\n);")
            :: others ∧
        IsBody ⟨d.profile, settings⟩ (Text.lower table) e lines keys checks ∧
        List.Forall₂ (fun p line => line = copied ⟨d.profile, settings⟩
            (beforeKey ⟨d.profile, settings⟩ p.1 p.2 (e.isRequired p.1)
              (namePad ⟨d.profile, settings⟩ e))
          ++ keyClause p.2 ++ copied ⟨d.profile, settings⟩ (afterKey ⟨d.profile, settings⟩ p.2))
          e.columns lines ∧
        (e.columns.map fun p => keyClause p.2).count " PRIMARY KEY" = e.primaryKeys.length := by
  obtain ⟨hnames, rfl⟩ := eq_withBase_of_enhance (sound_of_ofValue h) he
  have hkeys := primaryKeys_withBase s hnames
  refine ⟨hkeys, fun hone => ?_, fun d settings override j texts htexts => ?_⟩
  · rw [hkeys, length_added_le_one_iff hone, mem_undeclared, and_imp]
  · obtain ⟨table, rfl⟩ := exists_tableStatements htexts
    have hbody := isBody d settings (Text.lower table) (s.withBase names)
    refine ⟨table, _, _, _, _, rfl, hbody, hbody.lines.imp fun p line hline => ?_,
      count_keyClause _⟩
    exact hline.1.trans (copied_columnLine d settings p.2 p.1 _ _)

/-- A table whose primary key is not called `id`. -/
def keyedDocument : Value :=
  .object [("table", .text "t"), ("properties", .object
    [("key", .object [("type", .text "integer"), ("primaryKey", .bool true)])])]

/-- With the times of insertion and update, the primary key stays the only one. -/
theorem primaryKeys_enhance_times : ∃ s e, ofValue keyedDocument = .ok s ∧
    s.enhance ["inserted", "updated"] = .ok e ∧ e.primaryKeys = ["key"] ∧
    e.primaryKeys.length ≤ 1 := by
  have hread : (ofValue keyedDocument).toOption.map (fun s => (s.columnNames, s.primaryKeys,
      (s.enhance ["inserted", "updated"]).toOption.isSome)) = some (["key"], ["key"], true) := by
    decide +kernel
  obtain ⟨s, hs, hfacts⟩ := Option.map_eq_some_iff.mp hread
  obtain ⟨hnames, hfacts⟩ := Prod.mk.inj hfacts
  obtain ⟨hkeys, hsome⟩ := Prod.mk.inj hfacts
  obtain ⟨e, he⟩ := Option.isSome_iff_exists.mp hsome
  obtain ⟨hall, hone, _⟩ :=
    primaryKeys_enhance (Log.eq_ok_of_toOption hs) (Log.eq_ok_of_toOption he)
  have hnew : "id" ∉ undeclared ["key"] ["inserted", "updated"] := by decide +kernel
  rw [hnames, if_neg hnew, List.nil_append, hkeys] at hall
  refine ⟨s, e, Log.eq_ok_of_toOption hs, Log.eq_ok_of_toOption he, hall, (hone ?_).mpr ?_⟩
  · rw [hkeys]
    decide
  · exact fun hid => absurd hid (by decide)

/-- With `id` there are two primary keys, and the table has two clauses. -/
theorem enhance_secondPrimaryKey : ∃ s e, ofValue keyedDocument = .ok s ∧
    s.primaryKeys = ["key"] ∧ s.enhance ["id"] = .ok e ∧ e.primaryKeys = ["id", "key"] ∧
    (statements ⟨Dialect.sqlite.profile, {}⟩ e none).outcome .empty =
      .ok ["CREATE TABLE IF NOT EXISTS t (\n    id  INTEGER NOT NULL PRIMARY KEY AUTOINCREMENT,\n"
        ++ "    key INTEGER NOT NULL PRIMARY KEY AUTOINCREMENT\n);"] := by
  have hread : (do
      let s ← (ofValue keyedDocument).toOption
      let e ← (s.enhance ["id"]).toOption
      let texts ← ((statements ⟨Dialect.sqlite.profile, {}⟩ e none).outcome .empty).toOption
      return (s.primaryKeys, e.primaryKeys, texts)) = some (["key"], ["id", "key"],
        ["CREATE TABLE IF NOT EXISTS t (\n    id  INTEGER NOT NULL PRIMARY KEY AUTOINCREMENT,\n"
          ++ "    key INTEGER NOT NULL PRIMARY KEY AUTOINCREMENT\n);"]) := by
    decide +kernel
  obtain ⟨s, hs, hread⟩ := Option.bind_eq_some_iff.mp hread
  obtain ⟨e, he, hread⟩ := Option.bind_eq_some_iff.mp hread
  obtain ⟨texts, htexts, hfacts⟩ := Option.bind_eq_some_iff.mp hread
  obtain ⟨hkeys, hfacts⟩ := Prod.mk.inj (Option.some.inj hfacts)
  obtain ⟨hboth, rfl⟩ := Prod.mk.inj hfacts
  exact ⟨s, e, Log.eq_ok_of_toOption hs, hkeys, Log.eq_ok_of_toOption he, hboth,
    Log.eq_ok_of_toOption htexts⟩

end Ddl.Target

end SqlCompiler
