import SqlCompiler.Proofs.Schema.RoundTrip
import SqlCompiler.Schema.Enhance

/-!
# Schemas with base columns

A schema that gets base columns is written and read again with those columns in front, each once,
in the order in which they are asked for first (`withBase`, `enhance_eq`). Each column that it
declares comes back as it is read from its own document (`enhance_cases`, `column?_enhancedWith`),
and the id and the tag stay (`id_enhance`, `etag_enhance`). Base columns can be put to every schema
whose column defaults have a document form (`exists_enhance_iff`).
-/

namespace SqlCompiler

open Checked

/-! ## Columns -/

theorem Value.documentForm_of_isNull {v : Value} (h : v.isNull = true) :
    v.documentForm = .ok .null := by
  cases v with
  | null => rfl
  | _ => cases h

namespace Column

/-- The default that is read from the document of a column. -/
def documentDefault (c : Column) : Value :=
  c.default.documentForm.toOption.getD .null

/-- A column as it is read from its document. -/
def rewritten (c : Column) : Column :=
  c.reread c.documentDefault

theorem documentDefault_eq {c : Column} {v : Value} (h : c.default.documentForm = .ok v) :
    c.documentDefault = v := by
  unfold documentDefault
  rw [h]
  rfl

/-- A column is written if its default has a document form. -/
theorem members_eq_ok_iff {c : Column} {data : Members} : c.members = .ok data ↔
    ∃ v, c.default.documentForm = .ok v ∧
      data = c.written (if c.default.isNull then none else some v) := by
  constructor
  · intro h
    rcases hform : c.default.documentForm with e | v
    · have hnull : ¬ c.default.isNull = true := by
        intro hnull
        rw [Value.documentForm_of_isNull hnull] at hform
        cases hform
      have hdefault : defaultMember c.default = .error e := by
        unfold defaultMember
        rw [if_neg hnull, hform]
        rfl
      unfold members at h
      rw [hdefault] at h
      cases h
    · rw [members_eq_of_documentForm hform] at h
      exact ⟨v, rfl, (Except.ok.inj h).symm⟩
  · rintro ⟨v, hform, hdata⟩
    rw [hdata]
    exact members_eq_of_documentForm hform

theorem check_of_members {c : Column} {data : Members} (h : c.members = .ok data) :
    check (.object data) = .valid c.rewritten := by
  obtain ⟨v, hform, hdata⟩ := members_eq_ok_iff.mp h
  have hdefault : (if c.default.isNull then none else some v).getD .null = v := by
    by_cases hnull : c.default.isNull = true
    · rw [Value.documentForm_of_isNull hnull] at hform
      rw [if_pos hnull, ← Except.ok.inj hform]
      rfl
    · rw [if_neg hnull]
      rfl
  rw [hdata, check_written, hdefault, rewritten, documentDefault_eq hform]

end Column

namespace Schema

theorem columnMembers_cons_eq_ok_iff {name : String} {c : Column}
    {columns : List (String × Column)} {ms : Members} :
    columnMembers ((name, c) :: columns) = .ok ms ↔ ∃ data tail, c.members = .ok data ∧
      columnMembers columns = .ok tail ∧ ms = (name, .object data) :: tail := by
  rw [columnMembers, Log.bind_eq_ok_iff]
  simp only [Log.bind_eq_ok_iff]
  constructor
  · rintro ⟨data, hdata, tail, htail, h⟩
    exact ⟨data, tail, hdata, htail, (Except.ok.inj h).symm⟩
  · rintro ⟨data, tail, hdata, htail, rfl⟩
    exact ⟨data, hdata, tail, htail, rfl⟩

/-- Every column is written if its default has a document form. -/
theorem exists_columnMembers_iff {columns : List (String × Column)} :
    (∃ ms, columnMembers columns = .ok ms) ↔
      ∀ p ∈ columns, ∃ v, p.2.default.documentForm = .ok v := by
  induction columns with
  | nil => exact iff_of_true ⟨[], rfl⟩ (List.forall_mem_nil _)
  | cons p columns ih =>
    obtain ⟨name, c⟩ := p
    rw [List.forall_mem_cons, ← ih]
    simp only [columnMembers_cons_eq_ok_iff]
    constructor
    · rintro ⟨_, data, tail, hdata, htail, _⟩
      obtain ⟨v, hv, _⟩ := Column.members_eq_ok_iff.mp hdata
      exact ⟨⟨v, hv⟩, tail, htail⟩
    · rintro ⟨⟨v, hv⟩, tail, htail⟩
      exact ⟨_, _, tail, Column.members_eq_of_documentForm hv, htail, rfl⟩

/-- The documents of columns are in shape, and each is read as the column rewritten. -/
theorem members_of_columnMembers {columns : List (String × Column)} {ms : Members}
    (h : columnMembers columns = .ok ms) :
    Checked.members Column.check ms = .valid (columns.map fun p => (p.1, p.2.rewritten)) ∧
      ∀ p ∈ ms, splitIndex p.1 p.2 = p.2 := by
  induction columns generalizing ms with
  | nil =>
    obtain rfl : [] = ms := Except.ok.inj h
    exact ⟨rfl, List.forall_mem_nil _⟩
  | cons p columns ih =>
    obtain ⟨name, c⟩ := p
    obtain ⟨data, tail, hdata, htail, rfl⟩ := columnMembers_cons_eq_ok_iff.mp h
    obtain ⟨hread, hsplit⟩ := ih htail
    constructor
    · rw [Checked.members, Column.check_of_members hdata, hread]
      rfl
    · obtain ⟨v, _, hwritten⟩ := Column.members_eq_ok_iff.mp hdata
      rw [hwritten]
      exact List.forall_mem_cons.mpr ⟨splitIndex_written name c _, hsplit⟩

/-! ## Base columns as they are read -/

/-- The document of a base column. -/
def baseDocument (name : String) : Members :=
  (baseColumns.lookup name).getD []

/-- A base column as its document is read. -/
def baseColumn (name : String) : Column :=
  match Column.check (.object (baseDocument name)) with
  | .valid c => c
  | .invalid _ => {}

/-- The base columns of some names. -/
def baseColumnsOf (names : List String) : List (String × Column) :=
  names.map fun name => (name, baseColumn name)

@[simp] theorem map_fst_baseColumnsOf (names : List String) :
    (baseColumnsOf names).map (·.1) = names := by
  unfold baseColumnsOf
  rw [List.map_map]
  exact List.map_id _

/-- What a base column is like: its document is in shape and read as a column, which is read from
its own document as it is and asks for an index over itself if it asks for any. -/
structure BaseColumn (name : String) : Prop where
  document : baseColumns.lookup name = some (baseDocument name)
  inShape : splitIndex name (.object (baseDocument name)) = .object (baseDocument name)
  check : Column.check (.object (baseDocument name)) = .valid (baseColumn name)
  rewritten : (baseColumn name).rewritten = baseColumn name
  index : ∀ names, (baseColumn name).index = some names → names = [name]

theorem BaseColumn.of_mem {name : String} (h : name ∈ baseColumns.map (·.1)) : BaseColumn name := by
  simp only [baseColumns, List.map_cons, List.map_nil, List.mem_cons, List.not_mem_nil,
    or_false] at h
  rcases h with rfl | rfl | rfl | rfl
  · exact ⟨rfl, rfl, rfl, rfl, nofun⟩
  · exact ⟨rfl, rfl, rfl, rfl, fun _ h => (Option.some.inj h).symm⟩
  · exact ⟨rfl, rfl, rfl, rfl, fun _ h => (Option.some.inj h).symm⟩
  · exact ⟨rfl, rfl, rfl, rfl, nofun⟩

theorem members_baseDocuments {names : List String} (h : ∀ name ∈ names, BaseColumn name) :
    Checked.members Column.check (names.map fun name => (name, .object (baseDocument name))) =
      .valid (baseColumnsOf names) := by
  induction names with
  | nil => rfl
  | cons name names ih =>
    obtain ⟨hname, hnames⟩ := List.forall_mem_cons.mp h
    rw [List.map_cons, Checked.members, hname.check, ih hnames]
    rfl

/-! ## What is added -/

/-- The names that are not declared, each once, in the order in which they first appear. -/
def undeclared (declared names : List String) : List String :=
  (names.removeAll declared).eraseDups

theorem mem_undeclared {declared names : List String} {name : String} :
    name ∈ undeclared declared names ↔ name ∈ names ∧ name ∉ declared := by
  unfold undeclared List.removeAll
  rw [List.mem_eraseDups, List.mem_filter]
  simp

theorem undeclared_eq_nil_iff {declared names : List String} :
    undeclared declared names = [] ↔ ∀ name ∈ names, name ∈ declared := by
  simp only [List.eq_nil_iff_forall_not_mem, mem_undeclared, not_and, Classical.not_not]

theorem baseColumn_of_mem_undeclared {names : List String} (h : ∀ name ∈ names, BaseColumn name)
    (declared : List String) : ∀ name ∈ undeclared declared names, BaseColumn name :=
  fun name hname => h name (mem_undeclared.mp hname).1

theorem addedColumns_cons_eq_ok_iff {declared : List String} {name : String} {names : List Value}
    {added : Members} : addedColumns declared (.text name :: names) = .ok added ↔
      ∃ document tail, baseColumns.lookup name = some document ∧
        addedColumns (name :: declared) names = .ok tail ∧
        added = if declared.contains name then tail else (name, .object document) :: tail := by
  rw [addedColumns]
  rcases hbase : baseColumns.lookup name with _ | document
  · exact iff_of_false nofun fun ⟨_, _, h, _⟩ => by cases h
  · dsimp only
    rw [Log.bind_eq_ok_iff]
    constructor
    · rintro ⟨tail, htail, h⟩
      exact ⟨document, tail, rfl, htail, (Except.ok.inj h).symm⟩
    · rintro ⟨_, tail, hdocument, htail, rfl⟩
      cases hdocument
      exact ⟨tail, htail, rfl⟩

/-- What is added without an error are base columns only. -/
theorem mem_baseColumns_of_addedColumns {declared names : List String} {added : Members}
    (h : addedColumns declared (names.map .text) = .ok added) :
    ∀ name ∈ names, name ∈ baseColumns.map (·.1) := by
  induction names generalizing declared added with
  | nil => exact List.forall_mem_nil _
  | cons name names ih =>
    rw [List.map_cons] at h
    obtain ⟨document, tail, hdocument, htail, _⟩ := addedColumns_cons_eq_ok_iff.mp h
    refine List.forall_mem_cons.mpr ⟨?_, ih htail⟩
    obtain ⟨before, after, heq, _⟩ := List.lookup_eq_some_iff.mp hdocument
    exact List.mem_map.mpr ⟨(name, document), heq ▸ List.mem_append_right before List.mem_cons_self,
      rfl⟩

/-- What is added are the documents of the base columns that are not declared. -/
theorem addedColumns_eq {declared names : List String} (h : ∀ name ∈ names, BaseColumn name) :
    addedColumns declared (names.map .text) =
      .ok ((undeclared declared names).map fun name => (name, .object (baseDocument name))) := by
  induction names generalizing declared with
  | nil => rfl
  | cons name names ih =>
    obtain ⟨hname, hnames⟩ := List.forall_mem_cons.mp h
    rw [List.map_cons, addedColumns_cons_eq_ok_iff]
    refine ⟨_, _, hname.document, ih hnames, ?_⟩
    by_cases hdeclared : name ∈ declared
    · have hsame : undeclared (name :: declared) names = undeclared declared (name :: names) := by
        have hskip : (name :: names).removeAll declared = names.removeAll declared := by
          unfold List.removeAll
          rw [List.filter_cons_of_neg (by simpa using hdeclared)]
        unfold undeclared
        rw [hskip]
        refine congrArg List.eraseDups (removeAll_congr fun other => ?_)
        rw [List.mem_cons, or_iff_right_of_imp fun heq => heq ▸ hdeclared]
      rw [if_pos (List.contains_iff_mem.mpr hdeclared), hsame]
    · have hfirst : undeclared declared (name :: names) =
          name :: undeclared (name :: declared) names := by
        have hkeep : (name :: names).removeAll declared = name :: names.removeAll declared := by
          unfold List.removeAll
          rw [List.filter_cons_of_pos (by simpa using hdeclared)]
        unfold undeclared
        rw [hkeep, List.eraseDups_cons]
        refine congrArg (name :: List.eraseDups ·) ?_
        rw [← List.singleton_append, ← removeAll_removeAll]
        unfold List.removeAll
        refine List.filter_congr fun other _ => ?_
        simp [Bool.beq_eq_decide_eq]
      rw [if_neg fun hmem => hdeclared (List.contains_iff_mem.mp hmem), hfirst]
      rfl

/-! ## Reading the enhanced document -/

/-- What every schema that was read is like. -/
structure Sound (s : Schema) : Prop where
  indices : ∀ i ∈ s.indices, i.Normal
  references : ∀ r ∈ s.references, ∀ name ∈ r.2, name ∈ s.columnNames

theorem checkReferences_eq_valid_iff {s : Schema} : s.checkReferences = .valid s ↔
    ∀ r ∈ s.references, ∀ name ∈ r.2, name ∈ s.columnNames := by
  have hnone : ∀ r : String × List String,
      ((undeclared? s.columnNames r.2).map fun name => (r.1, name)) = none ↔
        ∀ name ∈ r.2, name ∈ s.columnNames := by
    intro r
    unfold undeclared?
    rw [Option.map_eq_none_iff, List.find?_eq_none]
    simp
  unfold checkReferences
  split
  · rename_i place name hfound
    refine iff_of_false nofun fun h => ?_
    have hall := List.findSome?_eq_none_iff.mpr fun r hr => (hnone r).mpr (h r hr)
    exact absurd (hfound.symm.trans hall) nofun
  · rename_i hfound
    exact iff_of_true rfl fun r hr => (hnone r).mp (List.findSome?_eq_none_iff.mp hfound r hr)

theorem sound_of_ofValue {v : Value} {s : Schema} (h : ofValue v = .ok s) : s.Sound := by
  obtain ⟨_, _, hread, hreferences⟩ := ofValue_eq_ok_iff.mp h
  exact ⟨normal_of_mem_indices hread, checkReferences_eq_valid_iff.mp hreferences⟩

/-- The name of the table after reading: a table without a name is named like its type. -/
def namedTable (s : Schema) : Option String :=
  match s.type with
  | none | some "" => s.table
  | some type => if s.table = none ∨ s.table = some "" then some (Text.lower type) else s.table

theorem isPresent_table_membersAround (s : Schema) (columns : Members) :
    ((s.membersAround columns).getD "table").isPresent = true ↔
      ¬ (s.table = none ∨ s.table = some "") := by
  have htable : (s.membersAround columns).get? "table" = s.table.map .text := by
    simp [membersAround]
  unfold Members.getD
  rw [htable]
  cases s.table <;> simp [Value.isPresent]

theorem get?_nameTable_membersAround (s : Schema) (columns : Members) :
    (nameTable (s.membersAround columns)).get? "table" = s.namedTable.map .text := by
  have htable : (s.membersAround columns).get? "table" = s.table.map .text := by
    simp [membersAround]
  have htype : (s.membersAround columns).get? "type" = s.type.map .text := by
    simp [membersAround]
  have hpresent := isPresent_table_membersAround s columns
  have hunnamed : ((s.membersAround columns).getD "type").isPresent = false →
      (nameTable (s.membersAround columns)).get? "table" = s.table.map .text := by
    intro h
    unfold nameTable
    dsimp only
    rw [h, Bool.and_false]
    exact htable
  unfold namedTable
  split
  · rename_i hnone
    refine hunnamed ?_
    unfold Members.getD
    rw [htype, hnone]
    rfl
  · rename_i hempty
    refine hunnamed ?_
    unfold Members.getD
    rw [htype, hempty]
    rfl
  · rename_i type hne hsome
    rw [hsome] at htype
    rw [get?_nameTable_table htype (fun h => hne h), htable]
    by_cases h : s.table = none ∨ s.table = some ""
    · rw [if_pos h, if_neg fun hp => hpresent.mp hp h]
      rfl
    · rw [if_neg h, if_pos (hpresent.mpr h)]

/-- Reading looks at the members of the document of a schema as they are, but for the name of the
table. -/
theorem get?_normalize_membersAround (s : Schema) {columns : Members}
    (h : ∀ p ∈ columns, splitIndex p.1 p.2 = p.2) {key : String} (hkey : key ≠ "table") :
    (normalize (s.membersAround columns)).get? key = (s.membersAround columns).get? key := by
  have hnamed : ∀ k, k ≠ "table" →
      (nameTable (s.membersAround columns)).get? k = (s.membersAround columns).get? k :=
    fun k hk => get?_nameTable hk _
  have hlisted : listed (s.membersAround columns) = nameTable (s.membersAround columns) := by
    have hsplit : ∀ member ∈ ["fullText", "full_text"],
        splitMember (nameTable (s.membersAround columns)) member =
          nameTable (s.membersAround columns) := by
      intro member hmember
      refine splitMember_of_ne_text fun t => ?_
      simp only [List.mem_cons, List.not_mem_nil, or_false] at hmember
      rcases hmember with rfl | rfl
      · rw [hnamed _ (by decide)]
        simp [membersAround]
      · rw [hnamed _ (by decide)]
        simp [membersAround]
    unfold listed
    simp only [List.foldl_cons, List.foldl_nil]
    rw [hsplit _ List.mem_cons_self, hsplit _ (List.mem_cons_of_mem _ List.mem_cons_self)]
  have hcolumns : (s.membersAround columns).get? "properties" =
      if columns ≠ [] then some (.object columns) else none := by
    simp [membersAround]
  by_cases hnil : columns = []
  · rw [if_neg (not_not_intro hnil)] at hcolumns
    rw [normalize_of_ne_object, hlisted, hnamed key hkey]
    intro members hget
    rw [hlisted, hnamed _ (by decide), hcolumns] at hget
    cases hget
  · rw [if_pos hnil] at hcolumns
    have hsame : (columns.map fun p => (p.1, splitIndex p.1 p.2)) = columns := by
      refine (List.map_congr_left fun p hp => ?_).trans (List.map_id _)
      exact congrArg (p.1, ·) (h p hp)
    have hget : (listed (s.membersAround columns)).get? "properties" = some (.object columns) := by
      rw [hlisted, hnamed _ (by decide), hcolumns]
    rw [normalize_of_object hget, hsame, Members.put_of_get? hget, hlisted, hnamed key hkey]

/-- A schema with columns in front, and its own columns as they are read from their documents. -/
def enhancedWith (s : Schema) (added : List (String × Column)) : Schema :=
  { s with
    table := s.namedTable
    columns := added ++ s.columns.map fun p => (p.1, p.2.rewritten) }

theorem columnNames_enhancedWith (s : Schema) (added : List (String × Column)) :
    (s.enhancedWith added).columnNames = added.map (·.1) ++ s.columnNames := by
  unfold columnNames enhancedWith
  rw [List.map_append, List.map_map]
  rfl

/-- Columns in front add their indices to the mentions of columns. -/
theorem mem_references_enhancedWith {s : Schema} {added : List (String × Column)}
    {r : String × List String} (hr : r ∈ (s.enhancedWith added).references) :
    r ∈ s.references ∨ ∃ p ∈ added, p.2.index = some r.2 := by
  have hindex : (fun p : String × Column => p.2.index.map fun names =>
      ("index of column '" ++ p.1 ++ "'", names)) ∘
        (fun p : String × Column => (p.1, p.2.rewritten)) =
      fun p : String × Column => p.2.index.map fun names =>
        ("index of column '" ++ p.1 ++ "'", names) := rfl
  unfold enhancedWith references at hr
  dsimp only at hr
  rw [List.filterMap_append, List.filterMap_map, hindex] at hr
  unfold references
  simp only [List.mem_append] at hr ⊢
  rcases hr with ((hr | hr) | hr | hr) | hr
  · exact .inl (.inl (.inl (.inl hr)))
  · exact .inl (.inl (.inl (.inr hr)))
  · obtain ⟨p, hp, hmention⟩ := List.mem_filterMap.mp hr
    obtain ⟨names, hnames, rfl⟩ := Option.map_eq_some_iff.mp hmention
    exact .inr ⟨p, hp, hnames⟩
  · exact .inl (.inl (.inr hr))
  · exact .inl (.inr hr)

/-- Base columns mention themselves only. -/
theorem Sound.enhancedWith {s : Schema} (h : s.Sound) {added : List (String × Column)}
    (hadded : ∀ p ∈ added, ∀ names, p.2.index = some names → names = [p.1]) :
    (s.enhancedWith added).Sound := by
  constructor
  case indices => exact h.indices
  case references =>
    intro r hr name hname
    rw [columnNames_enhancedWith, List.mem_append]
    rcases mem_references_enhancedWith hr with hr | ⟨p, hp, hindex⟩
    · exact .inr (h.references r hr name hname)
    · rw [hadded p hp _ hindex, List.mem_singleton] at hname
      rw [hname]
      exact .inl (List.mem_map_of_mem hp)

/-- The document with further columns in front, in shape and asking for indices over themselves
only, is read as the schema with what those are read as. -/
theorem ofValue_membersAround {s : Schema} (h : s.Sound) {ms added : Members}
    (hms : columnMembers s.columns = .ok ms) {columns : List (String × Column)}
    (hcolumns : Checked.members Column.check added = .valid columns)
    (hshape : ∀ p ∈ added, splitIndex p.1 p.2 = p.2)
    (hindex : ∀ p ∈ columns, ∀ names, p.2.index = some names → names = [p.1]) :
    ofValue (.object (s.membersAround (added ++ ms))) = .ok (s.enhancedWith columns) := by
  obtain ⟨hread, hshapes⟩ := members_of_columnMembers hms
  have hsplit : ∀ p ∈ added ++ ms, splitIndex p.1 p.2 = p.2 :=
    List.forall_mem_append.mpr ⟨hshape, hshapes⟩
  have hget : ∀ {key}, key ≠ "table" → (normalize (s.membersAround (added ++ ms))).get? key =
      (s.membersAround (added ++ ms)).get? key :=
    fun hkey => get?_normalize_membersAround s hsplit hkey
  have hplain := readFrom_membersAround h.indices (members_append hcolumns hread)
  have hbody : ∀ key ∈ bodyKeys, (normalize (s.membersAround (added ++ ms))).get? key =
      (s.membersAround (added ++ ms)).get? key := by
    intro key hkey
    refine hget ?_
    rintro rfl
    exact absurd hkey (by decide)
  have hreads : (s.enhancedWith columns).ReadFrom (normalize (s.membersAround (added ++ ms))) := by
    refine hplain.congr hbody ?_ ?_ ?_ ?_
    · rw [get?_normalize (by decide), get?_listed (by decide), get?_nameTable_membersAround]
      exact gives_map optional_text s.namedTable
    · rw [hget (by decide)]
      exact hplain.type
    · rw [hget (by decide), hget (by decide)]
      exact hplain.id
    · rw [hget (by decide)]
      exact hplain.etag
  exact ofValue_eq_ok_iff.mpr ⟨_, rfl, hreads,
    checkReferences_eq_valid_iff.mpr (h.enhancedWith hindex).references⟩

/-- A schema has a document if its columns have. -/
theorem document_eq_ok_iff {s : Schema} {document : Value} : s.document = .ok document ↔
    ∃ ms, columnMembers s.columns = .ok ms ∧ document = .object (s.membersAround ms) := by
  unfold Schema.document members
  cases columnMembers s.columns with
  | error e => exact iff_of_false nofun nofun
  | ok ms =>
    constructor
    · intro h
      exact ⟨ms, rfl, (Except.ok.inj h).symm⟩
    · rintro ⟨_, hms, rfl⟩
      rw [Except.ok.inj hms]
      rfl

/-- The document of a schema is read as the schema with its columns rewritten. -/
theorem ofValue_of_document {s : Schema} (h : s.Sound) {document : Value}
    (hdocument : s.document = .ok document) : ofValue document = .ok (s.enhancedWith []) := by
  obtain ⟨ms, hms, rfl⟩ := document_eq_ok_iff.mp hdocument
  have hnone : Checked.members Column.check [] = .valid [] := rfl
  have hread := ofValue_membersAround h hms hnone (List.forall_mem_nil _)
    (List.forall_mem_nil _)
  rwa [List.nil_append] at hread

/-! ## Enhancing -/

/-- The schema with the base columns of a list: it stays if it declares them all. -/
def withBase (s : Schema) (names : List String) : Schema :=
  if undeclared s.columnNames names = [] then s
  else s.enhancedWith (baseColumnsOf (undeclared s.columnNames names))

/-- Whether all column defaults have a document form. -/
def Writable (s : Schema) : Prop :=
  ∀ p ∈ s.columns, ∃ v, p.2.default.documentForm = .ok v

variable {s e : Schema} {names : List String}

theorem index_baseColumnsOf (h : ∀ name ∈ names, BaseColumn name) :
    ∀ p ∈ baseColumnsOf names, ∀ index, p.2.index = some index → index = [p.1] := by
  intro p hp
  obtain ⟨name, hname, rfl⟩ := List.mem_map.mp hp
  exact (h name hname).index

/-- A schema that declares all base columns that are asked for is given back as it is. -/
theorem enhanced?_eq (h : s.Sound) (hforms : s.Writable)
    (hnames : ∀ name ∈ names, BaseColumn name) : s.enhanced? (names.map .text) =
      .ok (if undeclared s.columnNames names = [] then none else some (s.withBase names)) := by
  obtain ⟨ms, hms⟩ := exists_columnMembers_iff.mpr hforms
  have hnew := baseColumn_of_mem_undeclared hnames s.columnNames
  unfold enhanced? withBase
  rw [hms, addedColumns_eq hnames]
  by_cases hnil : undeclared s.columnNames names = []
  · rw [if_pos hnil, hnil]
    rfl
  · have hread : ofValue (.object (s.membersAround
        ((undeclared s.columnNames names).map (fun name => (name, .object (baseDocument name))) ++
          ms))) = .ok (s.enhancedWith (baseColumnsOf (undeclared s.columnNames names))) := by
      refine ofValue_membersAround h hms (members_baseDocuments hnew) (fun p hp => ?_)
        (index_baseColumnsOf hnew)
      obtain ⟨name, hname, rfl⟩ := List.mem_map.mp hp
      exact (hnew name hname).inShape
    rw [if_neg hnil, if_neg hnil]
    simp only [Log.bind_eq_ok_iff]
    refine ⟨ms, rfl, _, rfl, ?_⟩
    rw [if_neg (by simpa using hnil), Log.bind_eq_ok_iff]
    exact ⟨_, hread, rfl⟩

/-- A schema whose columns can be written gets the base columns that are asked for. -/
theorem enhance_eq (h : s.Sound) (hforms : s.Writable)
    (hnames : ∀ name ∈ names, BaseColumn name) : s.enhance names = .ok (s.withBase names) := by
  unfold enhance
  rw [enhanced?_eq h hforms hnames]
  by_cases hnil : undeclared s.columnNames names = []
  · rw [if_pos hnil, withBase, if_pos hnil]
    rfl
  · rw [if_neg hnil]
    rfl

theorem writable_of_enhance (he : s.enhance names = .ok e) :
    s.Writable ∧ ∀ name ∈ names, name ∈ baseColumns.map (·.1) := by
  obtain ⟨_, he, _⟩ := Log.bind_eq_ok_iff.mp he
  obtain ⟨ms, hms, he⟩ := Log.bind_eq_ok_iff.mp he
  obtain ⟨added, hadded, _⟩ := Log.bind_eq_ok_iff.mp he
  exact ⟨exists_columnMembers_iff.mp ⟨ms, hms⟩, mem_baseColumns_of_addedColumns hadded⟩

/-- What an enhanced schema is. -/
theorem eq_withBase_of_enhance (h : s.Sound) (he : s.enhance names = .ok e) :
    (∀ name ∈ names, name ∈ baseColumns.map (·.1)) ∧ e = s.withBase names := by
  obtain ⟨hforms, hnames⟩ := writable_of_enhance he
  have heq := enhance_eq h hforms fun name hname => .of_mem (hnames name hname)
  exact ⟨hnames, Except.ok.inj (he.symm.trans heq)⟩

/-- A schema that declares all columns that are asked for stays. Another one gets those that it does
not declare in front, and its own columns as they are read from their documents. -/
theorem enhance_cases (h : s.Sound) (he : s.enhance names = .ok e) :
    (∀ name ∈ names, name ∈ s.columnNames) ∧ e = s ∨
      (¬ ∀ name ∈ names, name ∈ s.columnNames) ∧ ∃ added : List (String × Column),
        (∀ p ∈ added, p.1 ∉ s.columnNames) ∧ e = s.enhancedWith added := by
  obtain ⟨_, rfl⟩ := eq_withBase_of_enhance h he
  unfold withBase
  rw [← undeclared_eq_nil_iff]
  by_cases hnil : undeclared s.columnNames names = []
  · rw [if_pos hnil]
    exact .inl ⟨hnil, rfl⟩
  · rw [if_neg hnil]
    refine .inr ⟨hnil, _, fun p hp => ?_, rfl⟩
    obtain ⟨name, hname, rfl⟩ := List.mem_map.mp hp
    exact (mem_undeclared.mp hname).2

/-- Base columns can be put to a schema exactly if its column defaults have a document form. -/
theorem exists_enhance_iff (h : s.Sound) (hnames : ∀ name ∈ names, name ∈ baseColumns.map (·.1)) :
    (∃ e, s.enhance names = .ok e) ↔ ∀ p ∈ s.columns, ∃ v, p.2.default.documentForm = .ok v :=
  ⟨fun ⟨_, he⟩ => (writable_of_enhance he).1,
    fun hforms => ⟨_, enhance_eq h hforms fun name hname => .of_mem (hnames name hname)⟩⟩

theorem id_enhance (h : s.Sound) (he : s.enhance names = .ok e) : e.id = s.id := by
  rcases enhance_cases h he with ⟨_, rfl⟩ | ⟨_, added, _, rfl⟩
  · rfl
  · rfl

theorem etag_enhance (h : s.Sound) (he : s.enhance names = .ok e) : e.etag = s.etag := by
  rcases enhance_cases h he with ⟨_, rfl⟩ | ⟨_, added, _, rfl⟩
  · rfl
  · rfl

/-- A declared column of an enhanced schema is the column as it is read from its document. -/
theorem column?_enhancedWith {added : List (String × Column)}
    (hadded : ∀ p ∈ added, p.1 ∉ s.columnNames) {name : String} {c : Column}
    (hc : s.column? name = some c) : (s.enhancedWith added).column? name = some c.rewritten := by
  have hdeclared : name ∈ s.columnNames := by
    have hsome : (s.columns.lookup name).isSome = true := Option.isSome_iff_exists.mpr ⟨c, hc⟩
    obtain ⟨p, hp, heq⟩ := List.lookup_isSome_iff.mp hsome
    exact eq_of_beq heq ▸ List.mem_map_of_mem hp
  have hnone : added.lookup name = none := by
    refine List.lookup_eq_none_iff.mpr fun p hp => bne_iff_ne.mpr ?_
    rintro rfl
    exact hadded p hp hdeclared
  unfold column? enhancedWith
  dsimp only
  rw [List.lookup_append, hnone, lookup_map_snd, Option.none_or]
  exact congrArg (Option.map Column.rewritten) hc

end Schema

end SqlCompiler
