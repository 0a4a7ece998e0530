import SqlCompiler.Proofs.Schema.Enhancing

/-!
# Accumulation of base columns

Reading a document that was just written changes nothing any more. So base columns that are asked
for again leave a schema as it is, and those of two lists, one after the other, come to the same as
those of both lists at once, but for their order (`enhance_accumulates`).
-/

namespace SqlCompiler

open Checked

namespace Column

theorem documentForm_documentDefault (c : Column) :
    c.documentDefault.documentForm = .ok c.documentDefault := by
  rcases hform : c.default.documentForm with e | v
  · have hnull : c.documentDefault = .null := by
      unfold documentDefault
      rw [hform]
      rfl
    rw [hnull]
    rfl
  · rw [documentDefault_eq hform]
    exact Value.documentForm_idem hform

/-- What was read from a document is read from its own document as it is. -/
@[simp] theorem rewritten_rewritten (c : Column) : c.rewritten.rewritten = c.rewritten := by
  have hdefault : c.rewritten.documentDefault = c.documentDefault :=
    documentDefault_eq c.documentForm_documentDefault
  have htype : (if c.format = some "date-time" then .date else
      if c.format = some "date-time" then .date else c.type) =
      if c.format = some "date-time" then ColumnType.date else c.type := by
    split <;> rfl
  have hdescription : (c.description.map firstLine).map firstLine =
      c.description.map firstLine := by
    rw [Option.map_map]
    exact congrArg (Option.map · c.description) (funext firstLine_firstLine)
  unfold rewritten at hdefault ⊢
  rw [hdefault]
  unfold reread
  dsimp only
  rw [htype, hdescription]

end Column

namespace Schema

variable {s : Schema} {names : List String}

/-! ## Names -/

/-- The names of a second list count as far as the first one does not have them. -/
theorem undeclared_append (declared A B : List String) : undeclared declared (A ++ B) =
    undeclared declared A ++ undeclared (undeclared declared A ++ declared) B := by
  have hremoved : (B.removeAll declared).removeAll (A.removeAll declared) =
      B.removeAll (undeclared declared A ++ declared) := by
    rw [removeAll_removeAll]
    refine removeAll_congr fun name => ?_
    unfold undeclared
    rw [List.mem_append, List.mem_append, List.mem_eraseDups]
  have happend : (A ++ B).removeAll declared = A.removeAll declared ++ B.removeAll declared :=
    List.filter_append ..
  unfold undeclared at hremoved ⊢
  rw [happend, List.eraseDups_append, hremoved]

/-- What names no base column is refused by the first such name. -/
theorem addedColumns_eq_error {declared names : List String} {name : String}
    (h : names.find? (fun name => !(baseColumns.map (·.1)).contains name) = some name) :
    addedColumns declared (names.map .text) = .error (notBaseColumn (.text name)) := by
  induction names generalizing declared with
  | nil => cases h
  | cons first names ih =>
    rw [List.map_cons, addedColumns]
    by_cases hfirst : first ∈ baseColumns.map (·.1)
    · rw [List.find?_cons_of_neg (by simpa using hfirst)] at h
      rw [(BaseColumn.of_mem hfirst).document]
      dsimp only
      rw [ih h]
      rfl
    · rw [List.find?_cons_of_pos (by simpa using hfirst)] at h
      obtain rfl := Option.some.inj h
      have hlookup : baseColumns.lookup first = none := by
        refine List.lookup_eq_none_iff.mpr fun p hp => bne_iff_ne.mpr ?_
        rintro rfl
        exact hfirst (List.mem_map_of_mem hp)
      rw [hlookup]

theorem columnNames_withBase (s : Schema) (names : List String) :
    (s.withBase names).columnNames = undeclared s.columnNames names ++ s.columnNames := by
  unfold withBase
  by_cases hnil : undeclared s.columnNames names = []
  · rw [if_pos hnil, hnil, List.nil_append]
  · rw [if_neg hnil, columnNames_enhancedWith, map_fst_baseColumnsOf]

/-! ## Enhanced schemas -/

theorem map_rewritten_baseColumnsOf {names : List String} (h : ∀ name ∈ names, BaseColumn name) :
    ((baseColumnsOf names).map fun p => (p.1, p.2.rewritten)) = baseColumnsOf names := by
  unfold baseColumnsOf
  rw [List.map_map]
  exact List.map_congr_left fun name hname => congrArg (name, ·) (h name hname).rewritten

theorem Sound.withBase (h : s.Sound) (hnames : ∀ name ∈ names, BaseColumn name) :
    (s.withBase names).Sound := by
  unfold Schema.withBase
  split
  · exact h
  · exact h.enhancedWith (index_baseColumnsOf (baseColumn_of_mem_undeclared hnames _))

/-- What was read from a document can be written. -/
theorem writable_of_rewritten (h : ∀ p ∈ s.columns, p.2.rewritten = p.2) : s.Writable := by
  intro p hp
  rw [← h p hp]
  exact ⟨_, p.2.documentForm_documentDefault⟩

theorem rewritten_of_mem_enhancedWith (hnames : ∀ name ∈ names, BaseColumn name) :
    ∀ p ∈ (s.enhancedWith (baseColumnsOf names)).columns, p.2.rewritten = p.2 := by
  intro p hp
  rcases List.mem_append.mp hp with hp | hp
  · obtain ⟨name, hname, rfl⟩ := List.mem_map.mp hp
    exact (hnames name hname).rewritten
  · obtain ⟨q, _, rfl⟩ := List.mem_map.mp hp
    exact q.2.rewritten_rewritten

theorem Writable.withBase (h : s.Writable) (hnames : ∀ name ∈ names, BaseColumn name) :
    (s.withBase names).Writable := by
  unfold Schema.withBase
  split
  · exact h
  · exact writable_of_rewritten
      (rewritten_of_mem_enhancedWith (baseColumn_of_mem_undeclared hnames _))

theorem namedTable_of_type {type : String} (htype : s.type = some type) (hne : type ≠ "") :
    s.namedTable =
      if s.table = none ∨ s.table = some "" then some (Text.lower type) else s.table := by
  unfold namedTable
  rw [htype]
  split
  · rename_i heq
    cases heq
  · rename_i heq
    exact absurd (Option.some.inj heq) hne
  · rename_i heq
    rw [Option.some.inj heq]

theorem namedTable_enhancedWith (s : Schema) (columns : List (String × Column)) :
    (s.enhancedWith columns).namedTable = s.namedTable := by
  rcases htype : s.type with _ | type
  · simp only [namedTable, enhancedWith, htype]
  · by_cases hempty : type = ""
    · simp only [namedTable, enhancedWith, htype, hempty]
    · have hagain : (s.enhancedWith columns).type = some type := htype
      have htable : (s.enhancedWith columns).table = s.namedTable := rfl
      rw [namedTable_of_type hagain hempty, htable, namedTable_of_type htype hempty]
      by_cases hunnamed : s.table = none ∨ s.table = some ""
      · rw [if_pos hunnamed, ite_self]
      · rw [if_neg hunnamed, if_neg hunnamed]

/-- Columns that are added one after the other come to the same as if they were added at once. -/
theorem enhancedWith_enhancedWith (s : Schema) {A : List (String × Column)}
    (hA : (A.map fun p => (p.1, p.2.rewritten)) = A) (B : List (String × Column)) :
    (s.enhancedWith A).enhancedWith B = s.enhancedWith (B ++ A) := by
  have hagain : (s.columns.map fun p => (p.1, p.2.rewritten)).map
      (fun p => (p.1, p.2.rewritten)) = s.columns.map fun p => (p.1, p.2.rewritten) := by
    rw [List.map_map]
    exact List.map_congr_left fun p _ => congrArg (p.1, ·) p.2.rewritten_rewritten
  have hcolumns : (s.enhancedWith A).columns = A ++ s.columns.map fun p => (p.1, p.2.rewritten) :=
    rfl
  rw [enhancedWith, namedTable_enhancedWith, hcolumns, List.map_append, hA, hagain,
    ← List.append_assoc]
  rfl

theorem withBase_of_declared (h : ∀ name ∈ names, name ∈ s.columnNames) : s.withBase names = s := by
  rw [withBase, if_pos (undeclared_eq_nil_iff.mpr h)]

/-- Base columns that are there are not added again. -/
theorem withBase_idem (s : Schema) (names : List String) :
    undeclared (s.withBase names).columnNames names = [] := by
  refine undeclared_eq_nil_iff.mpr fun name hname => ?_
  rw [columnNames_withBase, List.mem_append, mem_undeclared]
  by_cases hdeclared : name ∈ s.columnNames
  · exact .inr hdeclared
  · exact .inl ⟨hname, hdeclared⟩

/-- Base columns of two lists, one after the other, are those of both lists but for their order. -/
theorem withBase_append (s : Schema) {A : List String} (hA : ∀ name ∈ A, BaseColumn name)
    (B : List String) : ∃ columns,
      s.withBase (A ++ B) = { (s.withBase A).withBase B with columns := columns } ∧
      columns.Perm ((s.withBase A).withBase B).columns := by
  have hnew := baseColumn_of_mem_undeclared hA s.columnNames
  have happend := undeclared_append s.columnNames A B
  by_cases hnil : undeclared s.columnNames A = []
  · have hboth : s.withBase (A ++ B) = s.withBase B := by
      rw [withBase, withBase, happend, hnil, List.nil_append, List.nil_append]
    rw [withBase_of_declared (undeclared_eq_nil_iff.mp hnil), hboth]
    exact ⟨_, rfl, .rfl⟩
  · have hfirst : s.withBase A = s.enhancedWith (baseColumnsOf (undeclared s.columnNames A)) := by
      rw [withBase, if_neg hnil]
    have hboth : s.withBase (A ++ B) =
        s.enhancedWith (baseColumnsOf (undeclared s.columnNames (A ++ B))) := by
      rw [withBase, if_neg]
      rw [happend, List.append_eq_nil_iff]
      exact fun h => hnil h.1
    by_cases hnone : undeclared (s.withBase A).columnNames B = []
    · rw [withBase_of_declared (undeclared_eq_nil_iff.mp hnone), hboth, hfirst, happend,
        ← columnNames_withBase, hnone, List.append_nil]
      exact ⟨_, rfl, .rfl⟩
    · have hthen : (s.withBase A).withBase B = s.enhancedWith
          (baseColumnsOf (undeclared (s.withBase A).columnNames B) ++
            baseColumnsOf (undeclared s.columnNames A)) := by
        rw [withBase, if_neg hnone, hfirst,
          enhancedWith_enhancedWith s (map_rewritten_baseColumnsOf hnew)]
      rw [hthen, hboth, happend, ← columnNames_withBase]
      refine ⟨_, rfl, ?_⟩
      unfold baseColumnsOf enhancedWith
      rw [List.map_append]
      exact List.perm_append_comm.append_right _

theorem writable_of_normal (h : s.Normal) : s.Writable :=
  fun p hp => ⟨_, Value.documentForm_of_isJson (h.columns p hp).default⟩

/-- **Base columns accumulate.** A schema that was read from a JSON document gets the base columns
of a list that it does not declare, each once and in the order in which they first appear, before
the columns that it declares. Asked for the list again, the schema is given back as it is. Asked for
a second list, it declares what it would with both lists at once, in another order. A name that is
no base column is an error, which names the first such name. -/
theorem enhance_accumulates {v : Value} (hv : v.isJson = true) (h : ofValue v = .ok s)
    (A B : List String) :
    ((∀ name ∈ A, name ∈ baseColumns.map (·.1)) → ∃ e, s.enhance A = .ok e ∧
      e.columnNames = undeclared s.columnNames A ++ s.columnNames ∧
      e.enhanced? (A.map .text) = .ok none ∧ e.enhance A = .ok e ∧
      ((∀ name ∈ B, name ∈ baseColumns.map (·.1)) → ∃ after atOnce,
        e.enhance B = .ok after ∧ s.enhance (A ++ B) = .ok { after with columns := atOnce } ∧
        atOnce.Perm after.columns)) ∧
    ∀ name, A.find? (fun name => !(baseColumns.map (·.1)).contains name) = some name →
      s.enhance A = .error (.schema (.notBaseColumn (.text name) (baseColumns.map (·.1)))) := by
  have hsound := sound_of_ofValue h
  have hforms := writable_of_normal (normal_of_ofValue hv h)
  constructor
  · intro hA
    have hA : ∀ name ∈ A, BaseColumn name := fun name hname => .of_mem (hA name hname)
    have hagain := enhanced?_eq (hsound.withBase hA) (hforms.withBase hA) hA
    rw [if_pos (withBase_idem s A)] at hagain
    have hstays : (s.withBase A).enhance A = .ok (s.withBase A) := by
      unfold enhance
      rw [hagain]
      rfl
    refine ⟨_, enhance_eq hsound hforms hA, columnNames_withBase s A, hagain, hstays, ?_⟩
    intro hB
    have hB : ∀ name ∈ B, BaseColumn name := fun name hname => .of_mem (hB name hname)
    obtain ⟨columns, hboth, hperm⟩ := withBase_append s hA B
    refine ⟨_, columns, enhance_eq (hsound.withBase hA) (hforms.withBase hA) hB, ?_, hperm⟩
    rw [← hboth]
    exact enhance_eq hsound hforms (List.forall_mem_append.mpr ⟨hA, hB⟩)
  · intro name hname
    obtain ⟨ms, hms⟩ := exists_columnMembers_iff.mpr hforms
    unfold enhance enhanced?
    rw [hms, addedColumns_eq_error hname]
    rfl

/-- A document that declares one of the base columns, and lists with a name that is repeated. -/
theorem enhance_accumulates_loose :
    looseDocument.isJson = true ∧ ∃ s e, ofValue looseDocument = .ok s ∧
      s.enhance ["inserted", "id", "inserted", "etag"] = .ok e ∧
      e.columnNames = ["inserted", "etag", "id", "at", "tags", "name"] ∧
      e.enhance ["inserted", "id", "inserted", "etag"] = .ok e ∧
      (∃ after atOnce, e.enhance ["etag", "updated"] = .ok after ∧
        s.enhance (["inserted", "id", "inserted", "etag"] ++ ["etag", "updated"]) =
          .ok { after with columns := atOnce } ∧ atOnce.Perm after.columns) ∧
      s.enhance ["id", "at", "by"] =
        .error (.schema (.notBaseColumn (.text "at") ["id", "inserted", "updated", "etag"])) := by
  have hjson : looseDocument.isJson = true := by decide
  have hread : (ofValue looseDocument).toOption.map columnNames =
      some ["id", "at", "tags", "name"] := by decide
  obtain ⟨s, hs, hnames⟩ := Option.map_eq_some_iff.mp hread
  have hok := Log.eq_ok_of_toOption hs
  obtain ⟨e, he, hcolumns, _, hagain, happend⟩ := (enhance_accumulates hjson hok
    ["inserted", "id", "inserted", "etag"] ["etag", "updated"]).1 (by decide)
  rw [hnames] at hcolumns
  have hnew : undeclared ["id", "at", "tags", "name"] ["inserted", "id", "inserted", "etag"] =
      ["inserted", "etag"] := by decide
  rw [hnew] at hcolumns
  exact ⟨hjson, s, e, hok, he, hcolumns, hagain, happend (by decide),
    (enhance_accumulates hjson hok ["id", "at", "by"] []).2 "at" (by decide)⟩

end Schema

end SqlCompiler
