import SqlCompiler.Ddl.Table
import SqlCompiler.Proofs.Freshness.Generation

/-!
# Coherent schemas

A schema is coherent if every column that it mentions is declared, its indices have columns and mark
arrays inside them, no length is negative and no description of a column goes over one line. What is
read from a document is coherent, and so is what enhancing and stamping make of it. A coherent
schema has all that its indices are made from: the columns that a column asks to be indexed are
found, and the index that is made for them is one that could have been declared
(`schemas_coherent`).
-/

namespace SqlCompiler

theorem not_mem_firstLine (s : String) : '\n' ∉ (firstLine s).toList := by
  unfold firstLine
  rw [String.toList_ofList]
  have hall : ∀ c ∈ s.toList.takeWhile (· != '\n'), (c != '\n') = true :=
    List.all_eq_true.mp List.all_takeWhile
  exact fun h => absurd (hall _ h) (by decide)

namespace Checked

/-- A number that is not refused is not negative. -/
theorem nonneg_of_nat {w : Value} {length : Option Nat} {n : Int}
    (h : optional nat w = .valid length) (hn : int w = .valid n) : 0 ≤ n := by
  have hnat : ∀ m, nat w = .valid m → 0 ≤ n := by
    intro m hm
    obtain ⟨k, hk, hm⟩ := andThen_eq_valid_iff.mp hm
    obtain rfl := valid.inj (hn.symm.trans hk)
    split at hm
    · assumption
    · cases hm
  cases w with
  | null => cases hn
  | _ =>
    obtain ⟨m, hm, _⟩ := map_eq_valid_iff.mp h
    exact hnat m hm

theorem exists_valid_of_mem {α : Type} {check : Value → Checked α} {ms : Members}
    {as : List (String × α)} (h : members check ms = .valid as) :
    ∀ m ∈ ms, ∃ a, check m.2 = .valid a := by
  induction ms generalizing as with
  | nil => exact nofun
  | cons m ms ih =>
    obtain ⟨_, hfirst, tail, htail, _⟩ := seq_eq_valid_iff.mp h
    obtain ⟨a, ha, _⟩ := map_eq_valid_iff.mp hfirst
    rintro m' (_ | ⟨_, hm'⟩)
    · exact ⟨a, below_eq_valid_iff.mp ha⟩
    · exact ih htail m' hm'

end Checked

/-! ## Columns -/

namespace Column

theorem description_of_check {v : Value} {c : Column} (h : check v = .valid c) :
    ∀ line, c.description = some line → '\n' ∉ line.toList := by
  intro line hline
  cases v with
  | object data =>
    have hdescription := (checkFields_eq_valid_iff.mp h).description
    rw [hline] at hdescription
    rcases hget : (normalize data).get? "description" with _ | w
    · rw [hget, Checked.gives_none] at hdescription
      cases hdescription
    · rw [hget, Checked.gives_some] at hdescription
      obtain ⟨text?, _, hfirst⟩ := Checked.map_eq_valid_iff.mp hdescription
      obtain ⟨text, _, rfl⟩ := Option.map_eq_some_iff.mp hfirst
      exact not_mem_firstLine text
  | _ => cases h

/-- A length that a document gives as a number is not negative. -/
theorem nonneg_maxLength_of_check {data : Members} {c : Column}
    (h : check (.object data) = .valid c) {w : Value}
    (hw : (data.get? "maxLength").or (data.get? "max_length") = some w) {n : Int}
    (hn : Checked.int w = .valid n) : 0 ≤ n := by
  have hlength := (checkFields_eq_valid_iff.mp h).maxLength
  rw [get?_normalize (by decide) (by decide), get?_normalize (by decide) (by decide), hw,
    Checked.gives_some] at hlength
  exact Checked.nonneg_of_nat hlength hn

end Column

/-! ## Schemas -/

namespace Schema

/-- What holds of every schema that is in use. -/
structure Coherent (s : Schema) : Prop where
  required : ∀ name ∈ s.required, name ∈ s.columnNames
  fulltext : ∀ name ∈ s.fulltext, name ∈ s.columnNames
  indexColumns : ∀ i ∈ s.indices, i.columns ≠ [] ∧ ∀ name ∈ i.columns, name ∈ s.columnNames
  indexArray : ∀ i ∈ s.indices, ∀ position, i.array = some position → position < i.columns.length
  columnIndices : ∀ p ∈ s.columns, ∀ names, p.2.index = some names →
    ∀ name ∈ names, name ∈ s.columnNames
  relations : ∀ p ∈ s.relations, p.2.column ∈ s.columnNames
  lengths : ∀ p ∈ s.columns, ∀ n, p.2.maxLength = some n → 0 ≤ (n : Int)
  descriptions : ∀ p ∈ s.columns, ∀ line, p.2.description = some line → '\n' ∉ line.toList

variable {s : Schema}

theorem Sound.coherent (h : s.Sound)
    (hlines : ∀ p ∈ s.columns, ∀ line, p.2.description = some line → '\n' ∉ line.toList) :
    s.Coherent := by
  have hreferences : ∀ place names, (place, names) ∈ s.references →
      ∀ name ∈ names, name ∈ s.columnNames := fun place names => h.references (place, names)
  have hmem : ∀ r, r ∈ s.references ↔ r = ("required", s.required) ∨ r = ("fullText", s.fulltext) ∨
      (∃ i ∈ s.indices, ("index", i.columns) = r) ∨
      (∃ p ∈ s.columns, (p.2.index.map fun names => ("index of column '" ++ p.1 ++ "'", names)) =
        some r) ∨
      ∃ p ∈ s.relations, ("relation '" ++ p.1 ++ "'", [p.2.column]) = r := by
    intro r
    unfold Schema.references
    simp only [List.mem_append, List.mem_cons, List.not_mem_nil, or_false, List.mem_map,
      List.mem_filterMap, or_assoc]
  constructor
  case required => exact hreferences _ _ ((hmem _).mpr (.inl rfl))
  case fulltext => exact hreferences _ _ ((hmem _).mpr (.inr (.inl rfl)))
  case indexColumns =>
    intro i hi
    exact ⟨(h.indices i hi).columns,
      hreferences _ _ ((hmem _).mpr (.inr (.inr (.inl ⟨i, hi, rfl⟩))))⟩
  case indexArray =>
    intro i hi
    exact (Index.checkArray_eq_valid_iff.mp (h.indices i hi).array).1
  case columnIndices =>
    intro p hp names hnames
    have hplace : (p.2.index.map fun names => ("index of column '" ++ p.1 ++ "'", names)) = _ :=
      congrArg _ hnames
    exact hreferences _ _ ((hmem _).mpr (.inr (.inr (.inr (.inl ⟨p, hp, hplace⟩)))))
  case relations =>
    intro p hp
    exact hreferences _ _ ((hmem _).mpr (.inr (.inr (.inr (.inr ⟨p, hp, rfl⟩))))) _
      List.mem_cons_self
  case lengths => exact fun _ _ n _ => Int.natCast_nonneg n
  case descriptions => exact hlines

/-- Every column is read from a document. -/
theorem exists_check_of_columns {data : Members} {columns : List (String × Column)}
    (h : Checked.Gives (Checked.object Column.check) [] (data.get? "properties") columns) :
    ∀ p ∈ columns, ∃ v, Column.check v = .valid p.2 := by
  intro p hp
  rcases hget : data.get? "properties" with _ | w
  · rw [hget, Checked.gives_none] at h
    rw [h] at hp
    cases hp
  · rw [hget, Checked.gives_some] at h
    cases w with
    | object members =>
      obtain ⟨v, _, hv⟩ := Checked.exists_mem_of_members h p hp
      exact ⟨v, hv⟩
    | _ => cases h

/-- Splitting the index of a column leaves the rest of its document as it is. -/
theorem exists_splitIndex (name : String) (data : Members) :
    ∃ column : Members, splitIndex name (.object data) = .object column ∧
      ∀ key ≠ "index", column.get? key = data.get? key := by
  unfold splitIndex
  dsimp only
  split
  · exact ⟨_, rfl, fun key hkey => (Members.get?_put _ _ _ _).trans (if_neg hkey)⟩
  · exact ⟨data, rfl, fun _ _ => rfl⟩

/-- No column of a document has a length that is a negative number. -/
def NoNegativeLength (v : Value) : Prop :=
  ∀ data properties : Members, v = .object data →
    data.get? "properties" = some (.object properties) →
    ∀ (name : String) (column : Members), (name, .object column) ∈ properties →
      ∀ w n, (column.get? "maxLength").or (column.get? "max_length") = some w →
        Checked.int w = .valid n → 0 ≤ n

theorem coherent_of_ofValue {v : Value} (h : ofValue v = .ok s) : s.Coherent := by
  obtain ⟨_, _, hread, _⟩ := ofValue_eq_ok_iff.mp h
  refine (sound_of_ofValue h).coherent fun p hp => ?_
  obtain ⟨w, hw⟩ := exists_check_of_columns hread.columns p hp
  exact Column.description_of_check hw

theorem noNegativeLength_of_ofValue {v : Value} (h : ofValue v = .ok s) : NoNegativeLength v := by
  rintro data properties rfl hproperties name column hcolumn w n hw hn
  obtain ⟨_, hdata, hread, _⟩ := ofValue_eq_ok_iff.mp h
  cases hdata
  have hlisted : (listed data).get? "properties" = some (.object properties) := by
    rw [get?_listed (by decide), get?_nameTable (by decide), hproperties]
  have hcolumns := hread.columns
  rw [normalize_of_object hlisted, Members.get?_put, if_pos rfl, Checked.gives_some] at hcolumns
  obtain ⟨c, hc⟩ := Checked.exists_valid_of_mem hcolumns _ (List.mem_map_of_mem hcolumn)
  obtain ⟨split, hsplit, hget⟩ := exists_splitIndex name column
  replace hc : Column.check (splitIndex name (.object column)) = .valid c := hc
  rw [hsplit] at hc
  refine Column.nonneg_maxLength_of_check hc ?_ hn
  rw [hget _ (by decide), hget _ (by decide)]
  exact hw

theorem coherent_enhanced {names : List Value} {e? : Option Schema} (h : s.Coherent)
    (he : s.enhanced? names = .ok e?) : (e?.getD s).Coherent := by
  unfold enhanced? at he
  obtain ⟨columns, _, he⟩ := Log.bind_eq_ok_iff.mp he
  obtain ⟨added, _, he⟩ := Log.bind_eq_ok_iff.mp he
  split at he
  · obtain rfl : none = e? := Except.ok.inj he
    exact h
  · obtain ⟨e, hread, he⟩ := Log.bind_eq_ok_iff.mp he
    obtain rfl : some e = e? := Except.ok.inj he
    exact coherent_of_ofValue hread

theorem coherent_stamp {description : SchemaSource} {type id tag : String}
    (h : Freshness.stamp description type id tag = .ok s) : s.Coherent := by
  cases description with
  | read _ | raw _ =>
    obtain ⟨_, _, hread⟩ := Log.bind_eq_ok_iff.mp h
    exact coherent_of_ofValue hread

theorem coherent_stampClass {stamping : Freshness.Stamping} {name : String} {file : Path}
    {description : SchemaSource} (h : Freshness.stampClass stamping name file description = .ok s) :
    s.Coherent := by
  obtain ⟨_, _, h⟩ := Log.bind_eq_ok_iff.mp h
  obtain ⟨stamped, hstamped, h⟩ := Log.bind_eq_ok_iff.mp h
  cases hbase : stamping.baseColumns with
  | none =>
    rw [hbase] at h
    obtain rfl : stamped = s := Except.ok.inj h
    exact coherent_stamp hstamped
  | some names =>
    rw [hbase] at h
    obtain ⟨e?, he, h⟩ := Log.bind_eq_ok_iff.mp h
    obtain rfl : e?.getD stamped = s := Except.ok.inj h
    exact coherent_enhanced (coherent_stamp hstamped) he

theorem coherent_of_generateSchemas {stamping : Freshness.Stamping}
    {generator : Option Freshness.Generator} {files : Freshness.ClassFiles} {j : Log.Journal}
    {generated : Freshness.Generated}
    (h : (Freshness.generateSchemas stamping generator files).outcome j = .ok generated) :
    ∀ p ∈ generated.schemas, p.2.Coherent := by
  obtain ⟨_, hall⟩ := Freshness.stampAll_of_generateSchemas h
  have hstamped := Freshness.stampAll_eq_ok_iff.mp hall
  generalize generated.schemas = schemas at hstamped
  clear h hall
  induction hstamped with
  | nil => exact nofun
  | cons hfirst _ ih =>
    obtain ⟨_, _, _, hfirst⟩ := hfirst
    exact List.forall_mem_cons.mpr ⟨coherent_stampClass hfirst, ih⟩

/-! ## Indices of columns -/

/-- An index over columns that are all found, valid as a declared one would have to be, that marks
the first of its columns of arrays. -/
structure IsIndexOver (s : Schema) (names : List String) (i : Index) : Prop where
  columns : i.columns = names
  found : ∀ name ∈ names, ∃ c, s.column? name = some c
  valid : Index.check (.object i.members) = .valid i
  marked : ∀ k, i.array = some k → ∃ name c, names[k]? = some name ∧ s.column? name = some c ∧
    c.type = .array
  first : ∀ k name c, names[k]? = some name → s.column? name = some c → c.type = .array →
    ∃ j, i.array = some j ∧ j ≤ k

theorem exists_column_of_mem {name : String} (h : name ∈ s.columnNames) :
    ∃ c, s.column? name = some c := by
  obtain ⟨p, hp, rfl⟩ := List.mem_map.mp h
  exact Option.isSome_iff_exists.mp (List.lookup_isSome_iff.mpr ⟨p, hp, beq_self_eq_true _⟩)

theorem Coherent.isIndexOver (h : s.Coherent) {p : String × Column} (hp : p ∈ s.columns)
    {names : List String} (hnames : p.2.index = some names) (hne : names ≠ []) :
    ∃ i, Ddl.Target.columnIndex? s p.2 = some i ∧ s.IsIndexOver names i := by
  have hindex : Ddl.Target.columnIndex? s p.2 = some
      { columns := names
        array := names.findIdx? fun name => (s.column? name).any fun c => c.type == .array } := by
    unfold Ddl.Target.columnIndex?
    rw [hnames]
    cases names with
    | nil => exact absurd rfl hne
    | cons name names => rfl
  have hfound : ∀ name ∈ names, ∃ c, s.column? name = some c :=
    fun name hname => exists_column_of_mem (h.columnIndices p hp _ hnames _ hname)
  refine ⟨_, hindex, rfl, hfound,
    Index.check_members ⟨hne, Index.checkArray_eq_valid_iff.mpr ⟨fun k hk => ?_, rfl⟩⟩, ?_, ?_⟩
  · exact (List.findIdx?_eq_some_iff_getElem.mp hk).1
  · intro k hk
    obtain ⟨hlt, hany, _⟩ := List.findIdx?_eq_some_iff_getElem.mp hk
    obtain ⟨c, hc, harray⟩ := (Option.any_eq_true _ _).mp hany
    exact ⟨_, c, List.getElem?_eq_getElem hlt, hc, beq_iff_eq.mp harray⟩
  · intro k name c hname hc harray
    obtain ⟨hlt, rfl⟩ := List.getElem?_eq_some_iff.mp hname
    have hany : (s.column? names[k]).any (fun c => c.type == .array) = true := by
      rw [hc]
      exact beq_iff_eq.mpr harray
    dsimp only
    cases hfind : names.findIdx? fun name => (s.column? name).any fun c => c.type == .array with
    | none =>
      have hnone := List.findIdx?_eq_none_iff.mp hfind _ (List.getElem_mem hlt)
      exact absurd (hany.symm.trans hnone) nofun
    | some j =>
      obtain ⟨_, _, hbefore⟩ := List.findIdx?_eq_some_iff_getElem.mp hfind
      exact ⟨j, rfl, Nat.not_lt.mp fun hkj => hbefore k hkj hany⟩

/-- Every index that is collected could have been declared. -/
theorem Coherent.check_of_mem_indices (h : s.Coherent) :
    ∀ i ∈ Ddl.Target.indices s, Index.check (.object i.members) = .valid i := by
  intro i hi
  rcases List.mem_append.mp hi with hi | hi
  · have harray := Index.checkArray_eq_valid_iff.mpr ⟨h.indexArray i hi, rfl⟩
    exact Index.check_members ⟨(h.indexColumns i hi).1, harray⟩
  · obtain ⟨p, hp, hindex⟩ := List.mem_filterMap.mp hi
    cases hnames : p.2.index with
    | none => simp [Ddl.Target.columnIndex?, hnames] at hindex
    | some names =>
      cases names with
      | nil => simp [Ddl.Target.columnIndex?, hnames] at hindex
      | cons name names =>
        obtain ⟨_, hmade, hover⟩ := h.isIndexOver hp hnames (List.cons_ne_nil _ _)
        obtain rfl := Option.some.inj (hmade.symm.trans hindex)
        exact hover.valid

/-- **Schemas are coherent.** A schema that is read, from whatever value, is coherent, and the value
gives no column a negative length. Base columns, whichever are asked for, and stamps keep a schema
coherent. In a coherent schema every index that is collected is valid, and a column that asks for an
index over some columns gets the one over them: they are all found, and it marks the first of them
that holds arrays, if any does. -/
theorem schemas_coherent :
    (∀ v s, ofValue v = .ok s → s.Coherent ∧ NoNegativeLength v) ∧
      (∀ (s : Schema) (names : List Value) (e? : Option Schema), s.Coherent →
        s.enhanced? names = .ok e? → (e?.getD s).Coherent) ∧
      (∀ stamping generator files j generated,
        (Freshness.generateSchemas stamping generator files).outcome j = .ok generated →
          ∀ p ∈ generated.schemas, p.2.Coherent) ∧
      ∀ s : Schema, s.Coherent →
        (∀ i ∈ Ddl.Target.indices s, Index.check (.object i.members) = .valid i) ∧
        ∀ p ∈ s.columns, ∀ names, p.2.index = some names → names ≠ [] →
          ∃ i, Ddl.Target.columnIndex? s p.2 = some i ∧ s.IsIndexOver names i :=
  ⟨fun _ _ h => ⟨coherent_of_ofValue h, noNegativeLength_of_ofValue h⟩,
    fun _ _ _ h he => coherent_enhanced h he,
    fun _ _ _ _ _ h => coherent_of_generateSchemas h,
    fun _ h => ⟨h.check_of_mem_indices, fun _ hp _ hnames hne => h.isIndexOver hp hnames hne⟩⟩

/-- A column of arrays that asks for an index of its own, and one that asks for an index over both.
-/
def taggedDocument : Value :=
  .object [("table", .text "t"), ("required", .list [.text "a"]), ("fullText", .text "a"),
    ("properties", .object [
      ("tags", .object [("type", .text "array"), ("index", .text "")]),
      ("a", .object [("index", .text "a, tags"), ("maxLength", .text "5"),
        ("description", .text "one\ntwo")])]),
    ("indices", .list [.object [("properties", .text "tags, a"), ("array", .int 0)]]),
    ("relations", .object [("r", .object [("join", .text "a"), ("target", .text "u")])])]

/-- `taggedDocument` is read and enhanced, and the classes of `markedStamping` are generated. -/
theorem schemas_coherent_taggedDocument :
    ∃ s e generated, ofValue taggedDocument = .ok s ∧ s.Coherent ∧
      NoNegativeLength taggedDocument ∧ s.enhanced? [.text "id"] = .ok (some e) ∧ e.Coherent ∧
      (Freshness.generateSchemas Freshness.markedStamping (some Freshness.oneColumn)
        [("A", "a.py")]).outcome .empty = .ok generated ∧
      (∀ p ∈ generated.schemas, p.2.Coherent) ∧
      ∃ p ∈ s.columns, p.2.index = some ["a", "tags"] ∧
        ∃ i, Ddl.Target.columnIndex? s p.2 = some i ∧ s.IsIndexOver ["a", "tags"] i := by
  have hread : ((ofValue taggedDocument).toOption.map fun s =>
      (s.columns.map (·.2.index), (s.enhanced? [.text "id"]).toOption.join.isSome)) =
        some ([some ["tags"], some ["a", "tags"]], true) := by
    decide
  have hgenerated : ((Freshness.generateSchemas Freshness.markedStamping (some Freshness.oneColumn)
      [("A", "a.py")]).outcome .empty).toOption.isSome = true := by
    decide
  obtain ⟨s, hs, hfacts⟩ := Option.map_eq_some_iff.mp hread
  obtain ⟨hindices, henhanced⟩ := Prod.mk.inj hfacts
  obtain ⟨e, he⟩ := Option.isSome_iff_exists.mp henhanced
  obtain ⟨generated, hgenerated⟩ := Option.isSome_iff_exists.mp hgenerated
  have hs := Log.eq_ok_of_toOption hs
  have he := Log.eq_ok_of_toOption (Option.join_eq_some_iff.mp he)
  have hgenerated := Log.eq_ok_of_toOption hgenerated
  obtain ⟨hread, henhance, hgenerate, hmade⟩ := schemas_coherent
  obtain ⟨hcoherent, hlength⟩ := hread _ _ hs
  have hmem : some ["a", "tags"] ∈ s.columns.map (·.2.index) := by
    rw [hindices]
    exact List.mem_cons_of_mem _ List.mem_cons_self
  obtain ⟨p, hp, hnames⟩ := List.mem_map.mp hmem
  exact ⟨s, e, generated, hs, hcoherent, hlength, he, henhance s _ _ hcoherent he, hgenerated,
    hgenerate _ _ _ _ _ hgenerated, p, hp, hnames,
    (hmade s hcoherent).2 p hp _ hnames (List.cons_ne_nil _ _)⟩

end Schema

end SqlCompiler
