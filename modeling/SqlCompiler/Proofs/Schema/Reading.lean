import SqlCompiler.Proofs.Schema.Checking
import SqlCompiler.Proofs.Value.Document
import SqlCompiler.Schema.Read

/-!
# What reading a schema gives

A part of a schema is read from a document exactly if each of its fields is (`ReadFrom` and the
`checkFields_eq_valid_iff` of each part). What is read from a JSON document is in a normal form: a
date with a time has the type of dates, a description has one line, an index has columns and its
array position is one of them, a table without a name is named like its type, and every column that
is mentioned is declared (`Column.normal_of_check`, `Schema.normal_of_ofValue`).
-/

namespace SqlCompiler

open Checked

/-! ## Columns -/

namespace Column

/-- A column that is read from a document, which is in shape, field by field. -/
structure ReadFrom (data : Members) (c : Column) : Prop where
  type : Gives checkType .string (data.get? "type") c.type
  maxLength : Gives (optional nat) none
    ((data.get? "maxLength").or (data.get? "max_length")) c.maxLength
  minimum : Gives (optional Bound.check) none (data.get? "minimum") c.minimum
  maximum : Gives (optional Bound.check) none (data.get? "maximum") c.maximum
  exclusiveMinimum : Gives (optional Bound.check) none
    ((data.get? "exclusiveMinimum").or (data.get? "exclusive_minimum")) c.exclusiveMinimum
  exclusiveMaximum : Gives (optional Bound.check) none
    ((data.get? "exclusiveMaximum").or (data.get? "exclusive_maximum")) c.exclusiveMaximum
  primaryKey : Gives bool false
    ((data.get? "primaryKey").or (data.get? "primary_key")) c.primaryKey
  unique : Gives bool false (data.get? "unique") c.unique
  default : Gives valid .null (data.get? "default") c.default
  dateOn : Gives (optional (name DateOn.ofName?)) none
    ((data.get? "dateOn").or (data.get? "date_on")) c.dateOn
  generation : Gives (optional Generation.check) none
    ((data.get? "as").or (data.get? "as_")) c.generation
  constraint : Gives (optional text) none (data.get? "constraint") c.constraint
  index : Gives (fun v => optional (list text) (namesOfValue v)) none (data.get? "index") c.index
  description : Gives (fun v => (·.map firstLine) <$> optional text v) none
    (data.get? "description") c.description
  format : Gives (optional text) none (data.get? "format") c.format
  readOnly : Gives bool false ((data.get? "readOnly").or (data.get? "read_only")) c.readOnly

theorem checkFields_eq_valid_iff {data : Members} {c : Column} :
    checkFields data = .valid c ↔ c.ReadFrom data := by
  constructor
  · intro h
    obtain ⟨_, h15, readOnly, hreadOnly, rfl⟩ := seq_eq_valid_iff.mp h
    obtain ⟨_, h14, format, hformat, rfl⟩ := seq_eq_valid_iff.mp h15
    obtain ⟨_, h13, description, hdescription, rfl⟩ := seq_eq_valid_iff.mp h14
    obtain ⟨_, h12, index, hindex, rfl⟩ := seq_eq_valid_iff.mp h13
    obtain ⟨_, h11, constraint, hconstraint, rfl⟩ := seq_eq_valid_iff.mp h12
    obtain ⟨_, h10, generation, hgeneration, rfl⟩ := seq_eq_valid_iff.mp h11
    obtain ⟨_, h9, dateOn, hdateOn, rfl⟩ := seq_eq_valid_iff.mp h10
    obtain ⟨_, h8, default, hdefault, rfl⟩ := seq_eq_valid_iff.mp h9
    obtain ⟨_, h7, unique, hunique, rfl⟩ := seq_eq_valid_iff.mp h8
    obtain ⟨_, h6, primaryKey, hprimaryKey, rfl⟩ := seq_eq_valid_iff.mp h7
    obtain ⟨_, h5, exclusiveMaximum, hexclusiveMaximum, rfl⟩ := seq_eq_valid_iff.mp h6
    obtain ⟨_, h4, exclusiveMinimum, hexclusiveMinimum, rfl⟩ := seq_eq_valid_iff.mp h5
    obtain ⟨_, h3, maximum, hmaximum, rfl⟩ := seq_eq_valid_iff.mp h4
    obtain ⟨_, h2, minimum, hminimum, rfl⟩ := seq_eq_valid_iff.mp h3
    obtain ⟨_, h1, maxLength, hmaxLength, rfl⟩ := seq_eq_valid_iff.mp h2
    obtain ⟨type, htype, rfl⟩ := map_eq_valid_iff.mp h1
    exact {
      type := field_self_eq_valid_iff.mp htype
      maxLength := field_eq_valid_iff.mp hmaxLength
      minimum := field_self_eq_valid_iff.mp hminimum
      maximum := field_self_eq_valid_iff.mp hmaximum
      exclusiveMinimum := field_eq_valid_iff.mp hexclusiveMinimum
      exclusiveMaximum := field_eq_valid_iff.mp hexclusiveMaximum
      primaryKey := field_eq_valid_iff.mp hprimaryKey
      unique := field_self_eq_valid_iff.mp hunique
      default := field_self_eq_valid_iff.mp hdefault
      dateOn := field_eq_valid_iff.mp hdateOn
      generation := field_eq_valid_iff.mp hgeneration
      constraint := field_self_eq_valid_iff.mp hconstraint
      index := field_self_eq_valid_iff.mp hindex
      description := field_self_eq_valid_iff.mp hdescription
      format := field_self_eq_valid_iff.mp hformat
      readOnly := field_eq_valid_iff.mp hreadOnly }
  · intro h
    unfold checkFields
    dsimp only
    rw [field_self_eq_valid_iff.mpr h.type, field_eq_valid_iff.mpr h.maxLength,
      field_self_eq_valid_iff.mpr h.minimum, field_self_eq_valid_iff.mpr h.maximum,
      field_eq_valid_iff.mpr h.exclusiveMinimum, field_eq_valid_iff.mpr h.exclusiveMaximum,
      field_eq_valid_iff.mpr h.primaryKey, field_self_eq_valid_iff.mpr h.unique,
      field_self_eq_valid_iff.mpr h.default, field_eq_valid_iff.mpr h.dateOn,
      field_eq_valid_iff.mpr h.generation, field_self_eq_valid_iff.mpr h.constraint,
      field_self_eq_valid_iff.mpr h.index, field_self_eq_valid_iff.mpr h.description,
      field_self_eq_valid_iff.mpr h.format, field_eq_valid_iff.mpr h.readOnly]
    rfl

/-- The document of a column with its type, by default that of texts. -/
def withType (data : Members) : Members :=
  if (data.getD "type").isPresent then data else data.put "type" (.text "string")

/-- The document of a column with its type, which is that of dates for a date with a time. -/
def typed (data : Members) : Members :=
  match (withType data).get? "format" with
  | some (.text "date-time") => (withType data).put "type" (.text "date")
  | _ => withType data

theorem normalize_eq (data : Members) :
    normalize data = ["primaryKey", "primary_key", "unique"].foldl setFlag (typed data) := rfl

theorem get?_setFlag {key flag : String} (h : key ≠ flag) (data : Members) :
    (setFlag data flag).get? key = data.get? key := by
  unfold setFlag
  split
  · rw [Members.get?_put, if_neg h]
  · rfl

theorem setFlag_of_ne_text {data : Members} {flag : String}
    (h : ∀ s, data.get? flag ≠ some (.text s)) : setFlag data flag = data := by
  unfold setFlag
  split
  · rename_i s hs
    exact absurd hs (h s)
  · rfl

theorem get?_withType {key : String} (h : key ≠ "type") (data : Members) :
    (withType data).get? key = data.get? key := by
  unfold withType
  split
  · rfl
  · rw [Members.get?_put, if_neg h]

theorem get?_typed {key : String} (h : key ≠ "type") (data : Members) :
    (typed data).get? key = data.get? key := by
  unfold typed
  split
  · rw [Members.get?_put, if_neg h, get?_withType h]
  · exact get?_withType h data

theorem get?_typed_dateTime {data : Members} (h : data.get? "format" = some (.text "date-time")) :
    (typed data).get? "type" = some (.text "date") := by
  unfold typed
  rw [get?_withType (by decide), h]
  exact (Members.get?_put _ _ _ _).trans (if_pos rfl)

theorem get?_typed_of_ne_dateTime {data : Members}
    (h : data.get? "format" ≠ some (.text "date-time")) : (typed data).get? "type" =
      if (data.getD "type").isPresent then data.get? "type" else some (.text "string") := by
  unfold typed
  rw [get?_withType (by decide)]
  split
  · rename_i hformat
    exact absurd hformat h
  · unfold withType
    split
    · rfl
    · rw [Members.get?_put, if_pos rfl]

theorem get?_normalize {key : String} (htype : key ≠ "type")
    (hflag : key ∉ ["primaryKey", "primary_key", "unique"]) (data : Members) :
    (normalize data).get? key = data.get? key := by
  simp only [List.mem_cons, List.not_mem_nil, or_false, not_or] at hflag
  rw [normalize_eq]
  simp only [List.foldl_cons, List.foldl_nil]
  rw [get?_setFlag hflag.2.2, get?_setFlag hflag.2.1, get?_setFlag hflag.1, get?_typed htype]

theorem checkType_name (t : ColumnType) : checkType (.text t.name) = .valid t := by
  have hlower : Text.lower t.name = t.name := by
    cases t <;> decide
  have hjson : t.name ≠ "json" := by
    cases t <;> decide
  unfold checkType
  dsimp only
  rw [hlower, if_neg hjson]
  unfold named
  rw [ColumnType.ofName?_name]

/-- What every column that is read from a JSON document is like. -/
structure Normal (c : Column) : Prop where
  type : c.format = some "date-time" → c.type = .date
  description : c.description.map firstLine = c.description
  default : c.default.isJson = true

end Column

theorem firstLine_firstLine (s : String) : firstLine (firstLine s) = firstLine s := by
  have hall : ∀ c ∈ s.toList.takeWhile (· != '\n'), (c != '\n') = true :=
    List.all_eq_true.mp List.all_takeWhile
  have hagain : (s.toList.takeWhile (· != '\n') ++ []).takeWhile (· != '\n') = _ :=
    List.takeWhile_append_of_pos hall
  rw [List.append_nil, List.takeWhile_nil, List.append_nil] at hagain
  unfold firstLine
  rw [String.toList_ofList, hagain]

theorem Checked.eq_text_of_optional {v : Value} (hv : v.isJson = true) {s : String}
    (h : optional text v = .valid (some s)) : v = .text s := by
  cases v with
  | text t =>
    cases h
    rfl
  | bytes bs => cases hv
  | _ => cases h

/-- A text that was read stands in the document. -/
theorem Checked.get?_eq_text {data : Members} (hdata : Value.haveJson data = true) {key t : String}
    (h : Gives (optional text) none (data.get? key) (some t)) : data.get? key = some (.text t) := by
  rcases hget : data.get? key with _ | v
  · rw [hget, gives_none] at h
    cases h
  · rw [hget, gives_some] at h
    have hv := Value.isJson_of_mem hdata (Members.mem_of_get? hget)
    exact congrArg some (eq_text_of_optional hv h)

namespace Column

/-- What is read from a JSON document is normal. -/
theorem normal_of_check {v : Value} (hv : v.isJson = true) {c : Column} (h : check v = .valid c) :
    c.Normal := by
  cases v with
  | object data =>
    have hread := checkFields_eq_valid_iff.mp h
    constructor
    case type =>
      intro hc
      have hformat := hread.format
      rw [get?_normalize (by decide) (by decide), hc] at hformat
      have hget := get?_eq_text hv hformat
      have htype := hread.type
      rw [normalize_eq] at htype
      simp only [List.foldl_cons, List.foldl_nil] at htype
      rw [get?_setFlag (by decide), get?_setFlag (by decide), get?_setFlag (by decide),
        get?_typed_dateTime hget, gives_some] at htype
      exact (valid.inj ((checkType_name .date).symm.trans htype)).symm
    case description =>
      have hdescription := hread.description
      rcases hget : (normalize data).get? "description" with _ | w
      · rw [hget, gives_none] at hdescription
        rw [hdescription]
        rfl
      · rw [hget, gives_some] at hdescription
        obtain ⟨line?, _, hline⟩ := map_eq_valid_iff.mp hdescription
        rw [← hline, Option.map_map]
        exact congrArg (Option.map · line?) (funext firstLine_firstLine)
    case default =>
      have hdefault := hread.default
      rw [get?_normalize (by decide) (by decide)] at hdefault
      rcases hget : Members.get? data "default" with _ | w
      · rw [hget, gives_none] at hdefault
        rw [hdefault]
        rfl
      · rw [hget, gives_some] at hdefault
        rw [← valid.inj hdefault]
        exact Value.isJson_of_mem hv (Members.mem_of_get? hget)
  | _ => cases h

end Column

/-! ## Indices, relations and checks -/

namespace Index

/-- An index that is read from a document, field by field. -/
structure ReadFrom (data : Members) (i : Index) : Prop where
  columns : ∃ v, data.get? "properties" = some v ∧ checkColumns v = .valid i.columns
  array : Gives (optional nat) none (data.get? "array") i.array
  unique : Gives bool false (data.get? "unique") i.unique
  subType : Gives (optional text) none ((data.get? "subType").or (data.get? "sub_type")) i.subType
  name : Gives (optional text) none (data.get? "name") i.name

theorem checkArray_eq_valid_iff {i i' : Index} :
    i.checkArray = .valid i' ↔ (∀ position, i.array = some position → position < i.columns.length) ∧
      i = i' := by
  unfold checkArray
  cases harray : i.array with
  | none =>
    constructor
    · intro h
      exact ⟨nofun, valid.inj h⟩
    · rintro ⟨_, rfl⟩
      rfl
  | some position =>
    dsimp only
    by_cases hinside : position < i.columns.length
    · rw [if_pos hinside]
      constructor
      · intro h
        refine ⟨fun position' heq => ?_, valid.inj h⟩
        rwa [← Option.some.inj heq]
      · rintro ⟨_, rfl⟩
        rfl
    · rw [if_neg hinside]
      exact iff_of_false nofun fun h => hinside (h.1 position rfl)

theorem checkFields_eq_valid_iff {data : Members} {i : Index} :
    checkFields data = .valid i ↔ i.ReadFrom data ∧ i.checkArray = .valid i := by
  unfold checkFields
  rw [andThen_eq_valid_iff]
  constructor
  · rintro ⟨i', h, harray⟩
    obtain ⟨hinside, rfl⟩ := checkArray_eq_valid_iff.mp harray
    obtain ⟨_, h4, name, hname, rfl⟩ := seq_eq_valid_iff.mp h
    obtain ⟨_, h3, subType, hsubType, rfl⟩ := seq_eq_valid_iff.mp h4
    obtain ⟨_, h2, unique, hunique, rfl⟩ := seq_eq_valid_iff.mp h3
    obtain ⟨_, h1, array, harray', rfl⟩ := seq_eq_valid_iff.mp h2
    obtain ⟨columns, hcolumns, rfl⟩ := map_eq_valid_iff.mp h1
    exact ⟨{
      columns := requiredField_eq_valid_iff.mp hcolumns
      array := field_self_eq_valid_iff.mp harray'
      unique := field_self_eq_valid_iff.mp hunique
      subType := field_eq_valid_iff.mp hsubType
      name := field_self_eq_valid_iff.mp hname }, harray⟩
  · rintro ⟨h, harray⟩
    refine ⟨i, ?_, harray⟩
    rw [requiredField_eq_valid_iff.mpr h.columns, field_self_eq_valid_iff.mpr h.array,
      field_self_eq_valid_iff.mpr h.unique, field_eq_valid_iff.mpr h.subType,
      field_self_eq_valid_iff.mpr h.name]
    rfl

/-- What every index that is read from a document is like. -/
structure Normal (i : Index) : Prop where
  columns : i.columns ≠ []
  array : i.checkArray = .valid i

theorem checkColumns_eq_valid_iff {v : Value} {columns : List String} :
    checkColumns v = .valid columns ↔
      list text (namesOfValue v) = .valid columns ∧ columns ≠ [] := by
  unfold checkColumns
  rw [andThen_eq_valid_iff]
  constructor
  · rintro ⟨names, hnames, h⟩
    cases names with
    | nil => cases h
    | cons name names =>
      cases h
      exact ⟨hnames, nofun⟩
  · rintro ⟨h, hne⟩
    refine ⟨columns, h, if_neg ?_⟩
    simpa using hne

theorem normal_of_check {v : Value} {i : Index} (h : check v = .valid i) : i.Normal := by
  cases v with
  | object data =>
    obtain ⟨hread, harray⟩ := checkFields_eq_valid_iff.mp h
    obtain ⟨_, _, hcolumns⟩ := hread.columns
    exact ⟨(checkColumns_eq_valid_iff.mp hcolumns).2, harray⟩
  | _ => cases h

end Index

namespace Relation

/-- A relation that is read from a document, field by field. -/
structure ReadFrom (data : Members) (r : Relation) : Prop where
  column : ∃ v, data.get? "join" = some v ∧ text v = .valid r.column
  target : ∃ v, data.get? "target" = some v ∧ text v = .valid r.target
  type : Gives (name RelationType.ofName?) .manyToOne (data.get? "type") r.type
  onDelete : Gives (optional text) none (data.get? "delete") r.onDelete
  onUpdate : Gives (optional text) none (data.get? "update") r.onUpdate

theorem check_of_readFrom {data : Members} {r : Relation} (h : r.ReadFrom data) :
    check (.object data) = .valid r := by
  unfold check
  dsimp only
  rw [requiredField_eq_valid_iff.mpr h.column, requiredField_eq_valid_iff.mpr h.target,
    field_self_eq_valid_iff.mpr h.type, field_self_eq_valid_iff.mpr h.onDelete,
    field_self_eq_valid_iff.mpr h.onUpdate]
  rfl

end Relation

namespace CheckConstraint

/-- A check that is read from a document, field by field. -/
structure ReadFrom (data : Members) (c : CheckConstraint) : Prop where
  name : Gives (optional text) none (data.get? "name") c.name
  check : ∃ v, data.get? "check" = some v ∧ text v = .valid c.check
  enforced : Gives (optional bool) none (data.get? "enforced") c.enforced
  provider : Gives (optional checkProvider) none (data.get? "provider") c.provider
  comment : Gives (optional text) none (data.get? "comment") c.comment

theorem check?_of_readFrom {data : Members} {c : CheckConstraint} (h : c.ReadFrom data) :
    check? (.object data) = .valid c := by
  unfold check?
  dsimp only
  rw [field_self_eq_valid_iff.mpr h.name, requiredField_eq_valid_iff.mpr h.check,
    field_self_eq_valid_iff.mpr h.enforced, field_self_eq_valid_iff.mpr h.provider,
    field_self_eq_valid_iff.mpr h.comment]
  rfl

end CheckConstraint

/-! ## Schemas -/

namespace Schema

/-- A schema that is read from a document, which is in shape, field by field. -/
structure ReadFrom (data : Members) (s : Schema) : Prop where
  table : Gives (optional text) none (data.get? "table") s.table
  type : Gives (optional text) none (data.get? "type") s.type
  description : Gives (optional text) none (data.get? "description") s.description
  columns : Gives (object Column.check) [] (data.get? "properties") s.columns
  required : Gives (list text) [] (data.get? "required") s.required
  fulltext : Gives (list text) [] ((data.get? "fullText").or (data.get? "full_text")) s.fulltext
  indices : Gives (list Index.check) [] (data.get? "indices") s.indices
  relations : Gives (object Relation.check) [] (data.get? "relations") s.relations
  constraints : Gives (list Constraint.read) [] (data.get? "constraints") s.constraints
  id : Gives (optional text) none ((data.get? "$id").or (data.get? "id")) s.id
  etag : Gives (optional text) none (data.get? "etag") s.etag

/-- The members that are read as fields of the table itself. -/
def bodyKeys : List String :=
  ["description", "properties", "required", "fullText", "full_text", "indices", "relations",
    "constraints"]

/-- Documents with the same body differ in the names of the table, its id and its tag only. -/
theorem ReadFrom.congr {data data' : Members} {s : Schema} (h : s.ReadFrom data)
    (hbody : ∀ key ∈ bodyKeys, data'.get? key = data.get? key)
    {table type id etag : Option String}
    (htable : Gives (optional text) none (data'.get? "table") table)
    (htype : Gives (optional text) none (data'.get? "type") type)
    (hid : Gives (optional text) none ((data'.get? "$id").or (data'.get? "id")) id)
    (hetag : Gives (optional text) none (data'.get? "etag") etag) :
    ReadFrom data' { s with table := table, type := type, id := id, etag := etag } where
  table := htable
  type := htype
  description := hbody "description" (by decide) ▸ h.description
  columns := hbody "properties" (by decide) ▸ h.columns
  required := hbody "required" (by decide) ▸ h.required
  fulltext := hbody "fullText" (by decide) ▸ hbody "full_text" (by decide) ▸ h.fulltext
  indices := hbody "indices" (by decide) ▸ h.indices
  relations := hbody "relations" (by decide) ▸ h.relations
  constraints := hbody "constraints" (by decide) ▸ h.constraints
  id := hid
  etag := hetag

theorem eq_of_checkReferences {s s' : Schema} (h : s.checkReferences = .valid s') : s = s' := by
  unfold checkReferences at h
  split at h
  · cases h
  · exact valid.inj h

theorem checkFields_eq_valid_iff {data : Members} {s : Schema} :
    checkFields data = .valid s ↔ s.ReadFrom data ∧ s.checkReferences = .valid s := by
  unfold checkFields
  rw [andThen_eq_valid_iff]
  constructor
  · rintro ⟨s', h, hreferences⟩
    obtain rfl := eq_of_checkReferences hreferences
    obtain ⟨_, h10, etag, hetag, rfl⟩ := seq_eq_valid_iff.mp h
    obtain ⟨_, h9, id, hid, rfl⟩ := seq_eq_valid_iff.mp h10
    obtain ⟨_, h8, constraints, hconstraints, rfl⟩ := seq_eq_valid_iff.mp h9
    obtain ⟨_, h7, relations, hrelations, rfl⟩ := seq_eq_valid_iff.mp h8
    obtain ⟨_, h6, indices, hindices, rfl⟩ := seq_eq_valid_iff.mp h7
    obtain ⟨_, h5, fulltext, hfulltext, rfl⟩ := seq_eq_valid_iff.mp h6
    obtain ⟨_, h4, required, hrequired, rfl⟩ := seq_eq_valid_iff.mp h5
    obtain ⟨_, h3, columns, hcolumns, rfl⟩ := seq_eq_valid_iff.mp h4
    obtain ⟨_, h2, description, hdescription, rfl⟩ := seq_eq_valid_iff.mp h3
    obtain ⟨_, h1, type, htype, rfl⟩ := seq_eq_valid_iff.mp h2
    obtain ⟨table, htable, rfl⟩ := map_eq_valid_iff.mp h1
    exact ⟨{
      table := field_self_eq_valid_iff.mp htable
      type := field_self_eq_valid_iff.mp htype
      description := field_self_eq_valid_iff.mp hdescription
      columns := field_self_eq_valid_iff.mp hcolumns
      required := field_self_eq_valid_iff.mp hrequired
      fulltext := field_eq_valid_iff.mp hfulltext
      indices := field_self_eq_valid_iff.mp hindices
      relations := field_self_eq_valid_iff.mp hrelations
      constraints := field_self_eq_valid_iff.mp hconstraints
      id := field_eq_valid_iff.mp hid
      etag := field_self_eq_valid_iff.mp hetag }, hreferences⟩
  · rintro ⟨h, hreferences⟩
    refine ⟨s, ?_, hreferences⟩
    rw [field_self_eq_valid_iff.mpr h.table, field_self_eq_valid_iff.mpr h.type,
      field_self_eq_valid_iff.mpr h.description, field_self_eq_valid_iff.mpr h.columns,
      field_self_eq_valid_iff.mpr h.required, field_eq_valid_iff.mpr h.fulltext,
      field_self_eq_valid_iff.mpr h.indices, field_self_eq_valid_iff.mpr h.relations,
      field_self_eq_valid_iff.mpr h.constraints, field_eq_valid_iff.mpr h.id,
      field_self_eq_valid_iff.mpr h.etag]
    rfl

theorem ofValue_object_eq_ok_iff {data : Members} {s : Schema} :
    ofValue (.object data) = .ok s ↔ checkFields (normalize data) = .valid s := by
  delta ofValue
  dsimp only
  cases checkFields (normalize data) with
  | valid s' =>
    constructor
    · intro h
      exact congrArg valid (Except.ok.inj h)
    · intro h
      exact congrArg Except.ok (valid.inj h)
  | invalid issues => exact iff_of_false nofun nofun

/-- A schema is read from an object if all its fields are and it mentions declared columns only. -/
theorem ofValue_eq_ok_iff {v : Value} {s : Schema} : ofValue v = .ok s ↔
    ∃ data, v = .object data ∧ s.ReadFrom (normalize data) ∧ s.checkReferences = .valid s := by
  cases v with
  | object data =>
    rw [ofValue_object_eq_ok_iff, checkFields_eq_valid_iff]
    constructor
    · intro h
      exact ⟨data, rfl, h⟩
    · rintro ⟨_, hdata, h⟩
      cases hdata
      exact h
  | _ => exact iff_of_false nofun fun ⟨_, h, _⟩ => by cases h

theorem get?_nameTable {key : String} (h : key ≠ "table") (data : Members) :
    (nameTable data).get? key = data.get? key := by
  unfold nameTable
  dsimp only
  split
  · rw [Members.get?_put, if_neg h]
  · rfl

theorem get?_splitMember {key member : String} (h : key ≠ member) (data : Members) :
    (splitMember data member).get? key = data.get? key := by
  unfold splitMember
  split
  · rw [Members.get?_put, if_neg h]
  · rfl

theorem splitMember_of_ne_text {data : Members} {member : String}
    (h : ∀ t, data.get? member ≠ some (.text t)) : splitMember data member = data := by
  unfold splitMember
  split
  · rename_i t ht
    exact absurd ht (h t)
  · rfl

/-- The document of a schema before its columns are brought into shape. -/
def listed (data : Members) : Members :=
  ["fullText", "full_text"].foldl splitMember (nameTable data)

theorem get?_listed {key : String} (h : key ∉ ["fullText", "full_text"]) (data : Members) :
    (listed data).get? key = (nameTable data).get? key := by
  simp only [List.mem_cons, List.not_mem_nil, or_false, not_or] at h
  unfold listed
  simp only [List.foldl_cons, List.foldl_nil]
  rw [get?_splitMember h.2, get?_splitMember h.1]

theorem normalize_of_object {data columns : Members}
    (h : (listed data).get? "properties" = some (.object columns)) : normalize data =
      (listed data).put "properties" (.object (columns.map fun p => (p.1, splitIndex p.1 p.2))) := by
  unfold listed at h
  unfold normalize
  simp only [h]
  rfl

theorem normalize_of_ne_object {data : Members}
    (h : ∀ columns, (listed data).get? "properties" ≠ some (.object columns)) :
    normalize data = listed data := by
  unfold normalize
  dsimp only
  split
  · rename_i columns hcolumns
    exact absurd hcolumns (h columns)
  · rfl

theorem get?_normalize {key : String} (h : key ≠ "properties") (data : Members) :
    (normalize data).get? key = (listed data).get? key := by
  by_cases hobject : ∃ columns, (listed data).get? "properties" = some (.object columns)
  · obtain ⟨columns, hcolumns⟩ := hobject
    rw [normalize_of_object hcolumns, Members.get?_put, if_neg h]
  · rw [normalize_of_ne_object fun columns hcolumns => hobject ⟨columns, hcolumns⟩]

/-- What every schema that is read from a JSON document is like. -/
structure Normal (s : Schema) : Prop where
  table : ∀ t, s.type = some t → t ≠ "" → s.table = none ∨ s.table = some "" →
    s.table = some (Text.lower t)
  columns : ∀ p ∈ s.columns, p.2.Normal
  indices : ∀ i ∈ s.indices, i.Normal
  references : s.checkReferences = .valid s

theorem areJson_map_text (names : List String) : Value.areJson (names.map .text) = true := by
  induction names with
  | nil => rfl
  | cons name names ih => exact ih

theorem haveJson_put {members : Members} (h : Value.haveJson members = true) (k : String)
    {v : Value} (hv : v.isJson = true) : Value.haveJson (members.put k v) = true := by
  induction members with
  | nil => exact Bool.and_eq_true_iff.mpr ⟨hv, rfl⟩
  | cons m members ih =>
    obtain ⟨hm, hrest⟩ := Bool.and_eq_true_iff.mp h
    unfold Members.put
    split
    · exact Bool.and_eq_true_iff.mpr ⟨hv, hrest⟩
    · exact Bool.and_eq_true_iff.mpr ⟨hm, ih hrest⟩

theorem isJson_splitIndex (name : String) {v : Value} (hv : v.isJson = true) :
    (splitIndex name v).isJson = true := by
  cases v with
  | object data =>
    unfold splitIndex
    dsimp only
    split
    · exact haveJson_put hv "index" (areJson_map_text _)
    · exact hv
  | _ => exact hv

/-- A table without a name is named like its type. -/
theorem get?_nameTable_table {data : Members} {t : String} (ht : data.get? "type" = some (.text t))
    (hne : t ≠ "") : (nameTable data).get? "table" =
      if (data.getD "table").isPresent then data.get? "table" else some (.text (Text.lower t)) := by
  have htype : data.getD "type" = .text t := by
    unfold Members.getD
    rw [ht]
    rfl
  have hpresent : (data.getD "type").isPresent = true := by
    rw [htype]
    simpa [Value.isPresent] using hne
  unfold nameTable
  dsimp only
  rw [hpresent, Bool.and_true]
  cases (data.getD "table").isPresent with
  | true => rfl
  | false =>
    refine (Members.get?_put _ _ _ _).trans ((if_pos rfl).trans ?_)
    rw [htype]
    rfl

theorem exists_of_list {α : Type} {check : Value → Checked α} {v : Value} {as : List α}
    (h : list check v = .valid as) : ∀ a ∈ as, ∃ w, check w = .valid a := by
  have hitems : ∀ items, itemsFrom check 0 items = .valid as →
      ∀ a ∈ as, ∃ w, check w = .valid a := by
    intro items h a ha
    obtain ⟨w, _, hw⟩ := exists_mem_of_itemsFrom h a ha
    exact ⟨w, hw⟩
  cases v with
  | list items | tuple items | set items | frozenSet items => exact hitems items h
  | _ => cases h

/-- The columns of a schema come from values that JSON has. -/
theorem exists_of_columns {data : Members} (hdata : Value.haveJson data = true)
    {columns : List (String × Column)}
    (h : Gives (object Column.check) [] ((normalize data).get? "properties") columns) :
    ∀ p ∈ columns, ∃ v : Value, v.isJson = true ∧ Column.check v = .valid p.2 := by
  have hlisted : (listed data).get? "properties" = data.get? "properties" := by
    rw [get?_listed (by decide), get?_nameTable (by decide)]
  intro p hp
  by_cases hobject : ∃ members, (listed data).get? "properties" = some (.object members)
  · obtain ⟨members, hmembers⟩ := hobject
    rw [normalize_of_object hmembers, Members.get?_put, if_pos rfl, gives_some] at h
    obtain ⟨v, hv, hcheck⟩ := exists_mem_of_members h p hp
    obtain ⟨⟨name, column⟩, hcolumn, heq⟩ := List.mem_map.mp hv
    cases heq
    rw [hlisted] at hmembers
    have hobject : Value.haveJson members = true :=
      Value.isJson_of_mem hdata (Members.mem_of_get? hmembers)
    have hjson : column.isJson = true := Value.isJson_of_mem hobject hcolumn
    exact ⟨_, isJson_splitIndex _ hjson, hcheck⟩
  · rw [normalize_of_ne_object fun members hmembers => hobject ⟨members, hmembers⟩] at h
    rcases hget : (listed data).get? "properties" with _ | w
    · rw [hget, gives_none] at h
      rw [h] at hp
      cases hp
    · rw [hget, gives_some] at h
      cases w with
      | object members => exact absurd ⟨members, hget⟩ hobject
      | _ => cases h

theorem normal_of_mem_indices {data : Members} {s : Schema} (h : s.ReadFrom data) :
    ∀ i ∈ s.indices, i.Normal := by
  intro i hi
  have hindices := h.indices
  rcases hget : data.get? "indices" with _ | w
  · rw [hget, gives_none] at hindices
    rw [hindices] at hi
    cases hi
  · rw [hget, gives_some] at hindices
    obtain ⟨w', hw'⟩ := exists_of_list hindices i hi
    exact Index.normal_of_check hw'

/-- What is read from a JSON document is normal. -/
theorem normal_of_ofValue {v : Value} (hv : v.isJson = true) {s : Schema} (h : ofValue v = .ok s) :
    s.Normal := by
  obtain ⟨data, rfl, hread, hreferences⟩ := ofValue_eq_ok_iff.mp h
  constructor
  case table =>
    intro t ht hne htable
    have htype := hread.type
    rw [get?_normalize (by decide), get?_listed (by decide), get?_nameTable (by decide),
      ht] at htype
    have hnamed := hread.table
    rw [get?_normalize (by decide), get?_listed (by decide),
      get?_nameTable_table (get?_eq_text hv htype) hne] at hnamed
    by_cases hpresent : (Members.getD data "table").isPresent = true
    · rw [if_pos hpresent] at hnamed
      unfold Members.getD at hpresent
      rcases htable with htable | htable
      · rw [htable] at hnamed
        rcases hget : Members.get? data "table" with _ | w
        · rw [hget] at hpresent
          cases hpresent
        · rw [hget] at hnamed hpresent
          rw [gives_some] at hnamed
          cases w with
          | null => cases hpresent
          | _ =>
            obtain ⟨_, _, hsome⟩ := map_eq_valid_iff.mp hnamed
            cases hsome
      · rw [htable] at hnamed
        rw [get?_eq_text hv hnamed] at hpresent
        cases hpresent
    · rw [if_neg hpresent, gives_some] at hnamed
      exact (valid.inj hnamed).symm
  case columns =>
    intro p hp
    obtain ⟨w, hw, hcheck⟩ := exists_of_columns hv hread.columns p hp
    exact Column.normal_of_check hw hcheck
  case indices => exact normal_of_mem_indices hread
  case references => exact hreferences

end Schema

end SqlCompiler
