import SqlCompiler.Proofs.Lists
import SqlCompiler.Proofs.Log.Outcome
import SqlCompiler.Proofs.Schema.Reading

/-!
# Schemas and their documents

The document of a schema that was read from a JSON document can be read again. It gives the same
schema with its column defaults settled (`ofValue_document`): null stands for infinite numbers in
the document, and it is all that gets lost.
-/

namespace SqlCompiler

open Checked

/-! ## Columns -/

namespace Column

/-- A column with its default in document form. -/
def settled (c : Column) : Column :=
  { c with default := c.default.settled }

/-- What the document of a column is read as if it has `default` in it: a date with a time gets the
type of dates, and a description its first line. -/
def reread (c : Column) (default : Value) : Column :=
  { c with
    type := if c.format = some "date-time" then .date else c.type
    default := default
    description := c.description.map firstLine }

theorem reread_of_normal {c : Column} (h : c.Normal) (default : Value) :
    c.reread default = { c with default := default } := by
  have htype : (if c.format = some "date-time" then .date else c.type) = c.type := by
    by_cases hformat : c.format = some "date-time"
    · rw [if_pos hformat, h.type hformat]
    · rw [if_neg hformat]
  unfold reread
  rw [htype, h.description]

/-- The document of a column with a default in document form. -/
def written (c : Column) (default : Option Value) : Members :=
  memberOf "type" (if c.type = .string then none else some (.text c.type.name))
    ++ memberOf "maxLength" (c.maxLength.map fun n => .int n)
    ++ memberOf "minimum" (c.minimum.map Bound.value)
    ++ memberOf "maximum" (c.maximum.map Bound.value)
    ++ memberOf "exclusiveMinimum" (c.exclusiveMinimum.map Bound.value)
    ++ memberOf "exclusiveMaximum" (c.exclusiveMaximum.map Bound.value)
    ++ flagMember "primaryKey" c.primaryKey
    ++ flagMember "unique" c.unique
    ++ memberOf "default" default
    ++ memberOf "dateOn" (c.dateOn.map fun d => .text d.name)
    ++ memberOf "as" (c.generation.map Generation.value)
    ++ memberOf "constraint" (c.constraint.map .text)
    ++ memberOf "index" (c.index.map nameList)
    ++ memberOf "description" (c.description.map .text)
    ++ memberOf "format" (c.format.map .text)
    ++ flagMember "readOnly" c.readOnly

attribute [local simp] written

/-- The default that the document of a column has. -/
def writtenDefault (c : Column) : Option Value :=
  if c.default.isNull then none else some c.default.settled

theorem getD_writtenDefault (c : Column) : c.writtenDefault.getD .null = c.default.settled := by
  unfold writtenDefault
  by_cases h : c.default.isNull = true
  · rw [if_pos h, Value.settled_of_isNull h]
    rfl
  · rw [if_neg h]
    rfl

theorem members_eq_of_documentForm {c : Column} {v : Value} (h : c.default.documentForm = .ok v) :
    c.members = .ok (c.written (if c.default.isNull then none else some v)) := by
  have hdefault : defaultMember c.default =
      .ok (memberOf "default" (if c.default.isNull then none else some v)) := by
    unfold defaultMember
    by_cases hnull : c.default.isNull = true
    · rw [if_pos hnull, if_pos hnull]
      rfl
    · rw [if_neg hnull, if_neg hnull, h]
      rfl
  have htype : (if c.type = .string then [] else [("type", Value.text c.type.name)]) =
      memberOf "type" (if c.type = .string then none else some (.text c.type.name)) := by
    split <;> rfl
  unfold members
  rw [hdefault, htype]
  rfl

theorem members_eq {c : Column} (h : c.default.isJson = true) :
    c.members = .ok (c.written c.writtenDefault) :=
  members_eq_of_documentForm (Value.documentForm_of_isJson h)

theorem get?_written_format (c : Column) (default : Option Value) :
    (c.written default).get? "format" = c.format.map .text := by
  simp

/-- The type that a column is written with, or gets when it is read. -/
theorem get?_typed_written (c : Column) (default : Option Value) :
    (typed (c.written default)).get? "type" =
      some (.text (if c.format = some "date-time" then ColumnType.date else c.type).name) := by
  by_cases hformat : c.format = some "date-time"
  · rw [if_pos hformat]
    refine get?_typed_dateTime ?_
    rw [get?_written_format, hformat]
    rfl
  · -- Here the type is written unless it is the one that reading fills in.
    have hne : (c.written default).get? "format" ≠ some (.text "date-time") := by
      rw [get?_written_format]
      intro h
      obtain ⟨s, hs, htext⟩ := Option.map_eq_some_iff.mp h
      rw [hs, Value.text.inj htext] at hformat
      exact hformat rfl
    have htype : (c.written default).get? "type" =
        if c.type = .string then none else some (.text c.type.name) := by
      simp
    rw [get?_typed_of_ne_dateTime hne, if_neg hformat]
    unfold Members.getD
    rw [htype]
    cases c.type <;> rfl

/-- A flag of a column is no text, so it stays. -/
theorem normalize_written (c : Column) (default : Option Value) :
    normalize (c.written default) = typed (c.written default) := by
  have hflag : ∀ flag ∈ ["primaryKey", "primary_key", "unique"],
      setFlag (typed (c.written default)) flag = typed (c.written default) := by
    intro flag hmem
    refine setFlag_of_ne_text fun s => ?_
    simp only [List.mem_cons, List.not_mem_nil, or_false] at hmem
    rcases hmem with rfl | rfl | rfl
    · rw [get?_typed (by decide)]
      cases c.primaryKey <;> simp
    · rw [get?_typed (by decide)]
      simp
    · rw [get?_typed (by decide)]
      cases c.unique <;> simp
  simp only [List.forall_mem_cons] at hflag
  obtain ⟨hkey, hkey', hunique, _⟩ := hflag
  rw [normalize_eq]
  simp only [List.foldl_cons, List.foldl_nil]
  rw [hkey, hkey', hunique]

theorem optional_bound (b : Bound) : optional Bound.check b.value = .valid (some b) := by
  cases b <;> rfl

theorem optional_generation (g : Generation) :
    optional Generation.check g.value = .valid (some g) := by
  cases g with
  | everywhere sql => rfl
  | byDialect sqls =>
    have hread : Checked.members text (sqls.map fun p => (p.1, Value.text p.2)) =
        .valid (sqls.map fun p => (p.1, id p.2)) :=
      members_map fun p _ => show text (.text p.2) = .valid (id p.2) from rfl
    simp only [id_eq, Prod.eta, List.map_id_fun'] at hread
    show some <$> Checked.either _ (Generation.byDialect <$> (Checked.members text
      (sqls.map fun p => (p.1, Value.text p.2))).below _) = _
    rw [hread]
    rfl

theorem gives_index (index : Option (List String)) :
    Gives (fun v => optional (list text) (namesOfValue v)) none (index.map nameList) index := by
  refine gives_map (fun names => ?_) index
  show some <$> list text (nameList names) = _
  rw [list_nameList]
  rfl

theorem optional_dateOn (d : DateOn) :
    optional (name DateOn.ofName?) (.text d.name) = .valid (some d) := by
  cases d <;> rfl

theorem gives_description (description : Option String) :
    Gives (fun v => (·.map firstLine) <$> optional text v) none (description.map .text)
      (description.map firstLine) := by
  cases description with
  | none => exact gives_none.mpr rfl
  | some s =>
    rw [Option.map_some, gives_some]
    rfl

theorem gives_default (default : Option Value) :
    Gives valid .null default (default.getD .null) := by
  cases default with
  | none => exact gives_none.mpr rfl
  | some v => exact gives_some.mpr rfl

theorem readFrom_written (c : Column) (default : Option Value) :
    ReadFrom (typed (c.written default)) (c.reread (default.getD .null)) := by
  unfold reread
  constructor
  case type =>
    rw [get?_typed_written, gives_some]
    exact checkType_name _
  case maxLength =>
    rw [get?_typed (by decide), get?_typed (by decide)]
    cases hlength : c.maxLength with
    | none => simpa [hlength] using gives_none.mpr rfl
    | some n => simpa [hlength, gives_some] using optional_nat n
  case minimum =>
    rw [get?_typed (by decide)]
    simpa using gives_map optional_bound c.minimum
  case maximum =>
    rw [get?_typed (by decide)]
    simpa using gives_map optional_bound c.maximum
  case exclusiveMinimum =>
    rw [get?_typed (by decide), get?_typed (by decide)]
    simpa using gives_map optional_bound c.exclusiveMinimum
  case exclusiveMaximum =>
    rw [get?_typed (by decide), get?_typed (by decide)]
    simpa using gives_map optional_bound c.exclusiveMaximum
  case primaryKey =>
    rw [get?_typed (by decide), get?_typed (by decide)]
    simpa using gives_flag c.primaryKey
  case unique =>
    rw [get?_typed (by decide)]
    simpa using gives_flag c.unique
  case default =>
    rw [get?_typed (by decide)]
    simpa using gives_default default
  case dateOn =>
    rw [get?_typed (by decide), get?_typed (by decide)]
    simpa using gives_map optional_dateOn c.dateOn
  case generation =>
    rw [get?_typed (by decide), get?_typed (by decide)]
    simpa using gives_map optional_generation c.generation
  case constraint =>
    rw [get?_typed (by decide)]
    simpa using gives_map optional_text c.constraint
  case index =>
    rw [get?_typed (by decide)]
    simpa using gives_index c.index
  case description =>
    rw [get?_typed (by decide)]
    simpa using gives_description c.description
  case format =>
    rw [get?_typed (by decide)]
    simpa using gives_map optional_text c.format
  case readOnly =>
    rw [get?_typed (by decide), get?_typed (by decide)]
    simpa using gives_flag c.readOnly

/-- The document of a column is read as the column with the default that was written. -/
theorem check_written (c : Column) (default : Option Value) :
    check (.object (c.written default)) = .valid (c.reread (default.getD .null)) := by
  have hread := readFrom_written c default
  rw [← normalize_written] at hread
  exact checkFields_eq_valid_iff.mpr hread

theorem check_written_of_normal {c : Column} (h : c.Normal) :
    check (.object (c.written c.writtenDefault)) = .valid c.settled := by
  rw [check_written, getD_writtenDefault, reread_of_normal h]
  rfl

end Column

/-! ## Indices, relations and checks -/

namespace Index

theorem check_members {i : Index} (h : i.Normal) : check (.object i.members) = .valid i := by
  refine checkFields_eq_valid_iff.mpr ⟨?_, h.array⟩
  constructor
  case columns =>
    refine ⟨nameList i.columns, by simp [members], ?_⟩
    exact checkColumns_eq_valid_iff.mpr ⟨list_nameList i.columns, h.columns⟩
  case array =>
    cases harray : i.array with
    | none => simpa [members, harray] using gives_none.mpr rfl
    | some n => simpa [members, harray, gives_some] using optional_nat n
  case unique => simpa [members] using gives_flag i.unique
  case subType => simpa [members] using gives_map optional_text i.subType
  case name => simpa [members] using gives_map optional_text i.name

end Index

namespace Relation

theorem check_members (r : Relation) : check (.object r.members) = .valid r := by
  refine check_of_readFrom ?_
  constructor
  case column => exact ⟨.text r.column, by simp [members], rfl⟩
  case target => exact ⟨.text r.target, by simp [members], rfl⟩
  case type =>
    cases htype : r.type with
    | manyToOne => simpa [members, htype] using gives_none.mpr rfl
    | manyToMany =>
      have hname : name RelationType.ofName? (.text RelationType.manyToMany.name) =
          .valid .manyToMany := rfl
      simpa [members, htype, gives_some] using hname
  case onDelete =>
    cases htype : r.type <;> simpa [members, htype] using gives_map optional_text r.onDelete
  case onUpdate =>
    cases htype : r.type <;> simpa [members, htype] using gives_map optional_text r.onUpdate

end Relation

namespace CheckConstraint

theorem optional_provider (d : Dialect) :
    optional checkProvider (.text d.name) = .valid (some d) := by
  show some <$> named Dialect.ofName? d.name = _
  unfold named
  rw [Dialect.ofName?_name]
  rfl

theorem check?_members (c : CheckConstraint) : check? (.object c.members) = .valid c := by
  refine check?_of_readFrom ?_
  constructor
  case name => simpa [members] using gives_map optional_text c.name
  case check => exact ⟨.text c.check, by simp [members], rfl⟩
  case enforced => simpa [members] using gives_map optional_bool c.enforced
  case provider => simpa [members] using gives_map optional_provider c.provider
  case comment => simpa [members] using gives_map optional_text c.comment

end CheckConstraint

theorem Constraint.read_value (c : Constraint) : Constraint.read c.value = .valid c := by
  cases c with
  | expression sql => rfl
  | check c =>
    show Checked.either _
      (Constraint.check <$> (CheckConstraint.check? (.object c.members)).below _) = _
    rw [CheckConstraint.check?_members]
    rfl

/-! ## Schemas -/

namespace Schema

/-- A schema with its column defaults in document form. -/
def settled (s : Schema) : Schema :=
  { s with columns := s.columns.map fun p => (p.1, p.2.settled) }

/-- The documents of columns, by name. -/
def writtenColumns (s : Schema) : Members :=
  s.columns.map fun p => (p.1, .object (p.2.written p.2.writtenDefault))

theorem columnMembers_eq {columns : List (String × Column)}
    (h : ∀ p ∈ columns, p.2.default.isJson = true) : columnMembers columns =
      .ok (columns.map fun p => (p.1, .object (p.2.written p.2.writtenDefault))) := by
  induction columns with
  | nil => rfl
  | cons p columns ih =>
    obtain ⟨hp, hcolumns⟩ := List.forall_mem_cons.mp h
    obtain ⟨name, c⟩ := p
    unfold columnMembers
    rw [Column.members_eq hp, ih hcolumns]
    rfl

theorem document_eq {s : Schema} (h : s.Normal) :
    s.document = .ok (.object (s.membersAround s.writtenColumns)) := by
  unfold document members
  rw [columnMembers_eq fun p hp => (h.columns p hp).default]
  rfl

theorem splitIndex_written (name : String) (c : Column) (default : Option Value) :
    splitIndex name (.object (c.written default)) = .object (c.written default) := by
  have hindex : (c.written default).get? "index" = c.index.map nameList := by
    simp [Column.written]
  unfold splitIndex
  dsimp only
  rw [hindex]
  cases c.index <;> rfl

theorem nameTable_membersAround {s : Schema} (h : s.Normal) (columns : Members) :
    nameTable (s.membersAround columns) = s.membersAround columns := by
  have htable : (s.membersAround columns).get? "table" = s.table.map .text := by
    simp [membersAround]
  have htype : (s.membersAround columns).get? "type" = s.type.map .text := by
    simp [membersAround]
  unfold nameTable Members.getD
  dsimp only
  rw [htable, htype]
  split
  · rename_i hnamed
    obtain ⟨hunnamed, hpresent⟩ := Bool.and_eq_true_iff.mp hnamed
    cases ht : s.type with
    | none =>
      rw [ht] at hpresent
      cases hpresent
    | some t =>
      rw [ht] at hpresent
      have hne : t ≠ "" := by
        rintro rfl
        cases hpresent
      have hempty : s.table = none ∨ s.table = some "" := by
        cases hs : s.table with
        | none => exact .inl rfl
        | some name =>
          rw [hs] at hunnamed
          refine .inr (congrArg some ?_)
          simpa [Value.isPresent] using hunnamed
      -- The name that would be put is the one that reading has put there before.
      refine Members.put_of_get? ?_
      rw [htable, h.table t ht hne hempty]
      rfl
  · rfl

theorem splitMember_membersAround (s : Schema) (columns : Members) {member : String}
    (hmember : member ∈ ["fullText", "full_text"]) :
    splitMember (s.membersAround columns) member = s.membersAround columns := by
  refine splitMember_of_ne_text fun t => ?_
  simp only [List.mem_cons, List.not_mem_nil, or_false] at hmember
  rcases hmember with rfl | rfl
  · simp [membersAround]
  · simp [membersAround]

/-- The document of a normal schema is in shape. -/
theorem normalize_membersAround {s : Schema} (h : s.Normal) :
    normalize (s.membersAround s.writtenColumns) = s.membersAround s.writtenColumns := by
  have hlisted : listed (s.membersAround s.writtenColumns) = s.membersAround s.writtenColumns := by
    unfold listed
    simp only [List.foldl_cons, List.foldl_nil]
    rw [nameTable_membersAround h, splitMember_membersAround s _ List.mem_cons_self,
      splitMember_membersAround s _ (List.mem_cons_of_mem _ List.mem_cons_self)]
  have hcolumns : (s.membersAround s.writtenColumns).get? "properties" =
      if s.writtenColumns ≠ [] then some (.object s.writtenColumns) else none := by
    simp [membersAround]
  by_cases hnil : s.writtenColumns = []
  · rw [if_neg (not_not_intro hnil)] at hcolumns
    rw [normalize_of_ne_object, hlisted]
    intro columns hget
    rw [hlisted, hcolumns] at hget
    cases hget
  · rw [if_pos hnil] at hcolumns
    have hsame : (s.writtenColumns.map fun p => (p.1, splitIndex p.1 p.2)) = s.writtenColumns := by
      refine (List.map_congr_left fun p hp => ?_).trans (List.map_id _)
      obtain ⟨⟨name, c⟩, _, rfl⟩ := List.mem_map.mp hp
      exact congrArg (name, ·) (splitIndex_written name c _)
    rw [normalize_of_object (hlisted ▸ hcolumns), hlisted, hsame]
    exact Members.put_of_get? hcolumns

/-- The document of a schema around documents of columns is read as the schema with the columns that
those are read as. -/
theorem readFrom_membersAround {s : Schema} (h : ∀ i ∈ s.indices, i.Normal) {columns : Members}
    {read : List (String × Column)} (hread : Checked.members Column.check columns = .valid read) :
    ReadFrom (s.membersAround columns) { s with columns := read } := by
  constructor
  case table => simpa [membersAround] using gives_map optional_text s.table
  case type => simpa [membersAround] using gives_map optional_text s.type
  case description => simpa [membersAround] using gives_map optional_text s.description
  case columns =>
    have hget : (s.membersAround columns).get? "properties" =
        if columns ≠ [] then some (.object columns) else none := by
      simp [membersAround]
    rw [hget]
    cases columns with
    | nil => exact gives_none.mpr (valid.inj hread).symm
    | cons p columns => exact gives_some.mpr hread
  case required =>
    have hread : Gives (list text) [] (if s.required.map Value.text ≠ [] then
        some (.list (s.required.map .text)) else none) s.required := gives_list fun _ _ => rfl
    simpa [membersAround] using hread
  case fulltext =>
    have hread : Gives (list text) [] (if s.fulltext.map Value.text ≠ [] then
        some (.list (s.fulltext.map .text)) else none) s.fulltext := gives_list fun _ _ => rfl
    simpa [membersAround] using hread
  case indices =>
    have hread := gives_list fun i hi => Index.check_members (h i hi)
    simpa [membersAround] using hread
  case relations =>
    have hread := @gives_object _ _ Relation.check (fun r : Relation => .object r.members)
      (fun r => r) s.relations fun p _ => Relation.check_members p.2
    simpa [membersAround] using hread
  case constraints =>
    have hread : Gives (list Constraint.read) [] (if s.constraints.map Constraint.value ≠ [] then
        some (.list (s.constraints.map Constraint.value)) else none) s.constraints :=
      gives_list fun c _ => Constraint.read_value c
    simpa [membersAround] using hread
  case id => simpa [membersAround] using gives_map optional_text s.id
  case etag => simpa [membersAround] using gives_map optional_text s.etag

theorem readFrom_settled {s : Schema} (h : s.Normal) :
    ReadFrom (s.membersAround s.writtenColumns) s.settled := by
  have hcolumns : Checked.members Column.check s.writtenColumns =
      .valid (s.columns.map fun p => (p.1, p.2.settled)) :=
    @members_map _ _ Column.check (fun c : Column => .object (c.written c.writtenDefault))
      Column.settled s.columns fun p hp => Column.check_written_of_normal (h.columns p hp)
  exact readFrom_membersAround h.indices hcolumns

theorem columnNames_settled (s : Schema) : s.settled.columnNames = s.columnNames := by
  unfold columnNames settled
  rw [List.map_map]
  rfl

/-- Settling the defaults of columns leaves all mentions of columns. -/
theorem references_settled (s : Schema) : s.settled.references = s.references := by
  unfold references settled
  dsimp only
  rw [List.filterMap_map]
  rfl

theorem checkReferences_settled {s : Schema} (h : s.checkReferences = .valid s) :
    s.settled.checkReferences = .valid s.settled := by
  unfold checkReferences at h ⊢
  rw [references_settled, columnNames_settled]
  split at h
  · cases h
  · rfl

theorem settled_eq_self_iff {s : Schema} :
    s.settled = s ↔ ∀ p ∈ s.columns, p.2.default.isFinite = true := by
  have hcolumn : ∀ c : Column, c.settled = c ↔ c.default.isFinite = true := by
    intro c
    rw [← Value.settled_eq_iff]
    constructor
    · exact fun h => congrArg Column.default h
    · intro h
      unfold Column.settled
      rw [h]
  have hcolumns : (s.columns.map fun p => (p.1, p.2.settled)) = s.columns ↔
      ∀ p ∈ s.columns, p.2.default.isFinite = true := by
    rw [map_snd_eq_self_iff]
    exact forall₂_congr fun p _ => hcolumn p.2
  rw [← hcolumns]
  constructor
  · exact fun h => congrArg columns h
  · intro h
    unfold settled
    rw [h]

/-- **Schemas and documents.** A schema that is read from a JSON document has a document, and
reading that gives the schema with its defaults settled. It is the same schema exactly if all
numbers in its defaults are finite. -/
theorem ofValue_document {v : Value} (hv : v.isJson = true) {s : Schema} (h : ofValue v = .ok s) :
    ∃ document, s.document = .ok document ∧ ofValue document = .ok s.settled ∧
      (ofValue document = .ok s ↔ ∀ p ∈ s.columns, p.2.default.isFinite = true) := by
  have hnormal := normal_of_ofValue hv h
  have hread := readFrom_settled hnormal
  rw [← normalize_membersAround hnormal] at hread
  have hagain : ofValue (.object (s.membersAround s.writtenColumns)) = .ok s.settled :=
    ofValue_eq_ok_iff.mpr ⟨_, rfl, hread, checkReferences_settled hnormal.references⟩
  refine ⟨_, document_eq hnormal, hagain, ?_⟩
  rw [hagain, ← settled_eq_self_iff]
  exact ⟨fun h => Except.ok.inj h, fun h => congrArg Except.ok h⟩

/-- A document in loose form: names in one text, a flag that is a text, types by other names, a
description of two lines, and defaults of several kinds. -/
def looseDocument : Value :=
  .object [("type", .text "User"),
    ("properties", .object [
      ("id", .object [("type", .text "INTEGER"), ("primaryKey", .text "yes")]),
      ("at", .object [("format", .text "date-time"), ("description", .text "When.\nIn UTC.")]),
      ("tags", .object [("type", .text "json"), ("index", .text ""),
        ("default", .object [("a", .list [.int 0, .null, .bool false])])]),
      ("name", .object [("default", .text ""), ("maxLength", .int 0)])]),
    ("fullText", .text "name, tags"),
    ("indices", .list [.object [("properties", .text "id,tags"), ("array", .int 1)]]),
    ("relations", .object [("of", .object [("join", .text "id"), ("target", .text "t")])]),
    ("constraints", .list [.text "id > 0",
      .object [("check", .text "id < 9"), ("provider", .text "PG")]])]

theorem ofValue_document_loose :
    looseDocument.isJson = true ∧ ∃ s, ofValue looseDocument = .ok s ∧
      ∃ document, s.document = .ok document ∧ ofValue document = .ok s.settled ∧
        (ofValue document = .ok s ↔ ∀ p ∈ s.columns, p.2.default.isFinite = true) := by
  have hjson : looseDocument.isJson = true := by decide
  have hread : ((ofValue looseDocument).toOption).isSome = true := by decide
  obtain ⟨s, hs⟩ := Option.isSome_iff_exists.mp hread
  have hok := Log.eq_ok_of_toOption hs
  exact ⟨hjson, s, hok, ofValue_document hjson hok⟩

/-- A default that is infinite: JSON writes it as a number beyond all binary ones. -/
def infiniteDocument : Value :=
  .object [("table", .text "t"), ("properties", .object
    [("a", .object [("default", .float (.infinity false))])])]

/-- An infinite default becomes null. -/
theorem ofValue_document_infinity :
    infiniteDocument.isJson = true ∧ ∃ s document s', ofValue infiniteDocument = .ok s ∧
      s.document = .ok document ∧ ofValue document = .ok s' ∧ s' ≠ s := by
  let s : Schema :=
    { table := some "t", columns := [("a", { default := .float (.infinity false) })] }
  have hread : ofValue infiniteDocument = .ok s := ofValue_object_eq_ok_iff.mpr rfl
  have hagain : ofValue (.object [("table", .text "t"), ("properties", .object
      [("a", .object [("default", .null)])])]) = .ok s.settled :=
    ofValue_object_eq_ok_iff.mpr rfl
  refine ⟨by decide, s, _, s.settled, hread, rfl, hagain, fun h => ?_⟩
  have hfinite := settled_eq_self_iff.mp h _ List.mem_cons_self
  exact absurd hfinite (by decide)

end Schema

end SqlCompiler
