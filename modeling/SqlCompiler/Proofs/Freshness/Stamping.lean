import SqlCompiler.Proofs.Freshness.Reuse
import SqlCompiler.Proofs.Schema.Alike
import SqlCompiler.Proofs.Text.Case

/-!
# Stamped mappings and stamped schemas

A generator describes a class by a mapping or by a schema. A mapping is stamped as it is, and a
schema through its document, in which reading has put defaults already. So the two need not come to
the same: the schema that is read from a mapping keeps the table that was named after the type in
the mapping, where the mapping itself gets one that is named after the class (`stamp_mapping_iff`).
-/

namespace SqlCompiler

open Checked

/-! ## Names of tables -/

namespace Schema

variable {data : Members}

/-- A table that has a name keeps it. -/
theorem nameTable_of_isPresent (h : (data.getD "table").isPresent = true) :
    nameTable data = data := by
  unfold nameTable
  dsimp only
  rw [h]
  rfl

theorem nameTable_of_not_isPresent (h : (data.getD "type").isPresent = false) :
    nameTable data = data := by
  unfold nameTable
  dsimp only
  rw [h, Bool.and_false]
  rfl

theorem namedTable_of_table {s : Schema} (h : ¬ (s.table = none ∨ s.table = some "")) :
    s.namedTable = s.table := by
  unfold namedTable
  split
  · rfl
  · rfl
  · exact if_neg h

/-- A schema with another table, type, id and tag. -/
def stamped (s : Schema) (table : Option String) (type id tag : String) : Schema :=
  { s with table := table, type := some type, id := some id, etag := some tag }

end Schema

/-! ## Stamped documents -/

namespace Freshness

variable {data : Members} {s : Schema} {type id tag : String}

theorem get?_stampMembers_of_not_mem {key : String}
    (h : key ∉ ["type", "table", "$id", "etag"]) :
    (stampMembers data type id tag).get? key = data.get? key := by
  simp only [List.mem_cons, List.not_mem_nil, or_false, not_or] at h
  obtain ⟨htype, htable, hid, hetag⟩ := h
  unfold stampMembers
  dsimp only
  rw [Members.get?_put, if_neg hetag, Members.get?_put, if_neg hid]
  split
  · rw [Members.get?_put, if_neg htype]
  · rw [Members.get?_put, if_neg htable, Members.get?_put, if_neg htype]

theorem get?_stampMembers_table :
    (stampMembers data type id tag).get? "table" =
      if (data.getD "table").isPresent then data.get? "table"
      else some (.text (Text.lower type)) := by
  have hgetD : (data.put "type" (.text type)).getD "table" = data.getD "table" := by
    unfold Members.getD
    rw [Members.get?_put, if_neg (by decide)]
  unfold stampMembers
  dsimp only
  rw [Members.get?_put, if_neg (by decide), Members.get?_put, if_neg (by decide), hgetD]
  split
  · rw [Members.get?_put, if_neg (by decide)]
  · rw [Members.get?_put, if_pos rfl]

/-- The table of a stamped document is the one that is named, else it is named after the class. -/
theorem get?_nameTable_stampMembers :
    (Schema.nameTable (stampMembers data type id tag)).get? "table" =
      if (data.getD "table").isPresent then data.get? "table"
      else some (.text (Text.lower type)) := by
  have htype := get?_stampMembers_type data type id tag
  by_cases hempty : type = ""
  · rw [Schema.nameTable_of_not_isPresent, get?_stampMembers_table]
    unfold Members.getD
    rw [htype, hempty]
    rfl
  · rw [Schema.get?_nameTable_table htype hempty, get?_stampMembers_table]
    by_cases hpresent : (data.getD "table").isPresent = true
    · have hgetD : (stampMembers data type id tag).getD "table" = data.getD "table" := by
        unfold Members.getD
        rw [get?_stampMembers_table, if_pos hpresent]
      rw [hgetD, if_pos hpresent, if_pos hpresent]
    · rw [if_neg hpresent, ite_self]

/-- A document that is read as a schema is stamped to that schema, with the table that it names. -/
theorem ofValue_stampMembers (h : Schema.ofValue (.object data) = .ok s) :
    Schema.ofValue (.object (stampMembers data type id tag)) =
      .ok (s.stamped (if (data.getD "table").isPresent then s.table
        else some (Text.lower type)) type id tag) := by
  obtain ⟨_, hdata, hread, hreferences⟩ := Schema.ofValue_eq_ok_iff.mp h
  cases hdata
  have hothers : ∀ key ∈ Schema.bodyKeys, key ∉ ["type", "table", "$id", "etag"] := by decide
  have hbody : ∀ key ∈ Schema.bodyKeys,
      (Schema.normalize (stampMembers data type id tag)).get? key =
        (Schema.normalize data).get? key := by
    intro key hkey
    have hother := hothers key hkey
    refine Schema.get?_normalize_congr ?_ (get?_stampMembers_of_not_mem hother)
    rintro rfl
    exact hother (by decide)
  have hput : ∀ {key text}, key ≠ "properties" → key ∉ ["fullText", "full_text"] →
      key ≠ "table" → (stampMembers data type id tag).get? key = some (.text text) →
        (Schema.normalize (stampMembers data type id tag)).get? key = some (.text text) := by
    intro key text hproperties htext htable hget
    rw [Schema.get?_normalize hproperties, Schema.get?_listed htext, Schema.get?_nameTable htable,
      hget]
  obtain ⟨hid, htag⟩ := get?_stampMembers data type id tag
  have hdeclared := Schema.checkReferences_eq_valid_iff.mp hreferences
  refine Schema.ofValue_eq_ok_iff.mpr ⟨_, rfl, hread.congr hbody ?_ ?_ ?_ ?_,
    Schema.checkReferences_eq_valid_iff.mpr hdeclared⟩
  · rw [Schema.get?_normalize (by decide), Schema.get?_listed (by decide),
      get?_nameTable_stampMembers]
    by_cases hpresent : (data.getD "table").isPresent = true
    · have htable := hread.table
      rw [Schema.get?_normalize (by decide), Schema.get?_listed (by decide),
        Schema.nameTable_of_isPresent hpresent] at htable
      rwa [if_pos hpresent, if_pos hpresent]
    · rw [if_neg hpresent, if_neg hpresent, gives_some]
      exact optional_text _
  · rw [hput (by decide) (by decide) (by decide) (get?_stampMembers_type data type id tag),
      gives_some]
    exact optional_text type
  · rw [hput (by decide) (by decide) (by decide) hid, Option.some_or, gives_some]
    exact optional_text id
  · rw [hput (by decide) (by decide) (by decide) htag, gives_some]
    exact optional_text tag

theorem stamp_raw (h : Schema.ofValue (.object data) = .ok s) :
    stamp (.raw (.object data)) type id tag =
      .ok (s.stamped (if (data.getD "table").isPresent then s.table
        else some (Text.lower type)) type id tag) := by
  unfold stamp
  exact ofValue_stampMembers h

/-- A schema is stamped through its document. -/
theorem stamp_read (hsound : s.Sound) (hwritable : s.Writable) :
    stamp (.read s) type id tag =
      .ok ((s.enhancedWith []).stamped (if s.table = none ∨ s.table = some ""
        then some (Text.lower type) else s.table) type id tag) := by
  obtain ⟨ms, hms⟩ := Schema.exists_columnMembers_iff.mpr hwritable
  have hdocument : s.document = .ok (.object (s.membersAround ms)) :=
    Schema.document_eq_ok_iff.mpr ⟨ms, hms, rfl⟩
  have hread := Schema.ofValue_of_document hsound hdocument
  have hmembers : s.members = .ok (s.membersAround ms) := by
    unfold Schema.members
    rw [hms]
    rfl
  have htable : (if ((s.membersAround ms).getD "table").isPresent then
      (s.enhancedWith []).table else some (Text.lower type)) =
        if s.table = none ∨ s.table = some "" then some (Text.lower type) else s.table := by
    by_cases hnone : s.table = none ∨ s.table = some ""
    · rw [if_pos hnone, if_neg fun h => (Schema.isPresent_table_membersAround s ms).mp h hnone]
    · rw [if_neg hnone, if_pos ((Schema.isPresent_table_membersAround s ms).mpr hnone)]
      exact Schema.namedTable_of_table hnone
  have hstamped : Schema.ofValue (.object (stampMembers (s.membersAround ms) type id tag)) = _ :=
    ofValue_stampMembers hread
  rw [htable] at hstamped
  exact Log.bind_eq_ok_iff.mpr ⟨_, hmembers, hstamped⟩

/-! ## Tables of stamped mappings and schemas -/

/-- A name that is not present is read as none, or as an empty one. -/
theorem name_of_not_isPresent {v : Value} {name : Option String} (hpresent : v.isPresent = false)
    (h : optional text v = .valid name) : name = none ∨ name = some "" := by
  cases v with
  | null => exact .inl (valid.inj h).symm
  | text s =>
    obtain rfl := valid.inj h
    exact .inr (congrArg some (by simpa [Value.isPresent] using hpresent))
  | bytes bs =>
    obtain rfl : bs = [] := by simpa [Value.isPresent] using hpresent
    exact .inr (valid.inj h).symm
  | _ => cases h

/-- A type that is present has a text, which is not empty in lower case. -/
theorem lower_plain_ne_empty {v : Value} {type : Option String} (hpresent : v.isPresent = true)
    (h : optional text v = .valid type) : Text.lower v.plain ≠ "" := by
  refine Text.lower_ne_empty ?_
  cases v with
  | null => cases hpresent
  | text s =>
    show s ≠ ""
    simpa [Value.isPresent] using hpresent
  | bytes bs =>
    show Text.quotedBytes bs ≠ ""
    unfold Text.quotedBytes
    simp [← String.toList_inj]
  | _ => cases h

/-- The table of a schema that is read from a mapping. -/
theorem table_of_ofValue (h : Schema.ofValue (.object data) = .ok s) :
    ((data.getD "table").isPresent = true ∧ ∃ n, s.table = some n ∧ n ≠ "") ∨
    ((data.getD "table").isPresent = false ∧ (data.getD "type").isPresent = true ∧
      s.table = some (Text.lower (data.getD "type").plain) ∧
        Text.lower (data.getD "type").plain ≠ "") ∨
    ((data.getD "table").isPresent = false ∧ (data.getD "type").isPresent = false ∧
      (s.table = none ∨ s.table = some "")) := by
  obtain ⟨_, hdata, hread, _⟩ := Schema.ofValue_eq_ok_iff.mp h
  cases hdata
  have htable := hread.table
  have htype := hread.type
  rw [Schema.get?_normalize (by decide), Schema.get?_listed (by decide)] at htable
  rw [Schema.get?_normalize (by decide), Schema.get?_listed (by decide),
    Schema.get?_nameTable (by decide)] at htype
  rcases hpresent : (data.getD "table").isPresent with _ | _
  · rcases htypePresent : (data.getD "type").isPresent with _ | _
    · refine .inr (.inr ⟨rfl, rfl, ?_⟩)
      rw [Schema.nameTable_of_not_isPresent htypePresent] at htable
      unfold Members.getD at hpresent
      rcases hget : data.get? "table" with _ | v
      · rw [hget, gives_none] at htable
        exact .inl htable
      · rw [hget] at htable hpresent
        exact name_of_not_isPresent hpresent (gives_some.mp htable)
    · refine .inr (.inl ⟨rfl, rfl, ?_⟩)
      have hnamed : (Schema.nameTable data).get? "table" =
          some (.text (Text.lower (data.getD "type").plain)) := by
        unfold Schema.nameTable
        dsimp only
        rw [hpresent, htypePresent]
        exact (Members.get?_put _ _ _ _).trans (if_pos rfl)
      rw [hnamed, gives_some, optional_text] at htable
      refine ⟨(valid.inj htable).symm, ?_⟩
      unfold Members.getD at htypePresent ⊢
      rcases hget : data.get? "type" with _ | v
      · rw [hget] at htypePresent
        cases htypePresent
      · rw [hget] at htype htypePresent
        exact lower_plain_ne_empty htypePresent (gives_some.mp htype)
  · rw [Schema.nameTable_of_isPresent hpresent] at htable
    unfold Members.getD at hpresent
    rcases hget : data.get? "table" with _ | v
    · rw [hget] at hpresent
      cases hpresent
    · rw [hget] at htable hpresent
      exact .inl ⟨rfl, exists_name_of_isPresent hpresent (gives_some.mp htable)⟩

/-- A mapping and the schema that is read from it get the same table if the mapping names one, has
no type to name it after, or has one by which it is named as by the class. -/
theorem table_stamp_eq_iff (h : Schema.ofValue (.object data) = .ok s) :
    (if (data.getD "table").isPresent then s.table else some (Text.lower type)) =
        (if s.table = none ∨ s.table = some "" then some (Text.lower type) else s.table) ↔
      (data.getD "table").isPresent = true ∨ (data.getD "type").isPresent = false ∨
        Text.lower (data.getD "type").plain = Text.lower type := by
  rcases table_of_ofValue h with ⟨hpresent, n, hn, hne⟩ | ⟨hpresent, htype, hs, hne⟩ |
    ⟨hpresent, htype, hs⟩
  · rw [if_pos hpresent, if_neg (by simp [hn, hne])]
    exact iff_of_true rfl (.inl hpresent)
  · rw [hpresent, htype, if_neg Bool.false_ne_true, if_neg (by simp [hs, hne]), hs]
    simp [eq_comm]
  · rw [hpresent, if_neg Bool.false_ne_true, if_pos hs]
    exact iff_of_true rfl (.inr (.inl htype))

/-- **Mappings and schemas.** A mapping whose column defaults JSON has is stamped, and so is the
schema that is read from it. The two come to the same but for the table and what documents of
columns have no form for. They are equal exactly if no default is infinite, a date with a time has
the type of dates, and the mapping names its table, has no type, or has a type that the class is
named by in lower case. -/
theorem stamp_mapping_iff (h : Schema.ofValue (.object data) = .ok s)
    (hjson : ∀ p ∈ s.columns, p.2.default.isJson = true) (name id tag : String) :
    ∃ ofMapping ofSchema, stamp (.raw (.object data)) name id tag = .ok ofMapping ∧
      stamp (.read s) name id tag = .ok ofSchema ∧
      (ofMapping.columns = s.columns ∧
        ofSchema = { ofMapping with
          table := ofSchema.table
          columns := s.columns.map fun p => (p.1, p.2.rewritten) }) ∧
      (ofMapping = ofSchema ↔
        (∀ p ∈ s.columns, p.2.default.isFinite = true ∧
          (p.2.format = some "date-time" → p.2.type = .date)) ∧
        ((data.getD "table").isPresent = true ∨ (data.getD "type").isPresent = false ∨
          Text.lower (data.getD "type").plain = Text.lower name)) := by
  have hwritable : s.Writable := fun p hp => ⟨_, Value.documentForm_of_isJson (hjson p hp)⟩
  have hlines := (Schema.coherent_of_ofValue h).descriptions
  have hcolumns : (∀ p ∈ s.columns, p.2.rewritten = p.2) ↔ ∀ p ∈ s.columns,
      p.2.default.isFinite = true ∧ (p.2.format = some "date-time" → p.2.type = .date) :=
    forall₂_congr fun p hp => Column.rewritten_eq_self_iff (hjson p hp) (hlines p hp)
  refine ⟨_, _, stamp_raw h, stamp_read (Schema.sound_of_ofValue h) hwritable, ⟨rfl, rfl⟩, ?_⟩
  rw [← hcolumns, ← map_snd_eq_self_iff, ← table_stamp_eq_iff h]
  constructor
  · intro hsame
    exact ⟨(congrArg Schema.columns hsame).symm, congrArg Schema.table hsame⟩
  · rintro ⟨hsame, htable⟩
    have hrewritten : (s.enhancedWith []).columns = s.columns := hsame
    unfold Schema.stamped
    rw [htable, hrewritten]
    rfl

/-- A mapping that names its table by its type. -/
def typedMembers : Members :=
  [("type", .text "Foo"), ("properties", .object [("a", .object [])])]

/-- The schema that is read from it. -/
def typedSchema : Schema :=
  { table := some "foo", type := some "Foo", columns := [("a", {})] }

theorem ofValue_typedMembers : Schema.ofValue (.object typedMembers) = .ok typedSchema :=
  Schema.ofValue_object_eq_ok_iff.mpr rfl

theorem stamp_mapping_iff_typed : Schema.ofValue (.object typedMembers) = .ok typedSchema ∧
    (∀ p ∈ typedSchema.columns, p.2.default.isJson = true) ∧
    ∃ stamped, stamp (.raw (.object typedMembers)) "FOO" "file:///a.py#" "t" = .ok stamped ∧
      stamp (.read typedSchema) "FOO" "file:///a.py#" "t" = .ok stamped := by
  have hjson : ∀ p ∈ typedSchema.columns, p.2.default.isJson = true := by decide
  obtain ⟨ofMapping, ofSchema, hmapping, hschema, _, hsame⟩ :=
    stamp_mapping_iff ofValue_typedMembers hjson "FOO" "file:///a.py#" "t"
  have hlower : Text.lower (typedMembers.getD "type").plain = Text.lower "FOO" := by
    decide
  have hcolumns : ∀ p ∈ typedSchema.columns, p.2.default.isFinite = true ∧
      (p.2.format = some "date-time" → p.2.type = .date) := by
    decide
  obtain rfl := hsame.mpr ⟨hcolumns, .inr (.inr hlower)⟩
  exact ⟨ofValue_typedMembers, hjson, ofMapping, hmapping, hschema⟩

/-- Under another name the mapping gets a table of that name, and its schema keeps the table that is
named after the type. -/
theorem stamp_mapping_otherName : ∃ ofMapping ofSchema,
    Schema.ofValue (.object typedMembers) = .ok typedSchema ∧
    (∀ p ∈ typedSchema.columns, p.2.default.isJson = true) ∧
    stamp (.raw (.object typedMembers)) "Bar" "file:///a.py#" "t" = .ok ofMapping ∧
    stamp (.read typedSchema) "Bar" "file:///a.py#" "t" = .ok ofSchema ∧
    ofMapping.table = some "bar" ∧ ofSchema.table = some "foo" ∧ ofMapping ≠ ofSchema := by
  have hjson : ∀ p ∈ typedSchema.columns, p.2.default.isJson = true := by decide
  have hwritable : typedSchema.Writable := fun p hp =>
    ⟨_, Value.documentForm_of_isJson (hjson p hp)⟩
  have hbar : some (Text.lower "Bar") = some "bar" := by decide
  refine ⟨_, _, ofValue_typedMembers, hjson, stamp_raw ofValue_typedMembers,
    stamp_read (Schema.sound_of_ofValue ofValue_typedMembers) hwritable, hbar, rfl, fun h => ?_⟩
  have htable : some (Text.lower "Bar") = some "foo" := congrArg Schema.table h
  exact absurd (hbar.symm.trans htable) (by decide)

end Freshness

end SqlCompiler
