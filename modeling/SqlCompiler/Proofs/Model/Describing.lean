import SqlCompiler.Model.Describe
import SqlCompiler.Model.Read
import SqlCompiler.Proofs.Schema.Alike
import SqlCompiler.Proofs.Schema.Enhancing

/-!
# Descriptions of models as schemas

The column of a field has the type, the limits, the default and the description of the field
(`Field.get?_column`). Nothing turns a bound into what a column takes as one, so a field has a
column exactly if its bounds are numbers or texts as they are (`Field.fitsColumn_iff`). A model is
described as a schema with its fields as columns exactly if all of them have one
(`Lineage.ofValue_describe_iff`), which a date with a bound has not (`Lineage.describe_dayBound`).
-/

namespace SqlCompiler

open Checked

namespace Model

/-! ## Limits -/

/-- Limits that are bounds. -/
def Limit.bounds : List Limit :=
  [.above, .atLeast, .below, .atMost]

theorem Limit.eq_of_columnKey? {limit limit' : Limit} {key : String}
    (h : limit.columnKey? = some key) (h' : limit'.columnKey? = some key) : limit = limit' := by
  have hsame : limit.columnKey? = limit'.columnKey? := h.trans h'.symm
  have hsome : limit.columnKey?.isSome = true := by rw [h]; rfl
  clear h h'
  revert hsame hsome
  cases limit <;> cases limit' <;> decide

/-- Under the key that a limit becomes stands the last limit of that sort. -/
theorem Field.lookup_limitMembers {limit : Limit} {key : String} (h : limit.columnKey? = some key)
    (limits : List (Limit × Value)) :
    (limitMembers limits).reverse.lookup key = limits.reverse.lookup limit := by
  unfold limitMembers
  rw [← List.filterMap_reverse]
  induction limits.reverse with
  | nil => rfl
  | cons p limits ih =>
    obtain ⟨limit', v⟩ := p
    by_cases heq : limit = limit'
    · subst heq
      simp [h]
    · rw [List.lookup_cons, beq_false_of_ne heq]
      cases hkey : limit'.columnKey? with
      | none => simpa [List.filterMap_cons, hkey] using ih
      | some key' =>
        have hne : key ≠ key' := by
          rintro rfl
          exact heq (Limit.eq_of_columnKey? h hkey)
        simpa [List.filterMap_cons, hkey, List.lookup_cons, beq_false_of_ne hne] using ih

theorem Field.lookup_limitMembers_eq_none {key : String}
    (h : ∀ limit : Limit, limit.columnKey? ≠ some key) (limits : List (Limit × Value)) :
    (limitMembers limits).reverse.lookup key = none := by
  refine List.lookup_eq_none_iff.mpr ?_
  rintro ⟨key', v⟩ hmem
  obtain ⟨⟨limit, w⟩, _, hlimit⟩ := List.mem_filterMap.mp (List.mem_reverse.mp hmem)
  obtain ⟨key'', hkey, heq⟩ := Option.map_eq_some_iff.mp hlimit
  cases heq
  refine bne_iff_ne.mpr ?_
  rintro rfl
  exact h limit hkey

namespace Field

variable {f : Field}

/-- What the field says of a limit: the last limit of that sort. -/
def limit? (f : Field) (limit : Limit) : Option Value :=
  f.resolved.2.limits.reverse.lookup limit

/-- The description of a field, if it has a text. -/
def description? (f : Field) : Option String :=
  f.resolved.2.description.join.filter (!·.isEmpty)

/-- A column without extra members: limits over the type, then the default and the description. -/
theorem column_eq (hextra : f.resolved.2.extra = []) :
    f.column =
      let limited := Members.merge [("type", .text f.resolved.1.columnType.name)]
        (limitMembers f.resolved.2.limits)
      let defaulted := (columnDefault? f.resolved.2).elim limited (limited.put "default")
      (f.description?.map .text).elim defaulted (defaulted.put "description") := by
  unfold column description?
  dsimp only
  rw [hextra]
  rcases f.resolved.2.description.join with _ | s
  · cases columnDefault? f.resolved.2 <;> rfl
  · by_cases hempty : s.isEmpty = true
    · rw [Option.filter_some_neg (by simpa using hempty)]
      dsimp only
      rw [if_pos hempty]
      cases columnDefault? f.resolved.2 <;> rfl
    · rw [Option.filter_some_pos (by simpa using hempty)]
      dsimp only
      rw [if_neg hempty]
      cases columnDefault? f.resolved.2 <;> rfl

theorem get?_column (hextra : f.resolved.2.extra = []) (key : String) : f.column.get? key =
    (if key = "description" then f.description?.map .text else none).or
      ((if key = "default" then columnDefault? f.resolved.2 else none).or
        (((limitMembers f.resolved.2.limits).reverse.lookup key).or
          (if key = "type" then some (.text f.resolved.1.columnType.name) else none))) := by
  -- A member that is put if there is one comes before what is there.
  have hput (members : Members) (k : String) (v? : Option Value) :
      (v?.elim members (members.put k)).get? key =
        (if key = k then v? else none).or (members.get? key) := by
    cases v? with
    | none => simp
    | some v =>
      rw [Option.elim_some, Members.get?_put]
      split <;> rfl
  rw [column_eq hextra, hput, hput, Members.get?_merge, Members.get?_cons, Members.get?_nil]

/-- The key of a limit holds the limit. -/
theorem get?_column_limit (hextra : f.resolved.2.extra = []) {limit : Limit} {key : String}
    (h : limit.columnKey? = some key) : f.column.get? key = f.limit? limit := by
  have hother : key ≠ "description" ∧ key ≠ "default" ∧ key ≠ "type" := by
    refine ⟨?_, ?_, ?_⟩ <;> rintro rfl <;> revert h <;> cases limit <;> decide
  rw [get?_column hextra, if_neg hother.1, if_neg hother.2.1, if_neg hother.2.2,
    lookup_limitMembers h, Option.none_or, Option.none_or, Option.or_none]
  rfl

/-- The keys of a column without extra members. -/
def columnKeys : List String :=
  ["type", "maxLength", "minimum", "maximum", "exclusiveMinimum", "exclusiveMaximum", "default",
    "description"]

theorem get?_column_eq_none (hextra : f.resolved.2.extra = []) {key : String}
    (h : key ∉ columnKeys) : f.column.get? key = none := by
  have hlimit : ∀ limit : Limit, limit.columnKey? ≠ some key := by
    intro limit hkey
    cases limit <;> cases hkey <;> exact h (by decide)
  unfold columnKeys at h
  simp only [List.mem_cons, List.not_mem_nil, or_false, not_or] at h
  rw [get?_column hextra, lookup_limitMembers_eq_none hlimit, if_neg h.1, if_neg (by simp [h]),
    if_neg (by simp [h])]
  rfl

/-! ## Columns of fields -/

/-- The column of a field is in shape. -/
theorem get?_normalize_column (hextra : f.resolved.2.extra = []) {key : String}
    (h : key ≠ "type") : (Column.normalize f.column).get? key = f.column.get? key := by
  by_cases hflag : key ∈ ["primaryKey", "primary_key", "unique"]
  · have hnone : f.column.get? key = none := by
      refine get?_column_eq_none hextra ?_
      simp only [List.mem_cons, List.not_mem_nil, or_false] at hflag
      rcases hflag with rfl | rfl | rfl <;> decide
    rw [Column.get?_normalize_flag hflag, hnone]
    rfl
  · exact Column.get?_normalize h hflag _

theorem get?_normalize_column_type (hextra : f.resolved.2.extra = []) :
    (Column.normalize f.column).get? "type" = some (.text f.resolved.1.columnType.name) := by
  have htype : f.column.get? "type" = some (.text f.resolved.1.columnType.name) := by
    have hlimit : ∀ limit : Limit, limit.columnKey? ≠ some "type" := by
      intro limit
      cases limit <;> decide
    rw [get?_column hextra, lookup_limitMembers_eq_none hlimit]
    rfl
  have hpresent : (f.column.getD "type").isPresent = true := by
    unfold Members.getD
    rw [htype]
    cases f.resolved.1.columnType <;> decide
  rw [Column.get?_normalize_type, Column.get?_typed_of_ne_dateTime, if_pos hpresent, htype]
  rw [get?_column_eq_none hextra (by decide)]
  exact nofun

/-- A field has a column exactly if its bounds and its length can stand in one. -/
theorem exists_readFrom_iff (hextra : f.resolved.2.extra = []) :
    (∃ c : Column, c.ReadFrom (Column.normalize f.column)) ↔
      (∀ limit ∈ Limit.bounds, ∃ b, Gives (optional Bound.check) none (f.limit? limit) b) ∧
        ∃ n, Gives (optional nat) none (f.limit? .maxLength) n := by
  have hlimit : ∀ (limit : Limit) {key : String}, limit.columnKey? = some key →
      (Column.normalize f.column).get? key = f.limit? limit := by
    intro limit key h
    rw [get?_normalize_column hextra, get?_column_limit hextra h]
    rintro rfl
    revert h
    cases limit <;> decide
  have hnone : ∀ {key : String}, key ∉ columnKeys →
      (Column.normalize f.column).get? key = none := by
    intro key h
    rw [get?_normalize_column hextra, get?_column_eq_none hextra h]
    rintro rfl
    exact h (by decide)
  constructor
  · rintro ⟨c, h⟩
    have hminimum := h.minimum
    have hmaximum := h.maximum
    have habove := h.exclusiveMinimum
    have hbelow := h.exclusiveMaximum
    have hlength := h.maxLength
    rw [hlimit .atLeast rfl] at hminimum
    rw [hlimit .atMost rfl] at hmaximum
    rw [hlimit .above rfl, hnone (by decide), Option.or_none] at habove
    rw [hlimit .below rfl, hnone (by decide), Option.or_none] at hbelow
    rw [hlimit .maxLength rfl, hnone (by decide), Option.or_none] at hlength
    refine ⟨?_, c.maxLength, hlength⟩
    simp only [Limit.bounds, List.forall_mem_cons]
    exact ⟨⟨_, habove⟩, ⟨_, hminimum⟩, ⟨_, hbelow⟩, ⟨_, hmaximum⟩, nofun⟩
  · rintro ⟨hbounds, length, hlength⟩
    simp only [Limit.bounds, List.forall_mem_cons] at hbounds
    obtain ⟨⟨above, habove⟩, ⟨minimum, hminimum⟩, ⟨below, hbelow⟩, ⟨maximum, hmaximum⟩, _⟩ :=
      hbounds
    refine ⟨{
      type := f.resolved.1.columnType
      maxLength := length
      minimum := minimum
      maximum := maximum
      exclusiveMinimum := above
      exclusiveMaximum := below
      default := (columnDefault? f.resolved.2).getD .null
      description := f.description?.map firstLine }, ?_⟩
    constructor
    case type =>
      rw [get?_normalize_column_type hextra, gives_some]
      exact Column.checkType_name _
    case maxLength =>
      rwa [hlimit .maxLength rfl, hnone (by decide), Option.or_none]
    case minimum => rwa [hlimit .atLeast rfl]
    case maximum => rwa [hlimit .atMost rfl]
    case exclusiveMinimum => rwa [hlimit .above rfl, hnone (by decide), Option.or_none]
    case exclusiveMaximum => rwa [hlimit .below rfl, hnone (by decide), Option.or_none]
    case default =>
      rw [get?_normalize_column hextra (by decide), get?_column hextra,
        lookup_limitMembers_eq_none (by intro limit; cases limit <;> decide)]
      simpa using Column.gives_default _
    case description =>
      rw [get?_normalize_column hextra (by decide), get?_column hextra,
        lookup_limitMembers_eq_none (by intro limit; cases limit <;> decide)]
      simpa using Column.gives_description _
    case primaryKey | dateOn | generation | readOnly =>
      rw [hnone (by decide), hnone (by decide)]
      exact gives_none.mpr rfl
    case unique | constraint | index | format =>
      rw [hnone (by decide)]
      exact gives_none.mpr rfl

end Field

/-! ## Bounds -/

namespace NamedType

/-- The types whose values can be bounds of a column: truth values, numbers and texts. -/
def bounding : List NamedType :=
  [boolean, integer, real, decimal, text]

/-- Whether a value is one of a type. A truth value is a whole number too, and a date with a time is
a date. -/
def holds : NamedType → Value → Bool
  | boolean, .bool _ => true
  | integer, .int _ | integer, .bool _ => true
  | real, .float _ => true
  | decimal, .decimal _ => true
  | text, .text _ => true
  | moment, .dateTime _ => true
  | day, .date _ | day, .dateTime _ => true
  | mapping, .object _ => true
  | list, .list _ => true
  | tuple, .tuple _ => true
  | set, .set _ => true
  | _, _ => false

/-- A column takes the values of some types as bounds, but for decimal numbers that signal. -/
theorem exists_bound_iff {kind : NamedType} {v : Value} (h : kind.holds v = true) :
    (∃ b, optional Bound.check v = .valid b) ↔
      kind ∈ bounding ∧ ∀ d, v = .decimal d → d.isSignalling = false := by
  cases kind with
  | boolean | integer | real | text =>
    cases v <;> first
      | exact absurd h Bool.false_ne_true
      | exact iff_of_true ⟨_, rfl⟩ ⟨by decide, nofun⟩
  | decimal =>
    cases v with
    | decimal d =>
      cases hsignalling : d.isSignalling with
      | true =>
        refine iff_of_false ?_ fun ⟨_, hquiet⟩ => by simp [hquiet d rfl] at hsignalling
        rintro ⟨b, hb⟩
        cases d with
        | nan negative signalling payload =>
          obtain rfl : signalling = true := hsignalling
          cases hb
        | _ => cases hsignalling
      | false =>
        refine iff_of_true ⟨some (.float d.toDouble), ?_⟩ ⟨by decide, ?_⟩
        · show some <$> (if d.isSignalling then _ else valid (Bound.float d.toDouble)) = _
          rw [hsignalling]
          rfl
        · rintro _ ⟨⟩
          exact hsignalling
    | _ => cases h
  | moment | day | mapping | list | tuple | set =>
    cases v <;> first
      | exact absurd h Bool.false_ne_true
      | exact iff_of_false (fun ⟨_, hb⟩ => nomatch hb) fun ⟨hkind, _⟩ => by revert hkind; decide
  | _ => cases v <;> cases h

end NamedType

namespace FieldType

/-- The named type of a type that is no choice, if it is one or is made with one. -/
def plainKind? : FieldType → Option NamedType
  | named name | applied name _ => some (NamedType.ofName name)
  | _ => none

/-- The named type of a type. That of a choice with null is the one of the other type. -/
def kind? : FieldType → Option NamedType
  | choice members =>
    match members.filter (!·.isNothing) with
    | [a] => a.plainKind?
    | _ => none
  | a => a.plainKind?

end FieldType

namespace Field

variable {f : Field}

/-- A field without extra members whose bounds are values of its type, or of the one besides null. -/
structure HasOwnBounds (f : Field) : Prop where
  extra : f.resolved.2.extra = []
  bound : ∀ p ∈ f.resolved.2.limits, p.1 ∈ Limit.bounds →
    ∃ kind, f.resolved.1.kind? = some kind ∧ kind.holds p.2 = true

/-- A field of a named type is one if its bounds are values of that type. -/
theorem HasOwnBounds.of_kind (kind : NamedType) (hextra : f.resolved.2.extra = [])
    (hkind : f.resolved.1.kind? = some kind)
    (h : ∀ p ∈ f.resolved.2.limits, p.1 ∈ Limit.bounds → kind.holds p.2 = true) :
    f.HasOwnBounds where
  extra := hextra
  bound p hp hbound := ⟨kind, hkind, h p hp hbound⟩

/-- A field whose limits can stand in a column: bounds that count are those of a type that bounds
columns, and a length that counts is a number of characters. -/
structure FitsColumn (f : Field) : Prop where
  bound : ∀ limit ∈ Limit.bounds, ∀ v, f.limit? limit = some v →
    (∃ kind ∈ NamedType.bounding, f.resolved.1.kind? = some kind) ∧
      ∀ d, v = .decimal d → d.isSignalling = false
  length : ∀ v, f.limit? .maxLength = some v → ∃ n, optional nat v = .valid n

theorem fitsColumn_iff (h : f.HasOwnBounds) :
    f.FitsColumn ↔ ∃ c : Column, c.ReadFrom (Column.normalize f.column) := by
  have hvalue : ∀ limit ∈ Limit.bounds, ∀ v, f.limit? limit = some v →
      ∃ kind, f.resolved.1.kind? = some kind ∧ kind.holds v = true := by
    intro limit hlimit v hv
    obtain ⟨before, after, hmem, _⟩ := List.lookup_eq_some_iff.mp hv
    exact h.bound (limit, v) (List.mem_reverse.mp (by rw [hmem]; simp)) hlimit
  rw [exists_readFrom_iff h.extra]
  constructor
  · intro hfits
    constructor
    · intro limit hlimit
      cases hv : f.limit? limit with
      | none => exact ⟨none, gives_none.mpr rfl⟩
      | some v =>
        obtain ⟨kind, hkind, hholds⟩ := hvalue limit hlimit v hv
        obtain ⟨⟨kind', hbounding, hkind'⟩, hquiet⟩ := hfits.bound limit hlimit v hv
        obtain rfl := Option.some.inj (hkind.symm.trans hkind')
        obtain ⟨b, hb⟩ := (NamedType.exists_bound_iff hholds).mpr ⟨hbounding, hquiet⟩
        exact ⟨b, gives_some.mpr hb⟩
    · cases hv : f.limit? .maxLength with
      | none => exact ⟨none, gives_none.mpr rfl⟩
      | some v =>
        obtain ⟨n, hn⟩ := hfits.length v hv
        exact ⟨n, gives_some.mpr hn⟩
  · rintro ⟨hbounds, length, hlength⟩
    constructor
    · intro limit hlimit v hv
      obtain ⟨b, hb⟩ := hbounds limit hlimit
      obtain ⟨kind, hkind, hholds⟩ := hvalue limit hlimit v hv
      rw [hv, gives_some] at hb
      obtain ⟨hbounding, hquiet⟩ := (NamedType.exists_bound_iff hholds).mp ⟨b, hb⟩
      exact ⟨⟨kind, hbounding, hkind⟩, hquiet⟩
    · intro v hv
      rw [hv, gives_some] at hlength
      exact ⟨length, hlength⟩

theorem index_of_readFrom (hextra : f.resolved.2.extra = []) {c : Column}
    (h : c.ReadFrom (Column.normalize f.column)) : c.index = none := by
  have hindex := h.index
  rwa [get?_normalize_column hextra (by decide), get?_column_eq_none hextra (by decide),
    gives_none] at hindex

end Field

/-! ## Descriptions -/

namespace Lineage

variable {l : Lineage}

theorem columns_eq (h : (l.fields.map Field.columnName).Nodup) :
    l.columns = l.fields.map fun f => (f.columnName, .object f.column) :=
  Members.foldl_put Field.columnName (fun f => .object f.column) l.fields h

theorem get?_describe (hmetadata : l.metadataMembers = []) (key : String) :
    Members.get? l.describe key =
      if key = "type" then some (.text l.self.name)
      else if key = "properties" then some (.object l.columns)
      else if key = "required" then some (nameList l.required)
      else if key = "description" then (l.self.doc.bind summary?).map .text
      else none := by
  unfold describe
  rw [hmetadata, List.append_nil]
  cases l.self.doc.bind summary? with
  | none => simp [Members.get?_cons, nameList]
  | some s => simp [Members.get?_cons, nameList]

/-- Other members of a description stay as they are. -/
theorem get?_normalize_describe (hmetadata : l.metadataMembers = []) {key : String}
    (h : key ∉ ["table", "properties", "fullText", "full_text"]) :
    (Schema.normalize l.describe).get? key =
      if key = "type" then some (.text l.self.name)
      else if key = "required" then some (nameList l.required)
      else if key = "description" then (l.self.doc.bind summary?).map .text
      else none := by
  rw [Schema.get?_normalize_of_not_mem h, get?_describe hmetadata]
  simp only [List.mem_cons, List.not_mem_nil, or_false, not_or] at h
  rw [if_neg h.2.1]

/-- The columns of fields are in shape. -/
theorem splitColumns_columns (hnames : (l.fields.map Field.columnName).Nodup)
    (hfields : ∀ f ∈ l.fields, f.HasOwnBounds) :
    Schema.splitColumns (.object l.columns) = .object l.columns := by
  unfold Schema.splitColumns
  dsimp only
  rw [columns_eq hnames, List.map_map]
  refine congrArg Value.object (List.map_congr_left fun f hf => ?_)
  have hindex : f.column.get? "index" = none :=
    Field.get?_column_eq_none (hfields f hf).extra (by decide)
  show (f.columnName, Schema.splitIndex f.columnName (.object f.column)) = _
  rw [Schema.splitIndex_object]
  unfold Schema.splitIndexMembers
  rw [hindex]

theorem exists_table (hmetadata : l.metadataMembers = []) :
    ∃ table, Gives (optional text) none ((Schema.normalize l.describe).get? "table") table := by
  rw [Schema.get?_normalize (by decide), Schema.get?_listed (by decide)]
  unfold Schema.nameTable
  dsimp only
  split
  · rw [Members.get?_put, if_pos rfl]
    exact ⟨_, gives_some.mpr (optional_text _)⟩
  · rw [get?_describe hmetadata]
    exact ⟨none, gives_none.mpr rfl⟩

/-- What a schema that is read from a description has. -/
theorem fields_of_readFrom (hmetadata : l.metadataMembers = [])
    (hnames : (l.fields.map Field.columnName).Nodup) (hfields : ∀ f ∈ l.fields, f.HasOwnBounds)
    {s : Schema} (h : s.ReadFrom (Schema.normalize l.describe)) :
    members Column.check l.columns = .valid s.columns ∧ s.required = l.required := by
  have hcolumns := h.columns
  have hrequired := h.required
  rw [Schema.get?_normalize_properties, get?_describe hmetadata] at hcolumns
  rw [get?_normalize_describe hmetadata (by decide)] at hrequired
  simp only [reduceIte, String.reduceEq, Option.map_some, splitColumns_columns hnames hfields,
    gives_some] at hcolumns hrequired
  rw [list_nameList] at hrequired
  exact ⟨hcolumns, (valid.inj hrequired).symm⟩

theorem check_column_iff {f : Field} (h : f.HasOwnBounds) :
    (∃ c, Column.check (.object f.column) = .valid c) ↔ f.FitsColumn := by
  rw [Field.fitsColumn_iff h]
  show (∃ c, Column.checkFields _ = _) ↔ _
  simp only [Column.checkFields_eq_valid_iff]

/-- The columns can be read if each field fits a column. -/
theorem exists_columns_iff (hnames : (l.fields.map Field.columnName).Nodup)
    (hfields : ∀ f ∈ l.fields, f.HasOwnBounds) :
    (∃ columns, members Column.check l.columns = .valid columns) ↔
      ∀ f ∈ l.fields, f.FitsColumn := by
  rw [exists_members_iff, columns_eq hnames, List.forall_mem_map]
  exact forall₂_congr fun f hf => check_column_iff (hfields f hf)

theorem columnNames_of_members (hnames : (l.fields.map Field.columnName).Nodup)
    {columns : List (String × Column)} (h : members Column.check l.columns = .valid columns) :
    columns.map (·.1) = l.fields.map Field.columnName := by
  rw [keys_of_members h, columns_eq hnames]
  unfold Members.keys
  rw [List.map_map]
  rfl

/-- No column of a description has an index. -/
theorem index_of_members (hnames : (l.fields.map Field.columnName).Nodup)
    (hfields : ∀ f ∈ l.fields, f.HasOwnBounds) {columns : List (String × Column)}
    (h : members Column.check l.columns = .valid columns) : ∀ p ∈ columns, p.2.index = none := by
  intro p hp
  obtain ⟨v, hv, hcheck⟩ := exists_mem_of_members h p hp
  rw [columns_eq hnames] at hv
  obtain ⟨f, hf, heq⟩ := List.mem_map.mp hv
  rw [← (Prod.mk.inj heq).2] at hcheck
  exact Field.index_of_readFrom (hfields f hf).extra (Column.checkFields_eq_valid_iff.mp hcheck)

/-- A description whose columns can be read is a schema. -/
theorem exists_ofValue_of_members (hmetadata : l.metadataMembers = [])
    (hnames : (l.fields.map Field.columnName).Nodup) (hfields : ∀ f ∈ l.fields, f.HasOwnBounds)
    {columns : List (String × Column)} (h : members Column.check l.columns = .valid columns) :
    ∃ s, Schema.ofValue (.object l.describe) = .ok s := by
  obtain ⟨table, htable⟩ := exists_table hmetadata
  refine ⟨{
    table := table
    type := some l.self.name
    description := l.self.doc.bind summary?
    columns := columns
    required := l.required }, Schema.ofValue_eq_ok_iff.mpr ⟨_, rfl, ?_, ?_⟩⟩
  · have hother : ∀ {key : String}, key ∉ ["table", "properties", "fullText", "full_text"] → _ :=
      @get?_normalize_describe l hmetadata
    constructor
    case table => exact htable
    case type =>
      rw [hother (by decide)]
      exact gives_some.mpr (optional_text _)
    case description =>
      rw [hother (by decide)]
      exact gives_map optional_text _
    case columns =>
      rw [Schema.get?_normalize_properties, get?_describe hmetadata]
      simp only [reduceIte, String.reduceEq, Option.map_some,
        splitColumns_columns hnames hfields, gives_some]
      exact h
    case required =>
      rw [hother (by decide)]
      exact gives_some.mpr (list_nameList _)
    case fulltext =>
      rw [Schema.get?_normalize_fulltext (by decide), Schema.get?_normalize_fulltext (by decide),
        get?_describe hmetadata, get?_describe hmetadata]
      exact gives_none.mpr rfl
    case id =>
      rw [hother (by decide), hother (by decide)]
      exact gives_none.mpr rfl
    all_goals
      rw [hother (by decide)]
      exact gives_none.mpr rfl
  · -- Only the required columns are mentioned, and they are columns.
    have hindex : columns.filterMap (fun p => p.2.index.map fun names =>
        ("index of column '" ++ p.1 ++ "'", names)) = [] := by
      refine List.filterMap_eq_nil_iff.mpr fun p hp => ?_
      rw [index_of_members hnames hfields h p hp]
      rfl
    rw [Schema.checkReferences_eq_valid_iff]
    intro r hr name hname
    unfold Schema.references at hr
    simp only [hindex, List.map_nil, List.append_nil, List.mem_cons, List.not_mem_nil,
      or_false] at hr
    rcases hr with rfl | rfl
    · show name ∈ columns.map (·.1)
      rw [columnNames_of_members hnames h]
      exact List.map_subset _ (List.filter_subset_self _) hname
    · cases hname

/-- **Descriptions of models are schemas.** The description of a model with distinct columns,
without metadata and with fields that are bounded by values of their own types is a schema exactly
if each field fits a column. The schema then has the columns of the fields, in order, and requires
those whose types do not accept null, in order. -/
theorem ofValue_describe_iff (hmetadata : l.metadataMembers = [])
    (hnames : (l.fields.map Field.columnName).Nodup) (hfields : ∀ f ∈ l.fields, f.HasOwnBounds) :
    ((∃ s, Schema.ofValue (.object l.describe) = .ok s) ↔ ∀ f ∈ l.fields, f.FitsColumn) ∧
      ∀ s, Schema.ofValue (.object l.describe) = .ok s →
        s.columnNames = l.fields.map Field.columnName ∧
          s.required = (l.fields.filter fun f => !f.resolved.1.acceptsNull).map
            Field.columnName := by
  have hread : ∀ s, Schema.ofValue (.object l.describe) = .ok s →
      members Column.check l.columns = .valid s.columns ∧ s.required = l.required := by
    intro s hs
    obtain ⟨data, hdata, hread, _⟩ := Schema.ofValue_eq_ok_iff.mp hs
    cases hdata
    exact fields_of_readFrom hmetadata hnames hfields hread
  refine ⟨?_, fun s hs => ?_⟩
  · rw [← exists_columns_iff hnames hfields]
    constructor
    · rintro ⟨s, hs⟩
      exact ⟨_, (hread s hs).1⟩
    · rintro ⟨columns, hcolumns⟩
      exact exists_ofValue_of_members hmetadata hnames hfields hcolumns
  · obtain ⟨hcolumns, hrequired⟩ := hread s hs
    exact ⟨columnNames_of_members hnames hcolumns, hrequired⟩

/-- Fields with an alias, a choice with null, a type with options and one that is applied. -/
def accountFields : List Field :=
  [⟨"name", .named "str",
      { aliasName := some (some "fullName"), limits := [(.maxLength, .int 256)] }⟩,
    ⟨"age", .choice [.named "int", .named "None"],
      { limits := [(.atLeast, .int 0), (.atMost, .int 150)] }⟩,
    ⟨"price", .optioned (.named "Decimal")
      { limits := [(.above, .decimal (.finite false 5 (-1)))] }, {}⟩,
    ⟨"tags", .applied "List" [.named "str"], { factory := some (.constant (.list [.text "new"])) }⟩]

def accountModel : Lineage :=
  .ofClass ⟨"Account", 0, false, [], accountFields, some "Customer account.\n\nMore.", [], []⟩ [] []
    true

theorem ofValue_describe_iff_account : accountModel.metadataMembers = [] ∧
    (accountModel.fields.map Field.columnName).Nodup ∧
    (∀ f ∈ accountModel.fields, f.HasOwnBounds) ∧ (∀ f ∈ accountModel.fields, f.FitsColumn) ∧
    ∃ s, Schema.ofValue (.object accountModel.describe) = .ok s ∧
      s.columnNames = ["fullName", "age", "price", "tags"] ∧
      s.required = ["fullName", "price", "tags"] := by
  have hfields : accountModel.fields = accountFields := rfl
  have hbounds : ∀ f ∈ accountModel.fields, f.HasOwnBounds := by
    rw [hfields]
    simp only [accountFields, List.forall_mem_cons]
    exact ⟨.of_kind .text rfl rfl (by decide),
      .of_kind .integer rfl rfl (by decide),
      .of_kind .decimal rfl rfl (by decide),
      .of_kind .list rfl rfl (by decide), nofun⟩
  have hfits : ∀ f ∈ accountModel.fields, f.FitsColumn := by
    have hread : ∀ f ∈ accountFields, ∃ c, Column.check (.object f.column) = .valid c := by
      simp only [accountFields, List.forall_mem_cons]
      exact ⟨⟨_, rfl⟩, ⟨_, rfl⟩, ⟨_, rfl⟩, ⟨_, rfl⟩, nofun⟩
    exact fun f hf => (check_column_iff (hbounds f hf)).mp (hread f (hfields ▸ hf))
  have hnames : (accountModel.fields.map Field.columnName).Nodup := by
    decide
  obtain ⟨hiff, hschema⟩ := ofValue_describe_iff (l := accountModel) rfl hnames hbounds
  obtain ⟨s, hs⟩ := hiff.mpr hfits
  obtain ⟨hcolumns, hrequired⟩ := hschema s hs
  exact ⟨rfl, hnames, hbounds, hfits, s, hs, hcolumns, hrequired⟩

/-- A class file with a date that has a bound. -/
def dayDefinitions : List Definition :=
  Definition.ofValues [.object [("name", .text "Event"), ("fields", .list [.object
    [("name", .text "at"), ("type", .text "date"), ("ge", .date ⟨2020, 1, 1⟩)]])]]

def dayModel : Lineage :=
  .ofClass ⟨"Event", 0, false, [],
    [⟨"at", .named "date", { limits := [(.atLeast, .date ⟨2020, 1, 1⟩)] }⟩], none, [], []⟩ [] []
    true

/-- A date that bounds a field is no bound of a column. -/
theorem describe_dayBound : Module.run [] dayDefinitions = .ok [("Event", some dayModel)] ∧
    dayModel.metadataMembers = [] ∧ (dayModel.fields.map Field.columnName).Nodup ∧
    (∀ f ∈ dayModel.fields, f.HasOwnBounds) ∧
    ¬ ∃ s, Schema.ofValue (.object dayModel.describe) = .ok s := by
  have hrefused : (Schema.ofValue (.object dayModel.describe)).toOption.isSome = false := by
    decide
  refine ⟨by rfl, rfl, by decide, ?_, ?_⟩
  · have hfields : dayModel.fields =
        [⟨"at", .named "date", { limits := [(.atLeast, .date ⟨2020, 1, 1⟩)] }⟩] := rfl
    rw [hfields, List.forall_mem_singleton]
    exact .of_kind .day rfl rfl (by decide)
  · rintro ⟨s, hs⟩
    rw [hs] at hrefused
    cases hrefused

end Lineage

end Model

end SqlCompiler
