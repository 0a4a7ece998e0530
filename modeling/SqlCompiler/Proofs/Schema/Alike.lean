import SqlCompiler.Proofs.Schema.Reading

/-!
# Documents that are read alike

Bringing a document into shape changes few of its members, and each of them by itself
(`Column.get?_normalize_flag`, `Schema.get?_normalize_fulltext`,
`Schema.get?_normalize_properties`). So two documents of schemas are read alike if the members that
make up each field are (`Schema.ReadAlike.ofValue_eq_ok_iff`). Documents that differ in one column,
relation, index or check are, if that part is read alike (`Schema.ReadAlike.of_differInPart`).
-/

namespace SqlCompiler

open Checked

/-! ## Checks of parts -/

namespace Checked

variable {α : Type} {check : Value → Checked α} {v w : Value}

/-- Values of which a check gives the same. -/
def Alike (check : Value → Checked α) (v w : Value) : Prop :=
  ∀ a, check v = .valid a ↔ check w = .valid a

theorem itemsFrom_cons_eq_valid_iff {start : Nat} {items : List Value} {as : List α} :
    itemsFrom check start (v :: items) = .valid as ↔ ∃ a rest, check v = .valid a ∧
      itemsFrom check (start + 1) items = .valid rest ∧ a :: rest = as := by
  rw [itemsFrom, seq_eq_valid_iff]
  simp only [map_eq_valid_iff, below_eq_valid_iff]
  constructor
  · rintro ⟨_, ⟨a, ha, rfl⟩, rest, hrest, h⟩
    exact ⟨a, rest, ha, hrest, h⟩
  · rintro ⟨a, rest, ha, hrest, h⟩
    exact ⟨_, ⟨a, ha, rfl⟩, rest, hrest, h⟩

theorem members_cons_eq_valid_iff {key : String} {ms : Members} {as : List (String × α)} :
    members check ((key, v) :: ms) = .valid as ↔ ∃ a rest, check v = .valid a ∧
      members check ms = .valid rest ∧ (key, a) :: rest = as := by
  rw [members, seq_eq_valid_iff]
  simp only [map_eq_valid_iff, below_eq_valid_iff]
  constructor
  · rintro ⟨_, ⟨a, ha, rfl⟩, rest, hrest, h⟩
    exact ⟨a, rest, ha, hrest, h⟩
  · rintro ⟨a, rest, ha, hrest, h⟩
    exact ⟨_, ⟨a, ha, rfl⟩, rest, hrest, h⟩

/-- The members of an object pass if each of them does. -/
theorem exists_members_iff {ms : Members} :
    (∃ as, members check ms = .valid as) ↔ ∀ m ∈ ms, ∃ a, check m.2 = .valid a := by
  induction ms with
  | nil => exact iff_of_true ⟨[], rfl⟩ nofun
  | cons m ms ih =>
    obtain ⟨key, v⟩ := m
    rw [List.forall_mem_cons, ← ih]
    simp only [members_cons_eq_valid_iff]
    constructor
    · rintro ⟨_, a, rest, ha, hrest, _⟩
      exact ⟨⟨a, ha⟩, rest, hrest⟩
    · rintro ⟨⟨a, ha⟩, rest, hrest⟩
      exact ⟨_, a, rest, ha, hrest, rfl⟩

theorem keys_of_members {ms : Members} {as : List (String × α)}
    (h : members check ms = .valid as) : as.map (·.1) = ms.keys := by
  induction ms generalizing as with
  | nil =>
    obtain rfl : [] = as := valid.inj h
    rfl
  | cons m ms ih =>
    obtain ⟨a, rest, _, hrest, rfl⟩ := members_cons_eq_valid_iff.mp h
    rw [List.map_cons, ih hrest]
    rfl

theorem Alike.itemsFrom (h : Alike check v w) (before after : List Value) (start : Nat)
    (as : List α) : Checked.itemsFrom check start (before ++ v :: after) = .valid as ↔
      Checked.itemsFrom check start (before ++ w :: after) = .valid as := by
  induction before generalizing start as with
  | nil =>
    rw [List.nil_append, List.nil_append, itemsFrom_cons_eq_valid_iff,
      itemsFrom_cons_eq_valid_iff]
    simp only [h _]
  | cons first before ih =>
    rw [List.cons_append, List.cons_append, itemsFrom_cons_eq_valid_iff,
      itemsFrom_cons_eq_valid_iff]
    simp only [ih]

/-- Objects that differ in a member are read alike if that member is. -/
theorem Alike.object (h : Alike check v w) (key : String) (before after : Members) :
    Alike (Checked.object check) (.object (before ++ (key, v) :: after))
      (.object (before ++ (key, w) :: after)) := by
  intro as
  show members check _ = _ ↔ members check _ = _
  induction before generalizing as with
  | nil =>
    rw [List.nil_append, List.nil_append, members_cons_eq_valid_iff, members_cons_eq_valid_iff]
    simp only [h _]
  | cons first before ih =>
    rw [List.cons_append, List.cons_append, members_cons_eq_valid_iff, members_cons_eq_valid_iff]
    simp only [ih]

theorem Alike.gives (h : Alike check v w) (absent a : α) :
    Gives check absent (some v) a ↔ Gives check absent (some w) a := by
  rw [gives_some, gives_some]
  exact h a

end Checked

/-- Lists and tuples hold objects in order. -/
inductive Value.IsSequence : (List Value → Value) → Prop
  | list : IsSequence .list
  | tuple : IsSequence .tuple

/-- Sequences that differ in an item are read alike if that item is. -/
theorem Checked.Alike.sequence {α : Type} {check : Value → Checked α} {v w : Value}
    (h : Alike check v w) {make : List Value → Value} (hmake : Value.IsSequence make)
    (before after : List Value) :
    Alike (Checked.list check) (make (before ++ v :: after)) (make (before ++ w :: after)) := by
  intro as
  cases hmake with
  | list => exact h.itemsFrom before after 0 as
  | tuple => exact h.itemsFrom before after 0 as

/-! ## Columns in shape -/

namespace Column

variable {data data' : Members}

/-- What becomes of the value of a flag: any text sets it. -/
def flagValue : Value → Value
  | .text _ => .bool true
  | v => v

theorem get?_setFlag_self (data : Members) (flag : String) :
    (setFlag data flag).get? flag = (data.get? flag).map flagValue := by
  by_cases htext : ∃ s, data.get? flag = some (.text s)
  · obtain ⟨s, hs⟩ := htext
    unfold setFlag
    rw [hs]
    exact (Members.get?_put _ _ _ _).trans (if_pos rfl)
  · rw [setFlag_of_ne_text fun s hs => htext ⟨s, hs⟩]
    rcases hget : data.get? flag with _ | v
    · rfl
    · cases v with
      | text s => exact absurd ⟨s, hget⟩ htext
      | _ => rfl

theorem get?_normalize_flag {flag : String}
    (h : flag ∈ ["primaryKey", "primary_key", "unique"]) (data : Members) :
    (normalize data).get? flag = (data.get? flag).map flagValue := by
  rw [normalize_eq]
  simp only [List.foldl_cons, List.foldl_nil]
  simp only [List.mem_cons, List.not_mem_nil, or_false] at h
  rcases h with rfl | rfl | rfl
  · rw [get?_setFlag (by decide), get?_setFlag (by decide), get?_setFlag_self,
      get?_typed (by decide)]
  · rw [get?_setFlag (by decide), get?_setFlag_self, get?_setFlag (by decide),
      get?_typed (by decide)]
  · rw [get?_setFlag_self, get?_setFlag (by decide), get?_setFlag (by decide),
      get?_typed (by decide)]

theorem get?_normalize_type (data : Members) :
    (normalize data).get? "type" = (typed data).get? "type" := by
  rw [normalize_eq]
  simp only [List.foldl_cons, List.foldl_nil]
  rw [get?_setFlag (by decide), get?_setFlag (by decide), get?_setFlag (by decide)]

/-- The type depends on the type and the format that are given. -/
theorem get?_normalize_type_congr (htype : data.get? "type" = data'.get? "type")
    (hformat : data.get? "format" = data'.get? "format") :
    (normalize data).get? "type" = (normalize data').get? "type" := by
  have hpresent : data.getD "type" = data'.getD "type" := by
    unfold Members.getD
    rw [htype]
  rw [get?_normalize_type, get?_normalize_type]
  by_cases hdateTime : data.get? "format" = some (.text "date-time")
  · rw [get?_typed_dateTime hdateTime, get?_typed_dateTime (hformat ▸ hdateTime)]
  · rw [get?_typed_of_ne_dateTime hdateTime, get?_typed_of_ne_dateTime (hformat ▸ hdateTime),
      htype, hpresent]

end Column

/-! ## Indices -/

namespace Index

variable {data data' : Members} {i : Index}

/-- Documents of which the members that make up a field are read alike, for every field. -/
structure ReadAlike (data data' : Members) : Prop where
  columns : (data.get? "properties").map namesOfValue = (data'.get? "properties").map namesOfValue
  plain : ∀ key ∈ ["array", "unique", "name"], data.get? key = data'.get? key
  subType : (data.get? "subType").or (data.get? "sub_type") =
    (data'.get? "subType").or (data'.get? "sub_type")

namespace ReadAlike

theorem symm (h : ReadAlike data data') : ReadAlike data' data where
  columns := h.columns.symm
  plain key hkey := (h.plain key hkey).symm
  subType := h.subType.symm

theorem readFrom (h : ReadAlike data data') (hread : i.ReadFrom data) : i.ReadFrom data' where
  columns := by
    obtain ⟨v, hget, hv⟩ := hread.columns
    have hcolumns := h.columns
    rw [hget] at hcolumns
    obtain ⟨w, hw, hnames⟩ := Option.map_eq_some_iff.mp hcolumns.symm
    refine ⟨w, hw, ?_⟩
    unfold checkColumns at hv ⊢
    rwa [hnames]
  array := h.plain "array" (by decide) ▸ hread.array
  unique := h.plain "unique" (by decide) ▸ hread.unique
  subType := h.subType ▸ hread.subType
  name := h.plain "name" (by decide) ▸ hread.name

theorem check (h : ReadAlike data data') : Alike Index.check (.object data) (.object data') := by
  intro i
  show checkFields data = .valid i ↔ checkFields data' = .valid i
  rw [checkFields_eq_valid_iff, checkFields_eq_valid_iff]
  exact and_congr_left fun _ => ⟨h.readFrom, h.symm.readFrom⟩

end ReadAlike

end Index

/-! ## Schemas in shape -/

namespace Schema

variable {data data' : Members} {s : Schema}

/-- What becomes of the index of a column of a name. -/
def indexValue (name : String) : Value → Value
  | .text s => namesOfValue (.text (if s.isEmpty then name else s))
  | v => v

/-- A column with its index in shape. -/
def splitIndexMembers (name : String) (column : Members) : Members :=
  match column.get? "index" with
  | some v => column.put "index" (indexValue name v)
  | none => column

theorem splitIndex_object (name : String) (column : Members) :
    splitIndex name (.object column) = .object (splitIndexMembers name column) := by
  unfold splitIndexMembers splitIndex
  dsimp only
  rcases hget : column.get? "index" with _ | v
  · rfl
  · cases v with
    | text s => rfl
    | _ => exact congrArg Value.object (Members.put_of_get? hget).symm

theorem get?_splitIndexMembers (name : String) (column : Members) (key : String) :
    (splitIndexMembers name column).get? key =
      if key = "index" then (column.get? "index").map (indexValue name) else column.get? key := by
  unfold splitIndexMembers
  rcases hget : column.get? "index" with _ | v
  · dsimp only
    split
    · rename_i h
      rw [h, hget]
      rfl
    · rfl
  · exact Members.get?_put _ _ _ _

/-- Columns with their indices in shape. -/
def splitColumns : Value → Value
  | .object columns => .object (columns.map fun p => (p.1, splitIndex p.1 p.2))
  | v => v

theorem get?_splitMember_self (data : Members) (member : String) :
    (splitMember data member).get? member = (data.get? member).map namesOfValue := by
  unfold splitMember
  rcases hget : data.get? member with _ | v
  · exact hget
  · cases v with
    | text s => exact (Members.get?_put _ _ _ _).trans (if_pos rfl)
    | _ => exact hget

theorem get?_normalize_fulltext {key : String} (h : key ∈ ["fullText", "full_text"])
    (data : Members) : (normalize data).get? key = (data.get? key).map namesOfValue := by
  simp only [List.mem_cons, List.not_mem_nil, or_false] at h
  rcases h with rfl | rfl
  · rw [get?_normalize (by decide)]
    unfold listed
    simp only [List.foldl_cons, List.foldl_nil]
    rw [get?_splitMember (by decide), get?_splitMember_self, get?_nameTable (by decide)]
  · rw [get?_normalize (by decide)]
    unfold listed
    simp only [List.foldl_cons, List.foldl_nil]
    rw [get?_splitMember_self, get?_splitMember (by decide), get?_nameTable (by decide)]

theorem get?_normalize_properties (data : Members) :
    (normalize data).get? "properties" = (data.get? "properties").map splitColumns := by
  have hlisted : (listed data).get? "properties" = data.get? "properties" := by
    rw [get?_listed (by decide), get?_nameTable (by decide)]
  rcases hget : data.get? "properties" with _ | v
  · rw [hget] at hlisted
    rw [normalize_of_ne_object (by simp [hlisted]), hlisted]
    rfl
  · rw [hget] at hlisted
    cases v with
    | object columns =>
      rw [normalize_of_object hlisted]
      exact (Members.get?_put _ _ _ _).trans (if_pos rfl)
    | _ =>
      rw [normalize_of_ne_object (by simp [hlisted]), hlisted]
      rfl

/-- Other members stay as they are. -/
theorem get?_normalize_of_not_mem {key : String}
    (h : key ∉ ["table", "properties", "fullText", "full_text"]) (data : Members) :
    (normalize data).get? key = data.get? key := by
  simp only [List.mem_cons, List.not_mem_nil, or_false, not_or] at h
  rw [get?_normalize h.2.1, get?_listed (by simpa using h.2.2), get?_nameTable h.1]

/-- What a member is brought into depends on that member only, but for the name of the table. -/
theorem get?_normalize_congr {key : String} (hkey : key ≠ "table")
    (h : data.get? key = data'.get? key) :
    (normalize data).get? key = (normalize data').get? key := by
  by_cases hproperties : key = "properties"
  · subst hproperties
    rw [get?_normalize_properties, get?_normalize_properties, h]
  · by_cases hfulltext : key ∈ ["fullText", "full_text"]
    · rw [get?_normalize_fulltext hfulltext, get?_normalize_fulltext hfulltext, h]
    · have hother : key ∉ ["table", "properties", "fullText", "full_text"] := by
        simp only [List.mem_cons, List.not_mem_nil, or_false, not_or] at hfulltext ⊢
        exact ⟨hkey, hproperties, hfulltext⟩
      rw [get?_normalize_of_not_mem hother, get?_normalize_of_not_mem hother, h]

/-- The name of the table depends on the table and the type that are given. -/
theorem get?_normalize_table_congr (htable : data.get? "table" = data'.get? "table")
    (htype : data.get? "type" = data'.get? "type") :
    (normalize data).get? "table" = (normalize data').get? "table" := by
  rw [get?_normalize (by decide), get?_normalize (by decide), get?_listed (by decide),
    get?_listed (by decide)]
  have htableD : data.getD "table" = data'.getD "table" := by
    unfold Members.getD
    rw [htable]
  have htypeD : data.getD "type" = data'.getD "type" := by
    unfold Members.getD
    rw [htype]
  unfold nameTable
  dsimp only
  rw [htableD, htypeD]
  split
  · rw [Members.get?_put, Members.get?_put, if_pos rfl, if_pos rfl]
  · exact htable

/-- Documents of which the members that make up a field are read alike, for every field. -/
structure ReadAlike (data data' : Members) : Prop where
  plain : ∀ key ∈ ["table", "type", "description", "required", "etag"],
    data.get? key = data'.get? key
  fulltext : ((data.get? "fullText").or (data.get? "full_text")).map namesOfValue =
    ((data'.get? "fullText").or (data'.get? "full_text")).map namesOfValue
  id : (data.get? "$id").or (data.get? "id") = (data'.get? "$id").or (data'.get? "id")
  columns : ∀ columns, Gives (object Column.check) [] ((data.get? "properties").map splitColumns)
    columns ↔ Gives (object Column.check) [] ((data'.get? "properties").map splitColumns) columns
  relations : ∀ relations, Gives (object Relation.check) [] (data.get? "relations") relations ↔
    Gives (object Relation.check) [] (data'.get? "relations") relations
  indices : ∀ indices, Gives (list Index.check) [] (data.get? "indices") indices ↔
    Gives (list Index.check) [] (data'.get? "indices") indices
  constraints : ∀ constraints,
    Gives (list Constraint.read) [] (data.get? "constraints") constraints ↔
      Gives (list Constraint.read) [] (data'.get? "constraints") constraints

namespace ReadAlike

theorem symm (h : ReadAlike data data') : ReadAlike data' data where
  plain key hkey := (h.plain key hkey).symm
  fulltext := h.fulltext.symm
  id := h.id.symm
  columns columns := (h.columns columns).symm
  relations relations := (h.relations relations).symm
  indices indices := (h.indices indices).symm
  constraints constraints := (h.constraints constraints).symm

theorem readFrom (h : ReadAlike data data') (hread : s.ReadFrom (normalize data)) :
    s.ReadFrom (normalize data') := by
  have hplain : ∀ key ∈ ["type", "description", "required", "etag"],
      (normalize data').get? key = (normalize data).get? key := by
    intro key hkey
    refine (get?_normalize_congr ?_ (h.plain key (List.mem_cons_of_mem _ hkey))).symm
    rintro rfl
    revert hkey
    decide
  constructor
  case table =>
    rw [← get?_normalize_table_congr (h.plain "table" (by decide)) (h.plain "type" (by decide))]
    exact hread.table
  case type =>
    rw [hplain "type" (by decide)]
    exact hread.type
  case description =>
    rw [hplain "description" (by decide)]
    exact hread.description
  case required =>
    rw [hplain "required" (by decide)]
    exact hread.required
  case etag =>
    rw [hplain "etag" (by decide)]
    exact hread.etag
  case columns =>
    have hcolumns := hread.columns
    rw [get?_normalize_properties] at hcolumns ⊢
    exact (h.columns _).mp hcolumns
  case fulltext =>
    have hfulltext := hread.fulltext
    rw [get?_normalize_fulltext (by decide), get?_normalize_fulltext (by decide),
      ← Option.map_or] at hfulltext ⊢
    rwa [← h.fulltext]
  case indices =>
    have hindices := hread.indices
    rw [get?_normalize_of_not_mem (by decide)] at hindices ⊢
    exact (h.indices _).mp hindices
  case relations =>
    have hrelations := hread.relations
    rw [get?_normalize_of_not_mem (by decide)] at hrelations ⊢
    exact (h.relations _).mp hrelations
  case constraints =>
    have hconstraints := hread.constraints
    rw [get?_normalize_of_not_mem (by decide)] at hconstraints ⊢
    exact (h.constraints _).mp hconstraints
  case id =>
    have hid := hread.id
    rw [get?_normalize_of_not_mem (by decide), get?_normalize_of_not_mem (by decide)] at hid ⊢
    rwa [← h.id]

/-- Documents that are read alike give the same schemas. -/
theorem ofValue_eq_ok_iff (h : ReadAlike data data') :
    ofValue (.object data) = .ok s ↔ ofValue (.object data') = .ok s := by
  rw [ofValue_object_eq_ok_iff, ofValue_object_eq_ok_iff, checkFields_eq_valid_iff,
    checkFields_eq_valid_iff]
  exact and_congr_left fun _ => ⟨h.readFrom, h.symm.readFrom⟩

/-- Documents with the same members but for one, which is read alike. -/
theorem of_put {key : String} {v w : Value} (hget : data.get? key = some v)
    (hcolumns : key = "properties" → Alike (object Column.check) (splitColumns v) (splitColumns w))
    (hrelations : key = "relations" → Alike (object Relation.check) v w)
    (hindices : key = "indices" → Alike (list Index.check) v w)
    (hconstraints : key = "constraints" → Alike (list Constraint.read) v w)
    (hkey : key ∈ ["properties", "relations", "indices", "constraints"]) :
    ReadAlike data (data.put key w) := by
  have hother : ∀ other, other ≠ key → (data.put key w).get? other = data.get? other := by
    intro other hne
    rw [Members.get?_put, if_neg hne]
  have hpart : ∀ {α : Type} {check : Value → Checked (List α)} {f : Value → Value} (part : String),
      (key = part → Alike check (f v) (f w)) → ∀ as,
        Gives check [] ((data.get? part).map f) as ↔
          Gives check [] (((data.put key w).get? part).map f) as := by
    intro α check f part halike as
    by_cases heq : key = part
    · subst heq
      rw [Members.get?_put, if_pos rfl, hget]
      exact (halike rfl).gives [] as
    · rw [hother part (Ne.symm heq)]
  have hne : ∀ other ∈ ["table", "type", "description", "required", "etag", "fullText", "full_text",
      "$id", "id"], other ≠ key := by
    rintro _ hmem rfl
    simp only [List.mem_cons, List.not_mem_nil, or_false] at hkey hmem
    rcases hkey with rfl | rfl | rfl | rfl <;> simp at hmem
  constructor
  case plain =>
    intro other hmem
    exact (hother other (hne other (List.mem_append_left _ hmem))).symm
  case fulltext =>
    rw [hother "fullText" (hne _ (by decide)), hother "full_text" (hne _ (by decide))]
  case id => rw [hother "$id" (hne _ (by decide)), hother "id" (hne _ (by decide))]
  case columns => exact hpart "properties" hcolumns
  case relations => simpa using hpart (f := fun v => v) "relations" hrelations
  case indices => simpa using hpart (f := fun v => v) "indices" hindices
  case constraints => simpa using hpart (f := fun v => v) "constraints" hconstraints

end ReadAlike

/-! ## Documents that differ in one part -/

/-- Documents that differ in one object only, and there as said. -/
inductive DifferInPart (column : String → Members → Members → Prop)
    (relation index check : Members → Members → Prop) : Members → Members → Prop
  | column {data old new after : Members} (name : String) (before : Members)
      (hget : data.get? "properties" = some (.object (before ++ (name, .object old) :: after)))
      (h : column name old new) :
      DifferInPart column relation index check data
        (data.put "properties" (.object (before ++ (name, .object new) :: after)))
  | relation {data old new after : Members} {name : String} (before : Members)
      (hget : data.get? "relations" = some (.object (before ++ (name, .object old) :: after)))
      (h : relation old new) :
      DifferInPart column relation index check data
        (data.put "relations" (.object (before ++ (name, .object new) :: after)))
  | index {data old new : Members} (before : List Value) {after : List Value}
      {make : List Value → Value}
      (hmake : Value.IsSequence make)
      (hget : data.get? "indices" = some (make (before ++ .object old :: after)))
      (h : index old new) :
      DifferInPart column relation index check data
        (data.put "indices" (make (before ++ .object new :: after)))
  | check {data old new : Members} (before : List Value) {after : List Value}
      {make : List Value → Value}
      (hmake : Value.IsSequence make)
      (hget : data.get? "constraints" = some (make (before ++ .object old :: after)))
      (h : check old new) :
      DifferInPart column relation index check data
        (data.put "constraints" (make (before ++ .object new :: after)))

variable {column : String → Members → Members → Prop}
  {relation index check : Members → Members → Prop}

/-- Documents that differ in a part that is read alike are read alike. -/
theorem ReadAlike.of_differInPart (h : DifferInPart column relation index check data data')
    (hcolumn : ∀ name old new, column name old new →
      Alike Column.check (splitIndex name (.object old)) (splitIndex name (.object new)))
    (hrelation : ∀ old new, relation old new → Alike Relation.check (.object old) (.object new))
    (hindex : ∀ old new, index old new → Alike Index.check (.object old) (.object new))
    (hcheck : ∀ old new, check old new → Alike Constraint.read (.object old) (.object new)) :
    ReadAlike data data' := by
  cases h with
  | column name before hget h =>
    refine of_put hget (fun _ => ?_) (by simp) (by simp) (by simp) (by decide)
    unfold splitColumns
    simp only [List.map_append, List.map_cons]
    exact (hcolumn _ _ _ h).object _ _ _
  | relation before hget h =>
    exact of_put hget (by simp) (fun _ => (hrelation _ _ h).object _ _ _) (by simp) (by simp)
      (by decide)
  | index before hmake hget h =>
    exact of_put hget (by simp) (by simp) (fun _ => (hindex _ _ h).sequence hmake _ _) (by simp)
      (by decide)
  | check before hmake hget h =>
    exact of_put hget (by simp) (by simp) (by simp) (fun _ => (hcheck _ _ h).sequence hmake _ _)
      (by decide)

end Schema

end SqlCompiler
