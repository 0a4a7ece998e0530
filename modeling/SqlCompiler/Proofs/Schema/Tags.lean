import Mathlib.Logic.Relation
import SqlCompiler.Proofs.Schema.Alike
import SqlCompiler.Proofs.Text.OneLine
import SqlCompiler.Proofs.Text.Split

/-!
# Tags

Names of columns may be given as a list or as a tag: one text, with commas between the names, any
blanks around them and any blank items. A tag is cut into its names (`splitNames_of_isTag`). So in a
document of a schema lists of names may become tags, and it gives the same schema as before
(`Schema.ofValue_retagged`).
-/

namespace SqlCompiler

/-! ## Names in tags -/

/-- A name that can stand in a tag: it is not empty, has no comma, and neither begins nor ends with
a blank. -/
structure IsTagName (name : String) : Prop where
  nonempty : name ≠ ""
  comma : ',' ∉ name.toList
  first : ∀ c ∈ name.toList.head?, Text.isBlank c = false
  last : ∀ c ∈ name.toList.getLast?, Text.isBlank c = false

instance (name : String) : Decidable (IsTagName name) :=
  decidable_of_iff ((name ≠ "" ∧ name.toList.contains ',' = false) ∧
      name.toList.head?.all (!Text.isBlank ·) = true ∧
      name.toList.getLast?.all (!Text.isBlank ·) = true) <| by
    simp only [Option.all_eq_true, Bool.not_eq_true', List.contains_eq_mem,
      decide_eq_false_iff_not]
    exact ⟨fun h => ⟨h.1.1, h.1.2, h.2.1, h.2.2⟩,
      fun h => ⟨⟨h.nonempty, h.comma⟩, h.first, h.last⟩⟩

/-- Whether all characters are blank, if there are any. -/
def IsBlankText (s : String) : Prop :=
  ∀ c ∈ s.toList, Text.isBlank c = true

instance (s : String) : Decidable (IsBlankText s) :=
  decidable_of_iff (s.toList.all Text.isBlank = true) List.all_eq_true

/-- The items of a tag with the names among them: names with blanks around them, and blank items. -/
inductive TagItems : List String → List String → Prop
  | nil : TagItems [] []
  | blank {names items : List String} {item : String} (hitem : IsBlankText item)
      (h : TagItems names items) : TagItems names (item :: items)
  | name {names items : List String} {before name after : String} (hname : IsTagName name)
      (hbefore : IsBlankText before) (hafter : IsBlankText after) (h : TagItems names items) :
      TagItems (name :: names) ((before ++ name ++ after) :: items)

/-- A tag of names: items with commas between. -/
def IsTag (names : List String) (tag : String) : Prop :=
  ∃ items, TagItems names items ∧ tag = ",".intercalate items

theorem TagItems.bare {names items : List String} {name : String} (hname : IsTagName name)
    (h : TagItems names items) : TagItems (name :: names) (name :: items) := by
  have hempty : IsBlankText "" := by
    intro c hc
    cases hc
  simpa using h.name hname hempty hempty

theorem isTag_singleton {name : String} (h : IsTagName name) : IsTag [name] name :=
  ⟨[name], TagItems.nil.bare h, String.intercalate_singleton.symm⟩

theorem comma_not_mem_of_isBlankText {s : String} (h : IsBlankText s) : ',' ∉ s.toList := by
  intro hc
  have hblank := h ',' hc
  revert hblank
  decide

theorem TagItems.comma_not_mem {names items : List String} (h : TagItems names items) :
    ∀ item ∈ items, ',' ∉ item.toList := by
  induction h with
  | nil => exact nofun
  | blank hitem _ ih => exact List.forall_mem_cons.mpr ⟨comma_not_mem_of_isBlankText hitem, ih⟩
  | name hname hbefore hafter _ ih =>
    refine List.forall_mem_cons.mpr ⟨?_, ih⟩
    simp only [String.toList_append, List.mem_append, not_or]
    exact ⟨⟨comma_not_mem_of_isBlankText hbefore, hname.comma⟩,
      comma_not_mem_of_isBlankText hafter⟩

theorem strip_of_isBlankText {s : String} (h : IsBlankText s) : Text.strip s = "" := by
  unfold Text.strip
  rw [Text.trimBoth_of_forall h]

theorem strip_pad {before name after : String} (hname : IsTagName name)
    (hbefore : IsBlankText before) (hafter : IsBlankText after) :
    Text.strip (before ++ name ++ after) = name := by
  have hne : name.toList ≠ [] := by
    simpa using hname.nonempty
  unfold Text.strip
  rw [String.toList_append, String.toList_append,
    Text.trimBoth_pad hne hbefore hafter hname.first hname.last, String.ofList_toList]

theorem TagItems.filter_strip {names items : List String} (h : TagItems names items) :
    (items.map Text.strip).filter (!·.isEmpty) = names := by
  induction h with
  | nil => rfl
  | blank hitem _ ih =>
    rw [List.map_cons, strip_of_isBlankText hitem, List.filter_cons_of_neg (by decide), ih]
  | name hname hbefore hafter _ ih =>
    rw [List.map_cons, strip_pad hname hbefore hafter,
      List.filter_cons_of_pos (by simpa using hname.nonempty), ih]

/-- A tag is cut into its names. -/
theorem splitNames_of_isTag {names : List String} {tag : String} (h : IsTag names tag) :
    splitNames tag = names := by
  obtain ⟨items, hitems, rfl⟩ := h
  by_cases hnil : items = []
  · -- Even an empty text has one item, which is blank.
    rw [hnil] at hitems ⊢
    cases hitems
    decide
  · have hsplit : Text.split ',' (",".intercalate items) = items := by
      unfold Text.split
      rw [Text.splitAt_intercalate (by decide) hnil hitems.comma_not_mem]
      simp
    unfold splitNames
    rw [hsplit]
    exact hitems.filter_strip

theorem namesOfValue_of_isTag {names : List String} {tag : String} (h : IsTag names tag) :
    namesOfValue (.text tag) = nameList names := by
  unfold namesOfValue nameList
  dsimp only
  rw [splitNames_of_isTag h]

/-! ## Lists that become tags -/

namespace Schema

variable {data data' : Members} {s : Schema}

/-- The index list of a column becomes a tag. An empty tag stands for the name of the column, so it
is no tag of the empty list here. -/
inductive IndexRetagged (name : String) : Members → Members → Prop
  | names {column : Members} {names : List String} {tag : String}
      (hget : column.get? "index" = some (nameList names)) (hne : names ≠ [])
      (h : IsTag names tag) :
      IndexRetagged name column (column.put "index" (.text tag))
  | own {column : Members} (hget : column.get? "index" = some (nameList [name]))
      (hname : IsTagName name) : IndexRetagged name column (column.put "index" (.text ""))

/-- The columns of an index become a tag. -/
inductive ColumnsRetagged : Members → Members → Prop
  | names {index : Members} {names : List String} {tag : String}
      (hget : index.get? "properties" = some (nameList names)) (h : IsTag names tag) :
      ColumnsRetagged index (index.put "properties" (.text tag))

/-- One list of names in the document of a schema becomes a tag: its full text list, the index of a
column, or the columns of an index. -/
inductive Retagged : Members → Members → Prop
  | fulltext {data : Members} (key : String) {names : List String} {tag : String}
      (hkey : key ∈ ["fullText", "full_text"]) (hget : data.get? key = some (nameList names))
      (h : IsTag names tag) : Retagged data (data.put key (.text tag))
  | part {data data' : Members} (h : DifferInPart IndexRetagged (fun _ _ => False) ColumnsRetagged
      (fun _ _ => False) data data') : Retagged data data'

/-- A tag that is not empty, or means the column, is brought into shape as the list that it was. -/
theorem splitIndex_of_indexRetagged {name : String} {old new : Members}
    (h : IndexRetagged name old new) :
    splitIndex name (.object new) = splitIndex name (.object old) := by
  have hshape : ∀ {names : List String} {tag : String},
      old.get? "index" = some (nameList names) → indexValue name (.text tag) = nameList names →
        splitIndex name (.object (old.put "index" (.text tag))) =
          splitIndex name (.object old) := by
    intro names tag hget hvalue
    rw [splitIndex_object, splitIndex_object]
    unfold splitIndexMembers
    rw [hget, Members.get?_put, if_pos rfl]
    dsimp only
    rw [hvalue, Members.put_put]
    rfl
  cases h with
  | names hget hne h =>
    refine hshape hget ?_
    rename_i names tag
    have htag : tag.isEmpty = false := by
      refine Bool.eq_false_iff.mpr fun hempty => hne ?_
      rw [String.isEmpty_iff.mp hempty] at h
      exact (splitNames_of_isTag h).symm
    unfold indexValue
    dsimp only
    rw [htag]
    exact namesOfValue_of_isTag h
  | own hget hname => exact hshape hget (namesOfValue_of_isTag (isTag_singleton hname))

theorem readAlike_of_columnsRetagged {old new : Members} (h : ColumnsRetagged old new) :
    Index.ReadAlike old new := by
  cases h with
  | names hget h =>
    constructor
    case columns =>
      rw [Members.get?_put, if_pos rfl, hget]
      exact congrArg some (namesOfValue_of_isTag h).symm
    case plain =>
      intro key hkey
      rw [Members.get?_put, if_neg]
      rintro rfl
      revert hkey
      decide
    case subType =>
      rw [Members.get?_put, Members.get?_put, if_neg (by decide), if_neg (by decide)]

theorem readAlike_put_fulltext {key : String} {names : List String} {tag : String}
    (hkey : key ∈ ["fullText", "full_text"]) (hget : data.get? key = some (nameList names))
    (h : IsTag names tag) : ReadAlike data (data.put key (.text tag)) := by
  have hother : ∀ other ∉ ["fullText", "full_text"],
      data.get? other = (data.put key (.text tag)).get? other := by
    intro other hmem
    rw [Members.get?_put, if_neg]
    rintro rfl
    exact hmem hkey
  have hnames : ∀ other, (data.get? other).map namesOfValue =
      ((data.put key (.text tag)).get? other).map namesOfValue := by
    intro other
    rw [Members.get?_put]
    split
    · rename_i heq
      rw [heq, hget]
      exact congrArg some (namesOfValue_of_isTag h).symm
    · rfl
  constructor
  case plain =>
    intro other hmem
    refine hother other fun hfulltext => ?_
    simp only [List.mem_cons, List.not_mem_nil, or_false] at hmem hfulltext
    rcases hfulltext with rfl | rfl <;> simp at hmem
  case fulltext => rw [Option.map_or, Option.map_or, hnames, hnames]
  case id => rw [hother "$id" (by decide), hother "id" (by decide)]
  case columns => exact fun _ => by rw [hother "properties" (by decide)]
  case relations => exact fun _ => by rw [hother "relations" (by decide)]
  case indices => exact fun _ => by rw [hother "indices" (by decide)]
  case constraints => exact fun _ => by rw [hother "constraints" (by decide)]

theorem readAlike_of_retagged (h : Retagged data data') : ReadAlike data data' := by
  cases h with
  | fulltext key hkey hget h => exact readAlike_put_fulltext hkey hget h
  | part h =>
    refine .of_differInPart h ?_ nofun ?_ nofun
    · intro name old new h v
      rw [splitIndex_of_indexRetagged h]
    · intro old new h
      exact (readAlike_of_columnsRetagged h).check

/-- **Tags mean the same as lists.** When lists of names in the document of a schema become tags,
any number of them, the document gives the schema that it gave. -/
theorem ofValue_retagged (h : Relation.ReflTransGen Retagged data data') :
    ofValue (.object data) = .ok s ↔ ofValue (.object data') = .ok s := by
  induction h with
  | refl => exact Iff.rfl
  | tail _ h ih => exact ih.trans (readAlike_of_retagged h).ofValue_eq_ok_iff

/-- A document with lists of names. -/
def listedNames : Members :=
  [("properties", .object [("a", .object [("index", nameList ["a"])]),
      ("b", .object [("index", nameList ["b", "a"])])]),
    ("fullText", nameList ["a", "b"]),
    ("indices", .list [.object [("properties", nameList ["b", "a"])]])]

/-- The document with a tag in the place of each list. -/
def taggedNames : Members :=
  [("properties", .object [("a", .object [("index", .text "")]),
      ("b", .object [("index", .text "b,, a\t")])]),
    ("fullText", .text "a,b, "),
    ("indices", .list [.object [("properties", .text ",\u3000b,a")]])]

theorem ofValue_retagged_everywhere : Relation.ReflTransGen Retagged listedNames taggedNames ∧
    ∃ s, ofValue (.object listedNames) = .ok s ∧ ofValue (.object taggedNames) = .ok s := by
  have ha : IsTagName "a" := by decide
  have hb : IsTagName "b" := by decide
  have hfulltext : IsTag ["a", "b"] "a,b, " :=
    ⟨["a", "b", " "], .bare ha (.bare hb (.blank (by decide) .nil)), by decide⟩
  have hindex : IsTag ["b", "a"] "b,, a\t" :=
    ⟨["b", "", " " ++ "a" ++ "\t"], .bare hb (.blank (by decide)
      (.name ha (by decide) (by decide) .nil)), by decide⟩
  have hcolumns : IsTag ["b", "a"] ",\u3000b,a" :=
    ⟨["", "\u3000" ++ "b" ++ "", "a"], .blank (by decide)
      (.name hb (by decide) (by decide) (.bare ha .nil)), by decide⟩
  have hchain : Relation.ReflTransGen Retagged listedNames taggedNames :=
    .head (.fulltext "fullText" (by decide) rfl hfulltext) <|
    .head (.part (.column "b" [("a", .object [("index", nameList ["a"])])] rfl
      (.names rfl (by decide) hindex))) <|
    .head (.part (.column "a" [] rfl (.own rfl ha))) <|
    .single (.part (.index [] .list rfl (.names rfl hcolumns)))
  have hread : (ofValue (.object listedNames)).toOption.isSome = true := by
    decide
  obtain ⟨s, hs⟩ := Option.isSome_iff_exists.mp hread
  have hs := Log.eq_ok_of_toOption hs
  exact ⟨hchain, s, hs, (ofValue_retagged hchain).mp hs⟩

end Schema

end SqlCompiler
