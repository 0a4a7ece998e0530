import Mathlib.Logic.Relation
import SqlCompiler.Proofs.Lists
import SqlCompiler.Proofs.Schema.Alike

/-!
# Spellings and order of keys

Some keys of a document have two spellings. Where only one of the two is there, it may be changed to
the other one, and the keys of an object that is read field by field may be put in any order. What
is under each key or pair of spellings stays the same (`SameView.of_respelled`), also when the
document is brought into shape, and so does what is read (`Schema.ofValue_respelled`).
-/

namespace SqlCompiler

open Checked

/-- Keys with two spellings. -/
abbrev Spellings := List (String × String)

def Column.spellings : Spellings :=
  [("maxLength", "max_length"), ("exclusiveMinimum", "exclusive_minimum"),
    ("exclusiveMaximum", "exclusive_maximum"), ("primaryKey", "primary_key"),
    ("dateOn", "date_on"), ("as", "as_"), ("readOnly", "read_only")]

def Index.spellings : Spellings :=
  [("subType", "sub_type")]

def Schema.spellings : Spellings :=
  [("fullText", "full_text"), ("$id", "id")]

/-- One change of an object that has each key once: its keys are put in another order, or a key gets
its other spelling, which is not there yet. -/
inductive Respelled (spellings : Spellings) : Members → Members → Prop
  | reordered {data data' : Members} (hkeys : data.keys.Nodup) (h : data.Perm data') :
      Respelled spellings data data'
  | renamed (before : Members) {after : Members} {key : String} (other : String) {v : Value}
      (hkeys : (before ++ (key, v) :: after).keys.Nodup)
      (hspelling : (key, other) ∈ spellings ∨ (other, key) ∈ spellings)
      (hother : other ∉ (before ++ (key, v) :: after).keys) :
      Respelled spellings (before ++ (key, v) :: after) (before ++ (other, v) :: after)

/-! ## Views -/

/-- Objects with the same value under each key, whichever of its spellings is used. -/
structure SameView (spellings : Spellings) (data data' : Members) : Prop where
  plain : ∀ key, (∀ p ∈ spellings, key ≠ p.1 ∧ key ≠ p.2) → data.get? key = data'.get? key
  spelled : ∀ p ∈ spellings,
    (data.get? p.1).or (data.get? p.2) = (data'.get? p.1).or (data'.get? p.2)

/-- No key is a spelling of two keys. -/
def Spellings.AreApart (spellings : Spellings) : Prop :=
  ∀ p ∈ spellings, ∀ q ∈ spellings, p = q ∨ (p.1 ≠ q.1 ∧ p.1 ≠ q.2 ∧ p.2 ≠ q.1 ∧ p.2 ≠ q.2)

namespace SameView

variable {spellings : Spellings} {data data' : Members}

theorem of_get? (h : ∀ key, data.get? key = data'.get? key) : SameView spellings data data' where
  plain key _ := h key
  spelled p _ := by rw [h, h]

theorem of_respelled (hapart : spellings.AreApart) (h : Respelled spellings data data') :
    SameView spellings data data' := by
  cases h with
  | reordered hkeys h => exact of_get? fun key => (lookup_eq_of_perm h hkeys key).symm
  | @renamed before after key other v hkeys hspelling hother =>
    have hnone : Members.get? (before ++ (key, v) :: after) other = none :=
      Members.get?_eq_none hother
    rw [Members.keys_append_cons] at hkeys hother
    have hkey := (List.nodup_cons.mp (List.nodup_middle.mp hkeys)).1
    simp only [List.mem_append, List.mem_cons, not_or] at hkey hother
    obtain ⟨hbefore, hafter⟩ := hkey
    obtain ⟨hotherBefore, hne, hotherAfter⟩ := hother
    -- Only the two spellings are found differently, and of them each time only one is found.
    have hsame : ∀ k, k ≠ key → k ≠ other → Members.get? (before ++ (key, v) :: after) k =
        Members.get? (before ++ (other, v) :: after) k := by
      intro k hkey hother
      rw [Members.get?_append, Members.get?_append, Members.get?_cons, Members.get?_cons,
        if_neg hkey, if_neg hother]
    have hold : Members.get? (before ++ (key, v) :: after) key = some v :=
      Members.get?_append_cons hbefore
    have hnew : Members.get? (before ++ (other, v) :: after) other = some v :=
      Members.get?_append_cons hotherBefore
    have hgone : Members.get? (before ++ (other, v) :: after) key = none := by
      refine Members.get?_eq_none ?_
      rw [Members.keys_append_cons]
      simp only [List.mem_append, List.mem_cons, not_or]
      exact ⟨hbefore, Ne.symm hne, hafter⟩
    constructor
    case plain =>
      intro k hk
      rcases hspelling with hspelling | hspelling
      · exact hsame k (hk _ hspelling).1 (hk _ hspelling).2
      · exact hsame k (hk _ hspelling).2 (hk _ hspelling).1
    case spelled =>
      intro p hp
      rcases hspelling with hspelling | hspelling
      · rcases hapart _ hspelling p hp with rfl | ⟨h1, h2, h3, h4⟩
        · dsimp only
          rw [hold, hnone, hgone, hnew]
          rfl
        · rw [hsame p.1 (Ne.symm h1) (Ne.symm h3), hsame p.2 (Ne.symm h2) (Ne.symm h4)]
      · rcases hapart _ hspelling p hp with rfl | ⟨h1, h2, h3, h4⟩
        · dsimp only
          rw [hold, hnone, hgone, hnew]
          rfl
        · rw [hsame p.1 (Ne.symm h3) (Ne.symm h1), hsame p.2 (Ne.symm h4) (Ne.symm h2)]

theorem symm (h : SameView spellings data data') : SameView spellings data' data where
  plain key hkey := (h.plain key hkey).symm
  spelled p hp := (h.spelled p hp).symm

/-- Without spellings each key is looked up alike. -/
theorem get?_eq (h : SameView [] data data') (key : String) : data.get? key = data'.get? key :=
  h.plain key nofun

end SameView

/-! ## Columns -/

namespace Column

variable {data data' : Members} {c : Column}

theorem areApart_spellings : spellings.AreApart := by
  unfold Spellings.AreApart
  decide

theorem sameView_splitIndexMembers (h : SameView spellings data data') (name : String) :
    SameView spellings (Schema.splitIndexMembers name data)
      (Schema.splitIndexMembers name data') where
  plain key hkey := by
    rw [Schema.get?_splitIndexMembers, Schema.get?_splitIndexMembers, h.plain key hkey,
      h.plain "index" (by decide)]
  spelled p hp := by
    have hindex : ∀ p ∈ spellings, p.1 ≠ "index" ∧ p.2 ≠ "index" := by decide
    obtain ⟨hfirst, hsecond⟩ := hindex p hp
    simp only [Schema.get?_splitIndexMembers, if_neg hfirst, if_neg hsecond]
    exact h.spelled p hp

/-- Columns in shape are still the same but for the spellings. -/
theorem sameView_normalize (h : SameView spellings data data') :
    SameView spellings (normalize data) (normalize data') where
  plain key hkey := by
    by_cases htype : key = "type"
    · rw [htype]
      exact get?_normalize_type_congr (h.plain "type" (by decide)) (h.plain "format" (by decide))
    · by_cases hflag : key ∈ ["primaryKey", "primary_key", "unique"]
      · rw [get?_normalize_flag hflag, get?_normalize_flag hflag, h.plain key hkey]
      · rw [get?_normalize htype hflag, get?_normalize htype hflag, h.plain key hkey]
  spelled p hp := by
    have hkinds : ∀ p ∈ spellings, (p.1 ∈ ["primaryKey", "primary_key", "unique"] ∧
        p.2 ∈ ["primaryKey", "primary_key", "unique"]) ∨
        (p.1 ≠ "type" ∧ p.1 ∉ ["primaryKey", "primary_key", "unique"]) ∧
          p.2 ≠ "type" ∧ p.2 ∉ ["primaryKey", "primary_key", "unique"] := by
      decide
    rcases hkinds p hp with ⟨hfirst, hsecond⟩ | ⟨hfirst, hsecond⟩
    · rw [get?_normalize_flag hfirst, get?_normalize_flag hsecond, get?_normalize_flag hfirst,
        get?_normalize_flag hsecond, ← Option.map_or, ← Option.map_or, h.spelled p hp]
    · rw [get?_normalize hfirst.1 hfirst.2, get?_normalize hsecond.1 hsecond.2,
        get?_normalize hfirst.1 hfirst.2, get?_normalize hsecond.1 hsecond.2, h.spelled p hp]

theorem readFrom_of_sameView (h : SameView spellings data data') (hread : c.ReadFrom data) :
    c.ReadFrom data' where
  type := h.plain "type" (by decide) ▸ hread.type
  maxLength := h.spelled ("maxLength", "max_length") (by decide) ▸ hread.maxLength
  minimum := h.plain "minimum" (by decide) ▸ hread.minimum
  maximum := h.plain "maximum" (by decide) ▸ hread.maximum
  exclusiveMinimum :=
    h.spelled ("exclusiveMinimum", "exclusive_minimum") (by decide) ▸ hread.exclusiveMinimum
  exclusiveMaximum :=
    h.spelled ("exclusiveMaximum", "exclusive_maximum") (by decide) ▸ hread.exclusiveMaximum
  primaryKey := h.spelled ("primaryKey", "primary_key") (by decide) ▸ hread.primaryKey
  unique := h.plain "unique" (by decide) ▸ hread.unique
  default := h.plain "default" (by decide) ▸ hread.default
  dateOn := h.spelled ("dateOn", "date_on") (by decide) ▸ hread.dateOn
  generation := h.spelled ("as", "as_") (by decide) ▸ hread.generation
  constraint := h.plain "constraint" (by decide) ▸ hread.constraint
  index := h.plain "index" (by decide) ▸ hread.index
  description := h.plain "description" (by decide) ▸ hread.description
  format := h.plain "format" (by decide) ▸ hread.format
  readOnly := h.spelled ("readOnly", "read_only") (by decide) ▸ hread.readOnly

theorem alike_of_sameView (h : SameView spellings data data') (name : String) :
    Alike check (Schema.splitIndex name (.object data))
      (Schema.splitIndex name (.object data')) := by
  have hview := sameView_normalize (sameView_splitIndexMembers h name)
  intro c
  rw [Schema.splitIndex_object, Schema.splitIndex_object]
  show checkFields (normalize _) = _ ↔ checkFields (normalize _) = _
  rw [checkFields_eq_valid_iff, checkFields_eq_valid_iff]
  exact ⟨readFrom_of_sameView hview, readFrom_of_sameView hview.symm⟩

end Column

/-! ## Indices, relations and checks -/

theorem Index.areApart_spellings : Index.spellings.AreApart := by
  unfold Spellings.AreApart
  decide

theorem Index.readAlike_of_sameView {data data' : Members} (h : SameView spellings data data') :
    ReadAlike data data' where
  columns := by rw [h.plain "properties" (by decide)]
  plain key hkey := by
    refine h.plain key ?_
    revert key
    decide
  subType := h.spelled ("subType", "sub_type") (by decide)

theorem Relation.alike_of_get? {data data' : Members} (h : ∀ key, data.get? key = data'.get? key) :
    Alike check (.object data) (.object data') := by
  intro r
  unfold check field requiredField member?
  simp only [h]

theorem Constraint.alike_of_get? {data data' : Members}
    (h : ∀ key, data.get? key = data'.get? key) :
    Alike read (.object data) (.object data') := by
  intro c
  unfold read CheckConstraint.check? field requiredField member?
  simp only [h]
  exact Iff.rfl

/-! ## Schemas -/

namespace Schema

variable {data data' : Members}

theorem areApart_spellings : spellings.AreApart := by
  unfold Spellings.AreApart
  decide

theorem readAlike_of_sameView (h : SameView spellings data data') : ReadAlike data data' where
  plain key hkey := by
    refine h.plain key ?_
    revert key
    decide
  fulltext := by rw [h.spelled ("fullText", "full_text") (by decide)]
  id := h.spelled ("$id", "id") (by decide)
  columns _ := by rw [h.plain "properties" (by decide)]
  relations _ := by rw [h.plain "relations" (by decide)]
  indices _ := by rw [h.plain "indices" (by decide)]
  constraints _ := by rw [h.plain "constraints" (by decide)]

/-- One change of spelling or order in the document of a schema: of its own keys, or of those of a
column, a relation, an index or a check. -/
inductive DocumentRespelled : Members → Members → Prop
  | own {data data' : Members} (h : Respelled spellings data data') : DocumentRespelled data data'
  | part {data data' : Members} (h : DifferInPart (fun _ => Respelled Column.spellings)
      (Respelled []) (Respelled Index.spellings) (Respelled []) data data') :
      DocumentRespelled data data'

theorem readAlike_of_documentRespelled (h : DocumentRespelled data data') :
    ReadAlike data data' := by
  have hnone : Spellings.AreApart [] := nofun
  cases h with
  | own h => exact readAlike_of_sameView (.of_respelled areApart_spellings h)
  | part h =>
    refine .of_differInPart h ?_ ?_ ?_ ?_
    · intro name old new h
      exact Column.alike_of_sameView (.of_respelled Column.areApart_spellings h) name
    · intro old new h
      exact Relation.alike_of_get? (SameView.of_respelled hnone h).get?_eq
    · intro old new h
      exact (Index.readAlike_of_sameView (.of_respelled Index.areApart_spellings h)).check
    · intro old new h
      exact Constraint.alike_of_get? (SameView.of_respelled hnone h).get?_eq

/-- A document that is an object is read, or refused as a schema. -/
theorem ofValue_object_cases (data : Members) :
    (∃ s, ofValue (.object data) = .ok s) ∨ ∃ e, ofValue (.object data) = .error (.schema e) := by
  delta ofValue
  dsimp only
  cases checkFields (normalize data) with
  | valid s => exact .inl ⟨s, rfl⟩
  | invalid issues => exact .inr ⟨_, rfl⟩

/-- **Spellings and the order of keys do not matter.** A document that is respelled, in any number
of steps, gives the schema that it gave, or is refused as it was. -/
theorem ofValue_respelled (h : Relation.ReflTransGen DocumentRespelled data data') :
    (∃ s, ofValue (.object data) = .ok s ∧ ofValue (.object data') = .ok s) ∨
      ∃ e e', ofValue (.object data) = .error (.schema e) ∧
        ofValue (.object data') = .error (.schema e') := by
  have hsame : ∀ s, ofValue (.object data) = .ok s ↔ ofValue (.object data') = .ok s := by
    intro s
    induction h with
    | refl => exact Iff.rfl
    | tail _ h ih => exact ih.trans (readAlike_of_documentRespelled h).ofValue_eq_ok_iff
  rcases ofValue_object_cases data with ⟨s, hs⟩ | ⟨e, he⟩
  · exact .inl ⟨s, hs, (hsame s).mp hs⟩
  · rcases ofValue_object_cases data' with ⟨s, hs⟩ | ⟨e', he'⟩
    · rw [(hsame s).mpr hs] at he
      cases he
    · exact .inr ⟨e, e', he, he'⟩

def camelDocument : Members :=
  [("$id", .text "file:///m.py"),
    ("properties", .object [("n", .object [("primaryKey", .text "yes"), ("type", .text "integer")]),
      ("of", .object [])]),
    ("indices", .list [.object [("properties", .text "of"), ("subType", .text "BTREE")]]),
    ("relations", .object [("r", .object [("join", .text "of"), ("target", .text "T")])])]

/-- The document with other spellings and in another order. -/
def snakeDocument : Members :=
  [("properties", .object [("n", .object [("type", .text "integer"), ("primary_key", .text "yes")]),
      ("of", .object [])]),
    ("id", .text "file:///m.py"),
    ("indices", .list [.object [("properties", .text "of"), ("sub_type", .text "BTREE")]]),
    ("relations", .object [("r", .object [("target", .text "T"), ("join", .text "of")])])]

theorem ofValue_respelled_snake :
    Relation.ReflTransGen DocumentRespelled camelDocument snakeDocument ∧
      ∃ s, ofValue (.object camelDocument) = .ok s ∧ ofValue (.object snakeDocument) = .ok s := by
  have hchain : Relation.ReflTransGen DocumentRespelled camelDocument snakeDocument :=
    .head (.own (.renamed [] "id" (by decide) (by decide) (by decide))) <|
    .head (.own (.reordered (by decide) (.swap _ _ _))) <|
    .head (.part (.column "n" [] rfl
      (.renamed [] "primary_key" (by decide) (by decide) (by decide)))) <|
    .head (.part (.column "n" [] rfl (.reordered (by decide) (.swap _ _ _)))) <|
    .head (.part (.index [] .list rfl (.renamed [("properties", .text "of")] "sub_type"
      (by decide) (by decide) (by decide)))) <|
    .single (.part (.relation [] rfl (.reordered (by decide) (.swap _ _ _))))
  have hread : (ofValue (.object camelDocument)).toOption.isSome = true := by
    decide
  obtain ⟨s, hs⟩ := Option.isSome_iff_exists.mp hread
  have hs := Log.eq_ok_of_toOption hs
  rcases ofValue_respelled hchain with ⟨s', hs', hsame⟩ | ⟨e, _, he, _⟩
  · exact ⟨hchain, s', hs', hsame⟩
  · rw [hs] at he
    cases he

end Schema

end SqlCompiler
