import SqlCompiler.Ddl.Column
import SqlCompiler.Ddl.Constraint
import SqlCompiler.Proofs.Schema.Enhancing
import SqlCompiler.Proofs.Sql.Quoting
import SqlCompiler.Proofs.Text.Digits

/-!
# Enhanced schemas in statements

The columns that a schema declares are written to a document and read again when it gets base
columns. A value survives that as a default if its document form has the same literal
(`literalDefault?_documentForm_iff`), and a column if its default does and it is no date with a
time that has another type (`sameClauses_rewritten_iff`). So statements say of the declared columns
of an enhanced schema what they say of the schema exactly if those survive (`sameClauses_enhance`).
-/

namespace SqlCompiler

open Sql

/-! ## Bare texts -/

/-- Characters without an apostrophe and an opening parenthesis. -/
def IsBare (s : List Char) : Prop :=
  ∀ c ∈ s, c ≠ '\'' ∧ c ≠ '('

@[simp] theorem isBare_nil : IsBare [] :=
  List.forall_mem_nil _

@[simp] theorem isBare_cons {c : Char} {s : List Char} :
    IsBare (c :: s) ↔ (c ≠ '\'' ∧ c ≠ '(') ∧ IsBare s :=
  List.forall_mem_cons

@[simp] theorem isBare_append {s t : List Char} : IsBare (s ++ t) ↔ IsBare s ∧ IsBare t :=
  List.forall_mem_append

theorem IsBare.subset {s t : List Char} (h : IsBare t) (hsub : s ⊆ t) : IsBare s :=
  fun c hc => h c (hsub hc)

theorem isBare_of_isDigit {s : List Char} (h : ∀ c ∈ s, c.isDigit = true) : IsBare s := by
  intro c hc
  have hdigit := h c hc
  constructor
  · rintro rfl
    exact absurd hdigit (by decide)
  · rintro rfl
    exact absurd hdigit (by decide)

@[simp] theorem isBare_padded (width n : Nat) : IsBare (Text.padded width n).toList :=
  isBare_of_isDigit fun _ => Text.isDigit_of_mem_padded

@[simp] theorem isBare_digitsOn (n : Nat) : IsBare (Text.digitsOn 10 n []) := by
  rw [Text.digitsOn_eq (by decide), List.append_nil]
  exact isBare_of_isDigit fun _ => Nat.isDigit_of_mem_toDigits (by decide) (by decide)

theorem isBare_date (d : Date) : IsBare d.text.toList := by
  simp [Date.text, String.toList_append]

theorem isBare_minutesText (seconds : Nat) : IsBare (minutesText seconds).toList := by
  simp [minutesText, String.toList_append]

theorem zuluOffsetText_cases (n : Int) : zuluOffsetText n = "Z" ∨ zuluOffsetText n =
    (if n < 0 then "-" else "+") ++ minutesText ((n.natAbs + 500000) / 1000000) := by
  by_cases h : (n.natAbs + 500000) / 1000000 = 0
  · exact .inl (if_pos h)
  · exact .inr (if_neg h)

theorem isBare_zuluTime (t : TimeOfDay) : IsBare t.zuluText.toList := by
  have hfraction : IsBare (fractionText t.microsecond).toList := by
    unfold fractionText
    split
    · simp
    · simp [String.toList_append]
  have hoffset : ∀ n, IsBare (zuluOffsetText n).toList := by
    intro n
    rcases zuluOffsetText_cases n with hzero | hminutes
    · rw [hzero]
      simp
    · rw [hminutes, String.toList_append, isBare_append]
      refine ⟨?_, isBare_minutesText _⟩
      by_cases hn : n < 0
      · simp [hn]
      · simp [hn]
  have hend : IsBare ((t.offset.map zuluOffsetText).getD "").toList := by
    cases t.offset with
    | none => simp
    | some n =>
      rw [Option.map_some, Option.getD_some]
      exact hoffset n
  simp [TimeOfDay.zuluText, TimeOfDay.localText, String.toList_append, hfraction, hend]

theorem isBare_zuluDateTime (t : DateTime) : IsBare t.zuluText.toList := by
  simp [DateTime.zuluText, String.toList_append, isBare_date, isBare_zuluTime]

theorem isBare_magnitudeText (coefficient : Nat) (exponent : Int) :
    IsBare (Decimal.magnitudeText coefficient exponent) := by
  have hdigits := isBare_digitsOn coefficient
  have htake : ∀ k, IsBare ((Text.digitsOn 10 coefficient []).take k) :=
    fun k => hdigits.subset (List.take_subset k _)
  have hdrop : ∀ k, IsBare ((Text.digitsOn 10 coefficient []).drop k) :=
    fun k => hdigits.subset (List.drop_subset k _)
  have hzeros : ∀ k, IsBare (List.replicate k '0') :=
    fun k => isBare_of_isDigit fun c hc => by rw [List.eq_of_mem_replicate hc]; decide
  unfold Decimal.magnitudeText
  dsimp only
  split
  · split
    · exact hdigits
    · split
      · simp [hdigits]
      · simp [htake, hdrop]
      · simp [hzeros, hdigits]
  · rw [isBare_append]
    constructor
    · split
      · rename_i d e rest heq
        rw [heq] at hdigits
        simpa using hdigits
      · exact hdigits
    · simp only [isBare_cons]
      refine ⟨by decide, ?_, isBare_digitsOn _⟩
      split <;> decide

theorem isBare_decimal (d : Decimal) : IsBare d.text.toList := by
  have hsign : ∀ negative : Bool, IsBare (if negative then "-" else "").toList := by
    intro negative
    cases negative <;> simp
  cases d with
  | finite negative coefficient exponent =>
    simp [Decimal.text, String.toList_append, hsign, isBare_magnitudeText]
  | infinite negative => simp [Decimal.text, String.toList_append, hsign]
  | nan negative signalling payload =>
    have hname : IsBare (if signalling then "sNaN" else "NaN").toList := by
      cases signalling <;> simp
    cases payload with
    | none => simp [Decimal.text, String.toList_append, hsign, hname]
    | some n =>
      have hsigned : ¬ (n : Int) < 0 := by omega
      simp [Decimal.text, String.toList_append, hsign, hname, intText, hsigned]

namespace Ddl

theorem isEnclosed_eq_false {opening closing : Char} {s : String} (h : opening ∉ s.toList) :
    isEnclosed opening closing s = false := by
  have hhead : (s.toList.head? == some opening) = false := by
    refine beq_eq_false_iff_ne.mpr fun heq => h ?_
    exact List.mem_of_mem_head? (Option.mem_def.mpr heq)
  unfold isEnclosed
  rw [hhead]
  rfl

/-- A bare text becomes a literal. -/
theorem textDefault_of_isBare {s : String} (h : IsBare s.toList) : textDefault s = quoteText s := by
  unfold textDefault
  rw [isEnclosed_eq_false fun hmem => (h _ hmem).2 rfl,
    isEnclosed_eq_false fun hmem => (h _ hmem).1 rfl]
  rfl

/-! ## Defaults in document form -/

/-- Whether the document form of a value has the same compact JSON text. -/
def keepsJson (v : Value) : Bool :=
  v.documentForm.toOption.any fun w => Json.text .compact w == Json.text .compact v

/-- Whether the document form of a value has the same literal as a default. Decimals, bytes, dates
with a time and sets are written as texts and lists, and then stand in quotes or parentheses where
they did not, or are written in another way. -/
def keepsLiteral : Value → Bool
  | .decimal _ | .bytes _ | .dateTime _ | .set _ | .frozenSet _ => false
  | .float x => x.isFinite
  | .time t => t.zuluText == t.text
  | .list items => keepsJson (.list items)
  | .tuple items => keepsJson (.tuple items)
  | .object members => keepsJson (.object members)
  | _ => true

theorem length_le_length_flatMap {α β : Type} {f : α → List β} (hf : ∀ a, f a ≠ []) (l : List α) :
    l.length ≤ (l.flatMap f).length := by
  induction l with
  | nil => exact Nat.zero_le _
  | cons a l ih =>
    have hpos := List.length_pos_iff.mpr (hf a)
    rw [List.length_cons, List.flatMap_cons, List.length_append]
    omega

/-- A character has at least one byte. -/
theorem length_le_of_ofUtf8? {bs : List UInt8} {s : String} (h : Text.ofUtf8? bs = some s) :
    s.toList.length ≤ bs.length := by
  unfold Text.ofUtf8? String.fromUTF8? at h
  split at h
  · have hencode : s.toList.utf8Encode = ⟨bs.toArray⟩ := by
      rw [String.utf8Encode_toList, ← Option.some.inj h]
      rfl
    have hsize := congrArg ByteArray.size hencode
    unfold List.utf8Encode at hsize
    rw [List.size_toByteArray] at hsize
    have hcharacter (c : Char) : String.utf8EncodeChar c ≠ [] := by
      refine List.ne_nil_of_length_pos ?_
      rw [String.length_utf8EncodeChar]
      exact c.utf8Size_pos
    have hencoded := length_le_length_flatMap hcharacter s.toList
    have hbs : ByteArray.size ⟨bs.toArray⟩ = bs.length := rfl
    omega
  · cases h

theorem showByte_ne_nil (quote : Char) (b : UInt8) : Text.showByte quote b ≠ [] := by
  unfold Text.showByte Text.shortEscape?
  dsimp only
  split
  · rename_i shown hshown
    repeat' split at hshown
    all_goals cases hshown
    all_goals exact List.cons_ne_nil _ _
  · split
    · exact List.cons_ne_nil _ _
    · exact List.cons_ne_nil _ _

/-- The text of bytes is shorter than the bytes in quotes. -/
theorem length_lt_quotedBytes {bs : List UInt8} {s : String} (h : Text.ofUtf8? bs = some s) :
    s.toList.length < (Text.quotedBytes bs).toList.length := by
  have hbytes := length_le_of_ofUtf8? h
  have hshown := length_le_length_flatMap
    (showByte_ne_nil (Text.quoteFor (bs.map fun b => Char.ofNat b.toNat))) bs
  unfold Text.quotedBytes
  rw [String.toList_ofList, List.length_append, List.length_cons, List.length_cons]
  omega

theorem textDefault_ne_quoteText {s t : String} (h : s.toList.length < t.toList.length) :
    textDefault s ≠ quoteText t := by
  intro heq
  have hquoted := length_lt_quoteText t
  unfold textDefault at heq
  split at heq
  · rw [← heq] at hquoted
    omega
  · have heq : quoteText s = quoteText t := heq
    rw [quoteText_inj.mp heq] at h
    omega

theorem parenthesized_inj {s t : String} :
    "(" ++ quoteText s ++ ")" = "(" ++ quoteText t ++ ")" ↔ s = t := by
  rw [String.append_left_inj, String.append_right_inj, quoteText_inj]

/-- A list in parentheses is no literal. -/
theorem parenthesized_ne_quoteText (s t : String) : "(" ++ s ++ ")" ≠ quoteText t := by
  intro h
  have hlists := congrArg String.toList h
  rw [toList_quoteText, String.toList_append, String.toList_append] at hlists
  cases hlists

theorem dateTime_text_ne_zuluText (t : DateTime) : t.zuluText ≠ t.text " " := by
  intro h
  unfold DateTime.zuluText DateTime.text at h
  rw [String.append_assoc, String.append_assoc, String.append_right_inj] at h
  have hlists := congrArg String.toList h
  rw [String.toList_append, String.toList_append] at hlists
  cases hlists

/-- A list or an object keeps its literal if it keeps its JSON text. -/
theorem parenthesized_eq_iff_keepsJson {v w : Value} (h : v.documentForm = .ok w) :
    some ("(" ++ quoteText (Json.text .compact w) ++ ")") =
        some ("(" ++ quoteText (Json.text .compact v) ++ ")") ↔ keepsJson v = true := by
  unfold keepsJson
  rw [h, Option.some.injEq, parenthesized_inj]
  exact beq_iff_eq.symm

/-- **Defaults in document form.** The document form of a value is the same default exactly if the
value keeps its literal. -/
theorem literalDefault?_documentForm_iff {v w : Value} (h : v.documentForm = .ok w) :
    literalDefault? w = literalDefault? v ↔ keepsLiteral v = true := by
  have hbare : ∀ {s : String}, IsBare s.toList → literalDefault? (.text s) = some (quoteText s) :=
    fun hs => congrArg some (textDefault_of_isBare hs)
  cases v with
  | null | bool | int | text =>
    cases h
    exact iff_of_true rfl rfl
  | float x =>
    unfold Value.documentForm at h
    by_cases hx : x.isFinite = true
    · rw [if_pos hx] at h
      cases h
      exact iff_of_true rfl hx
    · rw [if_neg hx] at h
      cases h
      exact iff_of_false nofun hx
  | decimal d =>
    cases h
    rw [hbare (isBare_decimal d)]
    refine iff_of_false (fun heq => ?_) Bool.false_ne_true
    have hlength := length_lt_quoteText d.text
    have heq : quoteText d.text = d.text := Option.some.inj heq
    rw [heq] at hlength
    omega
  | bytes bs =>
    unfold Value.documentForm at h
    split at h
    · rename_i s hs
      cases h
      refine iff_of_false (fun heq => ?_) Bool.false_ne_true
      exact textDefault_ne_quoteText (length_lt_quotedBytes hs) (Option.some.inj heq)
    · cases h
  | date d =>
    cases h
    rw [hbare (isBare_date d)]
    exact iff_of_true rfl rfl
  | time t =>
    cases h
    rw [hbare (isBare_zuluTime t)]
    show some (quoteText t.zuluText) = some (quoteText t.text) ↔ (t.zuluText == t.text) = true
    rw [Option.some.injEq, quoteText_inj, beq_iff_eq]
  | dateTime t =>
    cases h
    rw [hbare (isBare_zuluDateTime t)]
    refine iff_of_false (fun heq => ?_) Bool.false_ne_true
    exact dateTime_text_ne_zuluText t (quoteText_inj.mp (Option.some.inj heq))
  | list items | tuple items =>
    have hform := h
    unfold Value.documentForm at hform
    obtain ⟨forms, _, hw⟩ := Log.bind_eq_ok_iff.mp hform
    cases hw
    exact parenthesized_eq_iff_keepsJson h
  | set items | frozenSet items =>
    unfold Value.documentForm at h
    obtain ⟨forms, _, hw⟩ := Log.bind_eq_ok_iff.mp h
    cases hw
    refine iff_of_false (fun heq => ?_) Bool.false_ne_true
    exact parenthesized_ne_quoteText _ _ (Option.some.inj heq)
  | object members =>
    have hform := h
    unfold Value.documentForm at hform
    obtain ⟨forms, _, hw⟩ := Log.bind_eq_ok_iff.mp hform
    cases hw
    exact parenthesized_eq_iff_keepsJson h

/-! ## Columns -/

/-- What it takes for a column to say the same in statements after it was written and read: it has
the type of dates if it is a date with a time, and its default, if it is used, keeps its literal. -/
structure SurvivesDocument (c : Column) : Prop where
  type : c.format = some "date-time" → c.type = .date
  default : c.generation = none → c.isAutoIncrement = false → c.dateOn = none →
    keepsLiteral c.default = true

/-- Two columns of which statements say the same. -/
structure SameClauses (t : Target) (name : String) (c c' : Column) : Prop where
  columnType : t.columnType c' = t.columnType c
  defaultValue : t.defaultValue? c' = t.defaultValue? c
  generated : c'.generatedExpression? t.profile.dialect = c.generatedExpression? t.profile.dialect
  check : columnExpression? name c' = columnExpression? name c

theorem SameClauses.refl (t : Target) (name : String) (c : Column) : SameClauses t name c c :=
  ⟨rfl, rfl, rfl, rfl⟩

/-- The words that the type of a column can start with. -/
theorem columnType_cases (t : Target) (c : Column) :
    ∃ word rest, t.columnType c = word ++ rest ∧
      (word = t.profile.typeName c.type ∨ word = t.profile.textType ∨
        t.profile.serialType = some word) := by
  have hlength : ∀ typeName n, ∃ rest, sized typeName n = typeName ++ rest := by
    intro typeName n
    exact ⟨"(" ++ intText n ++ ")", by simp only [sized, String.append_assoc]⟩
  unfold Target.columnType
  dsimp only
  split
  · rename_i serial _ hserial
    exact ⟨serial, "", (String.append_empty).symm, .inr (.inr hserial)⟩
  · split
    · split
      · exact ⟨_, "", (String.append_empty).symm, .inr (.inl rfl)⟩
      · split
        · obtain ⟨rest, hrest⟩ := hlength (t.profile.typeName c.type) t.settings.defaultStringLength
          exact ⟨_, rest, hrest, .inl rfl⟩
        · obtain ⟨rest, hrest⟩ := hlength (t.profile.typeName c.type) t.settings.defaultStringLength
          exact ⟨_, rest, hrest, .inl rfl⟩
        · rename_i n _ _
          obtain ⟨rest, hrest⟩ := hlength (t.profile.typeName c.type) n
          exact ⟨_, rest, hrest, .inl rfl⟩
    · split
      · exact ⟨_, "", (String.append_empty).symm, .inl rfl⟩
      · rename_i n _
        obtain ⟨rest, hrest⟩ := hlength (t.profile.typeName c.type) n
        exact ⟨_, rest, hrest, .inl rfl⟩

theorem columnType_date_cases (t : Target) {c : Column} (h : c.type = .date) :
    ∃ rest, t.columnType c = t.profile.typeName .date ++ rest := by
  have hnumbers : c.isAutoIncrement = false := by
    unfold Column.isAutoIncrement
    rw [h]
    exact Bool.and_false _
  unfold Target.columnType
  dsimp only
  rw [hnumbers, h]
  simp only [reduceCtorEq, if_false]
  cases c.maxLength with
  | none => exact ⟨"", (String.append_empty).symm⟩
  | some n => exact ⟨"(" ++ intText n ++ ")", by simp only [sized, String.append_assoc]⟩

/-- Two characters tell the type of dates from the other types. -/
theorem take_typeName_ne (d : Dialect) {type : ColumnType} (h : type ≠ .date) :
    (d.profile.typeName type).toList.take 2 ≠ (d.profile.typeName .date).toList.take 2 := by
  revert h
  cases d <;> cases type <;> decide

theorem two_le_length_typeName (d : Dialect) (type : ColumnType) :
    2 ≤ (d.profile.typeName type).toList.length := by
  cases d <;> cases type <;> decide

/-- The type of dates is no type of other columns. -/
theorem columnType_date_ne (d : Dialect) (settings : CompilerSettings) {c c' : Column}
    (hc : c.type ≠ .date) (hc' : c'.type = .date) :
    Target.columnType ⟨d.profile, settings⟩ c' ≠ Target.columnType ⟨d.profile, settings⟩ c := by
  intro heq
  obtain ⟨rest', hdate⟩ := columnType_date_cases ⟨d.profile, settings⟩ hc'
  obtain ⟨word, rest, hother, hword⟩ := columnType_cases ⟨d.profile, settings⟩ c
  have hstarts : ∀ a b : String, 2 ≤ a.toList.length → (a ++ b).toList.take 2 = a.toList.take 2 := by
    intro a b ha
    rw [String.toList_append]
    exact List.take_append_of_le_length ha
  have hdistinct : 2 ≤ word.toList.length ∧
      word.toList.take 2 ≠ (d.profile.typeName .date).toList.take 2 := by
    rcases hword with htypeName | htext | hserial
    · rw [htypeName]
      exact ⟨two_le_length_typeName d c.type, take_typeName_ne d hc⟩
    · obtain rfl : word = "TEXT" := by
        rw [htext]
        cases d <;> rfl
      refine ⟨by decide, ?_⟩
      cases d <;> decide
    · cases d with
      | mysql => cases hserial
      | sqlite => cases hserial
      | postgres =>
        obtain rfl : "SERIAL" = word := Option.some.inj hserial
        decide
  refine hdistinct.2 ?_
  rw [← hstarts word rest hdistinct.1, ← hother, ← heq, hdate,
    hstarts _ rest' (two_le_length_typeName d .date)]

theorem defaultValue?_eq_iff (t : Target) {c c' : Column}
    (hgeneration : c'.generation = c.generation)
    (hnumbers : c'.isAutoIncrement = c.isAutoIncrement) (hdate : c'.dateOn = c.dateOn) :
    t.defaultValue? c' = t.defaultValue? c ↔
      (c.generation = none → c.isAutoIncrement = false → c.dateOn = none →
        literalDefault? c'.default = literalDefault? c.default) := by
  unfold Target.defaultValue?
  rw [hgeneration, hnumbers, hdate]
  by_cases hnone : (c.generation.isSome || c.isAutoIncrement) = true
  · rw [if_pos hnone, if_pos hnone]
    refine iff_of_true rfl fun hg ha => ?_
    rw [hg, ha] at hnone
    cases hnone
  · rw [if_neg hnone, if_neg hnone]
    obtain ⟨hg, ha⟩ := not_or.mp (mt Bool.or_eq_true_iff.mpr hnone)
    cases hd : c.dateOn with
    | some moment =>
      refine iff_of_true ?_ fun _ _ h => by cases h
      cases moment <;> rfl
    | none =>
      constructor
      · intro h _ _ _
        exact h
      · intro h
        exact h (by simpa using hg) (by simpa using ha) rfl

/-- A column that was written and read says the same in statements exactly if it survives that. -/
theorem sameClauses_rewritten_iff (d : Dialect) (settings : CompilerSettings) (name : String)
    {c : Column} {v : Value} (h : c.default.documentForm = .ok v) :
    SameClauses ⟨d.profile, settings⟩ name c c.rewritten ↔ SurvivesDocument c := by
  have hdefault : c.rewritten.default = v := Column.documentDefault_eq h
  by_cases htype : c.format = some "date-time" → c.type = .date
  · have hsame : c.rewritten.type = c.type := by
      show (if c.format = some "date-time" then ColumnType.date else c.type) = c.type
      by_cases hformat : c.format = some "date-time"
      · rw [if_pos hformat, htype hformat]
      · rw [if_neg hformat]
    have hnumbers : c.rewritten.isAutoIncrement = c.isAutoIncrement := by
      unfold Column.isAutoIncrement
      rw [hsame]
      rfl
    have hgeneration : c.rewritten.generation = c.generation := rfl
    have hdate : c.rewritten.dateOn = c.dateOn := rfl
    have hvalue := defaultValue?_eq_iff ⟨d.profile, settings⟩ hgeneration hnumbers hdate
    rw [hdefault, literalDefault?_documentForm_iff h] at hvalue
    constructor
    · intro hclauses
      exact ⟨htype, hvalue.mp hclauses.defaultValue⟩
    · intro hsurvives
      refine ⟨?_, hvalue.mpr hsurvives.default, rfl, rfl⟩
      unfold Target.columnType
      rw [hnumbers, hsame]
      rfl
  · refine iff_of_false (fun hclauses => ?_) fun hsurvives => htype hsurvives.type
    obtain ⟨hformat, hne⟩ := Classical.not_imp.mp htype
    have hdate : c.rewritten.type = .date := if_pos hformat
    exact columnType_date_ne d settings hne hdate hclauses.columnType

/-! ## Enhanced schemas -/

/-- **Declared columns.** Base columns can be put to a schema exactly if its column defaults have a
document form. Statements then say of each declared column what they say of the schema exactly if
all columns that are asked for are declared or the column survives being written and read. -/
theorem sameClauses_enhance {v : Value} {s : Schema} (h : Schema.ofValue v = .ok s)
    {names : List String} (hnames : ∀ name ∈ names, name ∈ Schema.baseColumns.map (·.1))
    (d : Dialect) (settings : CompilerSettings) :
    ((∃ e, s.enhance names = .ok e) ↔
        ∀ p ∈ s.columns, ∃ w, p.2.default.documentForm = .ok w) ∧
      ∀ e, s.enhance names = .ok e → ∀ name c, s.column? name = some c →
        ∃ c', e.column? name = some c' ∧
          (SameClauses ⟨d.profile, settings⟩ name c c' ↔
            (∀ name ∈ names, name ∈ s.columnNames) ∨ SurvivesDocument c) := by
  have hsound := Schema.sound_of_ofValue h
  have hexists := Schema.exists_enhance_iff hsound hnames
  refine ⟨hexists, fun e he name c hc => ?_⟩
  rcases Schema.enhance_cases hsound he with ⟨hall, rfl⟩ | ⟨hnot, added, hadded, rfl⟩
  · exact ⟨c, hc, iff_of_true (.refl _ name c) (.inl hall)⟩
  · have hmem : (name, c) ∈ s.columns := by
      obtain ⟨before, after, heq, _⟩ := List.lookup_eq_some_iff.mp hc
      exact heq ▸ List.mem_append_right before List.mem_cons_self
    obtain ⟨w, hw⟩ := hexists.mp ⟨_, he⟩ _ hmem
    refine ⟨c.rewritten, Schema.column?_enhancedWith hadded hc, ?_⟩
    rw [sameClauses_rewritten_iff d settings name hw, or_iff_right hnot]

/-- A schema of one column with a default. -/
def columnSchema (default : Value) : Schema :=
  { table := some "t", columns := [("a", { default })] }

/-- The document that the schema of one column is read from. -/
def columnDocument (default : Value) : Value :=
  .object [("table", .text "t"), ("properties", .object [("a", .object [("default", default)])])]

theorem ofValue_columnDocument (default : Value) :
    Schema.ofValue (columnDocument default) = .ok (columnSchema default) :=
  Schema.ofValue_object_eq_ok_iff.mpr rfl

/-- A date as the default, which keeps its literal. -/
theorem sameClauses_enhance_date :
    Schema.ofValue (columnDocument (.date ⟨2024, 2, 29⟩)) =
        .ok (columnSchema (.date ⟨2024, 2, 29⟩)) ∧
      (∀ name ∈ ["id", "inserted"], name ∈ Schema.baseColumns.map (·.1)) ∧
      SurvivesDocument { default := .date ⟨2024, 2, 29⟩ } ∧
      ∃ e c', (columnSchema (.date ⟨2024, 2, 29⟩)).enhance ["id", "inserted"] = .ok e ∧
        e.column? "a" = some c' ∧
        SameClauses ⟨Dialect.mysql.profile, {}⟩ "a" { default := .date ⟨2024, 2, 29⟩ } c' := by
  have hnames : ∀ name ∈ ["id", "inserted"], name ∈ Schema.baseColumns.map (·.1) := by
    decide
  have hread := ofValue_columnDocument (.date ⟨2024, 2, 29⟩)
  have hsurvives : SurvivesDocument { default := .date ⟨2024, 2, 29⟩ } :=
    ⟨nofun, fun _ _ _ => rfl⟩
  obtain ⟨hexists, hsame⟩ := sameClauses_enhance hread hnames .mysql {}
  obtain ⟨e, he⟩ := hexists.mpr (List.forall_mem_singleton.mpr ⟨_, rfl⟩)
  obtain ⟨c', hc', hiff⟩ := hsame e he "a" _ rfl
  exact ⟨hread, hnames, hsurvives, e, c', he, hc', hiff.mpr (.inr hsurvives)⟩

/-- A decimal as the default, which becomes a text. -/
theorem enhance_decimalDefault :
    ∃ s e c c', Schema.ofValue (columnDocument (.decimal (.finite false 150 (-2)))) = .ok s ∧
      s.enhance ["id"] = .ok e ∧ s.column? "a" = some c ∧ e.column? "a" = some c' ∧
      Target.defaultValue? ⟨Dialect.postgres.profile, {}⟩ c = some "1.50" ∧
      Target.defaultValue? ⟨Dialect.postgres.profile, {}⟩ c' = some "'1.50'" := by
  have hread := ofValue_columnDocument (.decimal (.finite false 150 (-2)))
  have hsound := Schema.sound_of_ofValue hread
  have hnames : ∀ name ∈ ["id"], name ∈ Schema.baseColumns.map (·.1) := by
    decide
  obtain ⟨e, he⟩ := (Schema.exists_enhance_iff hsound hnames).mpr
    (List.forall_mem_singleton.mpr ⟨_, rfl⟩)
  rcases Schema.enhance_cases hsound he with ⟨hall, _⟩ | ⟨_, added, hadded, rfl⟩
  · exact absurd (hall "id" List.mem_cons_self) (by decide)
  · exact ⟨_, _, _, _, hread, he, rfl, Schema.column?_enhancedWith hadded rfl,
      by decide +kernel, by decide +kernel⟩

end Ddl

end SqlCompiler
