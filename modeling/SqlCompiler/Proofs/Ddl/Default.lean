import SqlCompiler.Ddl.Table
import SqlCompiler.Proofs.Log.Outcome
import SqlCompiler.Proofs.Sql.Keywords
import SqlCompiler.Proofs.Sql.Quoting

/-!
# Text defaults in tables

A text default is written as a literal into the line of its column, and then the keywords of the
line are respelled, those inside of the literal as well. So the table has the respelled text as the
default (`columnLine_respelled`), and that is the declared one exactly if no keyword that the
dialect spells differently is a word of it (`createTable_textDefault`).
-/

namespace SqlCompiler

open Sql

/-! ## Literals in respelled texts -/

namespace Sql

/-- No new spelling brings an apostrophe in. -/
def BringNoApostrophe (spellings : List (String × String)) : Prop :=
  ∀ p ∈ spellings, '\'' ∉ p.2.toList

theorem bringNoApostrophe_keywordSpellings (d : Dialect) :
    BringNoApostrophe d.profile.keywordSpellings := by
  unfold BringNoApostrophe
  cases d <;> decide

theorem isWord_apostrophe : Text.isWord '\'' = false := by
  decide +kernel

theorem isWord_space : Text.isWord ' ' = false := by
  decide +kernel

variable {spellings : List (String × String)}

theorem toList_respellWords_quoteText (h : BringNoApostrophe spellings) (s after : String) :
    Text.mapWords (respellWord spellings) ((quoteText s).toList ++ after.toList) =
      (quoteText (respellWords spellings s)).toList ++ (respellWords spellings after).toList := by
  have hkept : ∀ w, '\'' ∉ w → '\'' ∉ respellWord spellings w := by
    intro w hw
    rcases respellWord_cases spellings w with ⟨hsame, _⟩ | ⟨p, hp, _, hnew⟩
    · rwa [hsame]
    · rw [hnew]
      exact h p hp
  have hbody : Text.mapWords (respellWord spellings) (Text.doubleMark ['\''] s.toList) =
      Text.doubleMark ['\''] (respellWords spellings s).toList := by
    rw [toList_respellWords]
    exact (Text.doubleMark_mapWordsFrom isWord_apostrophe hkept List.not_mem_nil s.toList).symm
  rw [toList_quoteText, toList_quoteText, List.cons_append, List.append_assoc, List.singleton_append,
    Text.mapWords_cons isWord_apostrophe, Text.mapWords_append_cons isWord_apostrophe, hbody,
    ← toList_respellWords, List.cons_append, List.append_assoc, List.singleton_append]

/-- A literal behind a space is respelled on its own. -/
theorem respellWords_literal (h : BringNoApostrophe spellings) (before s after : String) :
    respellWords spellings (before ++ " " ++ quoteText s ++ after) =
      respellWords spellings before ++ " " ++ quoteText (respellWords spellings s)
        ++ respellWords spellings after := by
  have hspace : " ".toList = [' '] := by decide
  rw [← String.toList_inj, toList_respellWords]
  simp only [String.toList_append, hspace, List.append_assoc, List.cons_append, List.nil_append]
  rw [Text.mapWords_append_cons isWord_space, toList_respellWords_quoteText h,
    ← toList_respellWords]

/-- A word behind a space that is no keyword stays. -/
theorem respellWords_word {word : String} (hne : word.toList ≠ [])
    (hword : ∀ c ∈ word.toList, Text.isWord c = true) (hkeyword : word ∉ spellings.map (·.1))
    (h : AreApart spellings) (before : String) :
    respellWords spellings (before ++ " " ++ word) = respellWords spellings before ++ " " ++ word := by
  have hspace : " ".toList = [' '] := by decide
  have hstays : respellWords spellings word = word := by
    refine (respellWords_eq_self_iff h word).mpr fun keyword hmem hhas => ?_
    have heq := (hasWord_iff_eq hne hword).mp hhas
    exact hkeyword (String.toList_inj.mp heq ▸ hmem)
  rw [← String.toList_inj, toList_respellWords]
  simp only [String.toList_append, hspace, List.append_assoc, List.cons_append, List.nil_append]
  rw [Text.mapWords_append_cons isWord_space, ← toList_respellWords, ← toList_respellWords, hstays]

end Sql

namespace Ddl

/-! ## Lines of columns -/

/-- A column that gets its values from a text: its default, which is neither SQL in parentheses nor
a finished literal. -/
structure HasTextDefault (c : Column) (s : String) : Prop where
  default : c.default = .text s
  parentheses : isEnclosed '(' ')' s = false
  apostrophes : isEnclosed '\'' '\'' s = false
  generation : c.generation = none
  autoIncrement : c.isAutoIncrement = false
  dateOn : c.dateOn = none

namespace Target

theorem defaultClause_of_text (t : Target) {c : Column} {s : String} (h : HasTextDefault c s) :
    t.defaultClause c = " DEFAULT " ++ quoteText s := by
  have hvalue : t.defaultValue? c = some (quoteText s) := by
    unfold defaultValue? literalDefault? textDefault
    simp only [h.generation, h.autoIncrement, h.dateOn, h.default, h.parentheses, h.apostrophes]
    rfl
  unfold defaultClause
  rw [hvalue]

/-- What stands before the default in the line of a column. -/
def beforeDefault (t : Target) (name : String) (c : Column) (required : Bool) (namePad : Int) :
    String :=
  spaces t.settings.padWidth ++ padRight namePad (t.nameText name) ++ t.columnType c
    ++ (if c.primaryKey || required then " NOT NULL" else "") ++ t.generatedClause c

/-- What stands behind the default in the line of a column. -/
def afterDefault (t : Target) (c : Column) : String :=
  keyClause c ++ t.autoIncrementClause c ++ t.commentClause c

theorem columnLine_eq (t : Target) (name : String) (c : Column) (required : Bool) (namePad : Int) :
    t.columnLine name c required namePad =
      t.beforeDefault name c required namePad ++ t.defaultClause c ++ t.afterDefault c := by
  unfold columnLine beforeDefault afterDefault
  simp only [String.append_assoc]

theorem not_mem_keywords_default (d : Dialect) :
    "DEFAULT" ∉ d.profile.keywordSpellings.map (·.1) := by
  cases d <;> decide

/-- The line of a column with a text default: the text is respelled inside its literal. -/
theorem columnLine_respelled (d : Dialect) (settings : CompilerSettings) (name : String)
    {c : Column} {s : String} (h : HasTextDefault c s) (required : Bool) (namePad : Int) :
    respellWords d.profile.keywordSpellings
        (columnLine ⟨d.profile, settings⟩ name c required namePad) =
      respellWords d.profile.keywordSpellings
          (beforeDefault ⟨d.profile, settings⟩ name c required namePad)
        ++ " DEFAULT " ++ quoteText (respellWords d.profile.keywordSpellings s)
        ++ respellWords d.profile.keywordSpellings (afterDefault ⟨d.profile, settings⟩ c) := by
  have hclause : (" DEFAULT " : String) = " " ++ "DEFAULT" ++ " " := by decide
  rw [columnLine_eq, defaultClause_of_text _ h, hclause, ← String.append_assoc,
    ← String.append_assoc, ← String.append_assoc,
    respellWords_literal (bringNoApostrophe_keywordSpellings d),
    respellWords_word (by decide) (List.all_eq_true.mp (by decide +kernel))
      (not_mem_keywords_default d)
      (areApart_keywordSpellings d)]
  simp only [String.append_assoc]

/-- What stands behind a default starts with a space, if there is anything. -/
theorem afterDefault_cases (t : Target) {c : Column} (h : c.isAutoIncrement = false) :
    t.afterDefault c = "" ∨ ∃ rest, t.afterDefault c = " " ++ rest := by
  have hnumbers : t.autoIncrementClause c = "" := by
    unfold autoIncrementClause
    simp [h]
  have hcomment : t.commentClause c = "" ∨ ∃ rest, t.commentClause c = " " ++ rest := by
    have hword : (" COMMENT " : String) = " " ++ "COMMENT " := by decide
    unfold commentClause
    split
    · exact .inl rfl
    · exact .inl rfl
    · split
      · rw [hword, String.append_assoc]
        exact .inr ⟨_, rfl⟩
      · exact .inl rfl
  have hkey : keyClause c = "" ∨ ∃ rest, keyClause c = " " ++ rest := by
    unfold keyClause
    split
    · exact .inr ⟨"PRIMARY KEY", by decide⟩
    · split
      · exact .inr ⟨"UNIQUE", by decide⟩
      · exact .inl rfl
  unfold afterDefault
  rw [hnumbers, String.append_empty]
  rcases hkey with hkey | ⟨rest, hkey⟩
  · rw [hkey, String.empty_append]
    exact hcomment
  · rw [hkey, String.append_assoc]
    exact .inr ⟨_, rfl⟩

/-- The literal of a default ends before what stands behind it. -/
theorem head?_respelled_afterDefault (t : Target) {c : Column} (h : c.isAutoIncrement = false)
    (spellings : List (String × String)) {more : List Char} (hmore : more.head? ≠ some '\'') :
    ((respellWords spellings (t.afterDefault c)).toList ++ more).head? ≠ some '\'' := by
  have hspace : " ".toList = [' '] := by decide
  rw [toList_respellWords]
  rcases t.afterDefault_cases h with hnone | ⟨rest, hrest⟩
  · rw [hnone]
    exact hmore
  · rw [hrest, String.toList_append, hspace, List.singleton_append,
      Text.mapWords_cons isWord_space, List.cons_append, List.head?_cons]
    decide

/-! ## Tables -/

/-- What stands before one of the joined texts. -/
def joinedBefore (separator : String) : List String → Nat → String
  | first :: rest, i + 1 => first ++ separator ++ joinedBefore separator rest i
  | _, _ => ""

/-- One of the joined texts stands behind those before it, and in front of the end or a separator.
-/
theorem exists_joinWith_eq (separator : String) {texts : List String} {i : Nat} {text : String}
    (h : texts[i]? = some text) :
    ∃ following,
      joinWith separator texts = joinedBefore separator texts i ++ text ++ following ∧
      (following = "" ∨ ∃ rest, following = separator ++ rest) := by
  induction texts generalizing i with
  | nil => cases h
  | cons first rest ih =>
    cases i with
    | zero =>
      obtain rfl : first = text := Option.some.inj h
      rw [joinedBefore, String.empty_append]
      · by_cases hrest : rest = []
        · refine ⟨"", ?_, .inl rfl⟩
          rw [hrest, String.append_empty]
          exact String.intercalate_singleton
        · refine ⟨separator ++ joinWith separator rest, ?_, .inr ⟨_, rfl⟩⟩
          rw [← String.append_assoc]
          exact String.intercalate_cons_of_ne_nil hrest
      · intro _ _ _ _ hzero
        omega
    | succ i =>
      have hrest : rest ≠ [] := by
        rintro rfl
        cases h
      obtain ⟨following, hjoined, hcases⟩ := ih h
      refine ⟨following, ?_, hcases⟩
      have hcons : joinWith separator (first :: rest) =
          first ++ separator ++ joinWith separator rest :=
        String.intercalate_cons_of_ne_nil hrest
      rw [hcons, hjoined, joinedBefore]
      simp only [String.append_assoc]

theorem outcome_statements (t : Target) (s : Schema) (override : Option String)
    (j : Log.Journal) :
    (t.statements s override).outcome j = (t.statements? s override).map (·.2) := by
  unfold statements
  rw [Log.outcome_bind, Log.outcome_lift]
  cases t.statements? s override <;> rfl

/-- A schema has statements exactly if its table has a name, it has a column, and no name in them is
empty. -/
theorem statements_eq_ok_iff {t : Target} {s : Schema} {override : Option String} {j : Log.Journal}
    {texts : List String} : (t.statements s override).outcome j = .ok texts ↔
      ∃ table, chooseName? override s = some table ∧ s.columns.isEmpty = false ∧
        Fragment.nameErrorIn? (t.fragments table s) = none ∧ texts = t.tableStatements table s := by
  rw [outcome_statements]
  unfold statements?
  cases chooseName? override s with
  | none => simp [Except.map]
  | some table =>
    cases s.columns.isEmpty with
    | true => simp [Except.map]
    | false =>
      cases hnames : Fragment.nameErrorIn? (t.fragments table s) <;>
        simp [Except.map, hnames, eq_comm]

theorem exists_tableStatements {t : Target} {s : Schema} {override : Option String}
    {j : Log.Journal} {texts : List String} (h : (t.statements s override).outcome j = .ok texts) :
    ∃ table, texts = t.tableStatements table s := by
  obtain ⟨table, _, _, _, htexts⟩ := statements_eq_ok_iff.mp h
  exact ⟨table, htexts⟩

theorem getElem?_bodyLines {t : Target} {s : Schema} {i : Nat} {name : String} {c : Column}
    (h : s.columns[i]? = some (name, c)) (stem : String) :
    (t.bodyLines stem s)[i]? = some (respellWords t.profile.keywordSpellings
      (t.columnLine name c (s.isRequired name) (t.namePad s))) := by
  have hline : (t.columnLines s)[i]? = some (respellWords t.profile.keywordSpellings
      (t.columnLine name c (s.isRequired name) (t.namePad s))) := by
    unfold columnLines
    rw [List.getElem?_map, h]
    rfl
  unfold bodyLines
  rw [List.getElem?_append_left (List.getElem?_eq_some_iff.mp hline).1, hline]

/-- The statement that creates a table, up to a line of it. -/
def beforeLine (t : Target) (table : String) (s : Schema) (i : Nat) : String :=
  "CREATE TABLE IF NOT EXISTS " ++ t.nameText table ++ " (\n"
    ++ joinedBefore ",\n" (t.bodyLines (Text.lower table) s) i

/-- The line of a column stands in the statement, and no literal at its end goes on behind it. -/
theorem exists_createTable_eq {t : Target} {table : String} {s : Schema} {i : Nat} {line : String}
    (h : (t.bodyLines (Text.lower table) s)[i]? = some line) :
    ∃ following, t.createTable table s = t.beforeLine table s i ++ line ++ following ∧
      following.toList.head? ≠ some '\'' := by
  obtain ⟨following, hjoined, hcases⟩ := exists_joinWith_eq ",\n" h
  refine ⟨following ++ "\n);", ?_, ?_⟩
  · unfold createTable beforeLine
    rw [hjoined]
    simp only [String.append_assoc]
  · rcases hcases with rfl | ⟨rest, rfl⟩
    · decide
    · have hseparator : ",\n".toList = [',', '\n'] := by decide
      rw [String.append_assoc, String.toList_append, hseparator, List.cons_append, List.head?_cons]
      decide

/-- **Text defaults.** In the line of a column with a text default stands one literal behind
`DEFAULT`. It is read as the declared text exactly if no keyword that the dialect spells differently
is a word of that. -/
theorem createTable_textDefault (d : Dialect) (settings : CompilerSettings) {s : Schema}
    {override : Option String} {j : Log.Journal} {texts : List String}
    (h : (statements ⟨d.profile, settings⟩ s override).outcome j = .ok texts) {i : Nat}
    {name : String} {c : Column} (hc : s.columns[i]? = some (name, c)) {text : String}
    (hdefault : HasTextDefault c text) :
    ∃ table others line clause stored following,
      texts = (beforeLine ⟨d.profile, settings⟩ table s i ++ line ++ " DEFAULT " ++ clause)
        :: others ∧
      line = respellWords d.profile.keywordSpellings (beforeDefault ⟨d.profile, settings⟩ name c
        (s.isRequired name) (namePad ⟨d.profile, settings⟩ s)) ∧
      readLiteral? clause.toList = some (stored, following) ∧
      (stored = text.toList ↔
        ∀ keyword ∈ d.profile.keywordSpellings.map (·.1),
          ¬ HasWord keyword.toList text.toList) := by
  obtain ⟨table, rfl⟩ := exists_tableStatements h
  have hline := getElem?_bodyLines (t := ⟨d.profile, settings⟩) hc (Text.lower table)
  rw [columnLine_respelled d settings name hdefault] at hline
  obtain ⟨following, hcreate, hfollowing⟩ := exists_createTable_eq hline
  let after := respellWords d.profile.keywordSpellings (afterDefault ⟨d.profile, settings⟩ c)
  refine ⟨table, indexTexts ⟨d.profile, settings⟩ (Text.lower table) table s ++
    fulltextTexts ⟨d.profile, settings⟩ (Text.lower table) table s, _,
    quoteText (respellWords d.profile.keywordSpellings text) ++ (after ++ following),
    (respellWords d.profile.keywordSpellings text).toList, after.toList ++ following.toList,
    ?_, rfl, ?_, ?_⟩
  · unfold tableStatements
    rw [hcreate, List.cons_append]
    simp only [String.append_assoc, after]
  · rw [String.toList_append, String.toList_append]
    exact readLiteral?_quoteText _
      (head?_respelled_afterDefault _ hdefault.autoIncrement _ hfollowing)
  · rw [String.toList_inj]
    exact respellWords_eq_self_iff (areApart_keywordSpellings d) text

/-- A table of one column with a text default. -/
def defaultSchema (text : String) : Schema :=
  { table := some "t", columns := [("a", { default := .text text })] }

/-- A default with an apostrophe, which has no keyword as a word. -/
theorem createTable_textDefault_apostrophe :
    (statements ⟨Dialect.postgres.profile, {}⟩ (defaultSchema "it's") none).outcome .empty =
        .ok ["CREATE TABLE IF NOT EXISTS t (\n    a VARCHAR(128) DEFAULT 'it''s'\n);"] ∧
      HasTextDefault { default := .text "it's" } "it's" ∧
      ∃ table others line clause stored following,
        ["CREATE TABLE IF NOT EXISTS t (\n    a VARCHAR(128) DEFAULT 'it''s'\n);"] =
          (beforeLine ⟨Dialect.postgres.profile, {}⟩ table (defaultSchema "it's") 0 ++ line
            ++ " DEFAULT " ++ clause) :: others ∧
        line = respellWords Dialect.postgres.profile.keywordSpellings
          (beforeDefault ⟨Dialect.postgres.profile, {}⟩ "a" { default := .text "it's" }
            ((defaultSchema "it's").isRequired "a")
            (namePad ⟨Dialect.postgres.profile, {}⟩ (defaultSchema "it's"))) ∧
        readLiteral? clause.toList = some (stored, following) ∧ stored = "it's".toList ∧
        ∀ keyword ∈ Dialect.postgres.profile.keywordSpellings.map (·.1),
          ¬ HasWord keyword.toList "it's".toList := by
  have hstatements :
      (statements ⟨Dialect.postgres.profile, {}⟩ (defaultSchema "it's") none).outcome .empty =
        .ok ["CREATE TABLE IF NOT EXISTS t (\n    a VARCHAR(128) DEFAULT 'it''s'\n);"] :=
    Log.eq_ok_of_toOption (by decide +kernel)
  have hdefault : HasTextDefault { default := .text "it's" } "it's" :=
    ⟨rfl, by decide, by decide, rfl, rfl, rfl⟩
  have hkept : respellWords Dialect.postgres.profile.keywordSpellings "it's" = "it's" := by
    decide +kernel
  have hwords := (respellWords_eq_self_iff (areApart_keywordSpellings .postgres) "it's").mp hkept
  obtain ⟨table, others, line, clause, stored, following, htexts, hline, hread, hiff⟩ :=
    createTable_textDefault .postgres {} hstatements (i := 0) rfl hdefault
  exact ⟨hstatements, hdefault, table, others, line, clause, stored, following, htexts, hline,
    hread, hiff.mpr hwords, hwords⟩

/-- A default that is a keyword becomes the operator of the dialect. -/
theorem createTable_keywordDefault :
    (statements ⟨Dialect.postgres.profile, {}⟩ (defaultSchema "REGEXP") none).outcome .empty =
        .ok ["CREATE TABLE IF NOT EXISTS t (\n    a VARCHAR(128) DEFAULT '~*'\n);"] ∧
      HasTextDefault { default := .text "REGEXP" } "REGEXP" ∧
      ¬ "'REGEXP'".toList <:+:
        "CREATE TABLE IF NOT EXISTS t (\n    a VARCHAR(128) DEFAULT '~*'\n);".toList :=
  ⟨Log.eq_ok_of_toOption (by decide +kernel), ⟨rfl, by decide, by decide, rfl, rfl, rfl⟩,
    by decide +kernel⟩

end Target

end Ddl

end SqlCompiler
