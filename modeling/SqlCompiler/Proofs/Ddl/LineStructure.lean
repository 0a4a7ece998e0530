import SqlCompiler.Proofs.Ddl.PrimaryKeys
import SqlCompiler.Proofs.Sql.LiteralTexts
import SqlCompiler.Proofs.Sql.Masking

/-!
# The structure of column lines

A text default and a description stand in the line of their column as literals, and respelling the
keywords of the line leaves them literals. So what the line is besides its literals does not depend
on these texts, whatever they are: the lines of two columns that differ in them only are the same
once their literals are masked (`masked_columnLine`).
-/

namespace SqlCompiler

open Sql

/-! ## Respelling laced texts -/

namespace Sql

variable {spellings : List (String × String)}

theorem unquoted_respellWords (h : BringNoApostrophe spellings) {s : String} (hs : Unquoted s) :
    Unquoted (respellWords spellings s) := by
  intro hmem
  rcases Ddl.mem_of_mem_respellWords hmem with hmem | ⟨p, hp, hmem⟩
  · exact hs hmem
  · exact h p hp hmem

theorem space_mem_respellWords {s : String} (h : ' ' ∈ s.toList) :
    ' ' ∈ (respellWords spellings s).toList := by
  obtain ⟨before, after, hs⟩ := List.append_of_mem h
  rw [toList_respellWords, hs, Text.mapWords_append_cons isWord_space]
  simp

/-- Written literals stay literals, and what is between them is respelled on its own. -/
theorem respellWords_laced (h : BringNoApostrophe spellings) (first : String)
    (pairs : List (String × String)) :
    respellWords spellings (laced first pairs) =
      laced (respellWords spellings first)
        (pairs.map (Prod.map (respellWords spellings) (respellWords spellings))) := by
  induction pairs generalizing first with
  | nil => rfl
  | cons pair pairs ih =>
    obtain ⟨text, next⟩ := pair
    have hquote : isBoundary (quoteText text ++ laced next pairs).toList.head? = true := by
      rw [String.toList_append, toList_quoteText, List.cons_append, List.head?_cons]
      simp [isBoundary, isWord_apostrophe]
    have hliteral : respellWords spellings (quoteText text ++ laced next pairs) =
        quoteText (respellWords spellings text) ++ respellWords spellings (laced next pairs) := by
      rw [← String.toList_inj, toList_respellWords, String.toList_append,
        toList_respellWords_quoteText h, String.toList_append]
    rw [laced, String.append_assoc, respellWords_append (.inr hquote), hliteral, ih,
      ← String.append_assoc]
    rfl

theorem AreSeparate.respelled (h : BringNoApostrophe spellings) {first : String}
    {nexts : List String} (hseparate : AreSeparate first nexts) :
    AreSeparate (respellWords spellings first) (nexts.map (respellWords spellings)) := by
  induction nexts generalizing first with
  | nil => exact unquoted_respellWords h hseparate
  | cons next rest ih =>
    obtain ⟨hfirst, hspace, hrest⟩ := hseparate
    refine ⟨unquoted_respellWords h hfirst, fun hne => ?_, ih hrest⟩
    exact space_mem_respellWords (hspace (mt List.map_eq_nil_iff.mpr hne))

/-- A laced text that is respelled and masked: what the literals mean does not show. -/
theorem masked_respellWords_laced (h : BringNoApostrophe spellings) (token : String)
    {first : String} {pairs : List (String × String)}
    (hseparate : AreSeparate first (pairs.map (·.2))) :
    masked token (respellWords spellings (laced first pairs)) =
      token.intercalate ((first :: pairs.map (·.2)).map (respellWords spellings)) := by
  let respell := respellWords spellings
  have hnexts : (pairs.map (Prod.map respell respell)).map (·.2) =
      (pairs.map (·.2)).map respell := by
    rw [List.map_map, List.map_map]
    rfl
  rw [respellWords_laced h, masked_laced token (hnexts ▸ hseparate.respelled h), hnexts,
    List.map_cons]

end Sql

namespace Ddl

/-! ## Parts without apostrophes -/

theorem unquoted_spaces (n : Int) : Unquoted (spaces n) := by
  unfold Unquoted spaces
  rw [String.toList_ofList]
  intro h
  exact absurd (List.eq_of_mem_replicate h) (by decide)

theorem unquoted_intText (n : Int) : Unquoted (intText n) := by
  have hdigits : Unquoted (String.ofList (Text.digitsOn 10 n.natAbs [])) := by
    unfold Unquoted
    rw [String.toList_ofList]
    exact not_mem_digitsOn _ List.not_mem_nil
  unfold intText
  dsimp only
  split
  · exact unquoted_append_iff.mpr ⟨by decide, hdigits⟩
  · exact hdigits

namespace Target

variable (d : Dialect) (settings : CompilerSettings) (c : Column)

theorem unquoted_columnType : Unquoted (columnType ⟨d.profile, settings⟩ c) := by
  have hname : ∀ type, Unquoted (d.profile.typeName type) := by
    intro type
    cases d <;> cases type <;> decide
  have htext : Unquoted d.profile.textType := by
    cases d <;> decide
  have hserial : ∀ serial, d.profile.serialType = some serial → Unquoted serial := by
    cases d <;> simp [Unquoted, Dialect.profile, Profile.mysql, Profile.postgres, Profile.sqlite]
  have hsized : ∀ type n, Unquoted (sized (d.profile.typeName type) n) := by
    intro type n
    unfold sized
    simp only [unquoted_append_iff]
    exact ⟨⟨⟨hname type, by decide⟩, unquoted_intText n⟩, by decide⟩
  unfold columnType
  dsimp only
  split
  · exact hserial _ ‹_›
  · split
    · split
      · exact htext
      · split <;> exact hsized _ _
    · split
      · exact hname _
      · exact hsized _ _

theorem unquoted_nameText {name : String} (h : Unquoted name) :
    Unquoted (nameText ⟨d.profile, settings⟩ name) := by
  have hquote : Unquoted d.profile.identifierQuote := by
    cases d <;> decide
  have hwritten : Unquoted (quoteIdentifier d.profile.identifierQuote name) := by
    unfold quoteIdentifier
    split
    · exact h
    · intro hmem
      exact (Text.mem_of_mem_enclose hmem).elim hquote h
  rw [nameText_eq]
  exact hwritten

theorem unquoted_beforeDefault {name : String} (hname : Unquoted name)
    (hgeneration : c.generation = none) (required : Bool) (namePad : Int) :
    Unquoted (beforeDefault ⟨d.profile, settings⟩ name c required namePad) := by
  have hgenerated : generatedClause ⟨d.profile, settings⟩ c = "" := by
    unfold generatedClause Column.generatedExpression?
    rw [hgeneration]
    rfl
  have hnull : Unquoted (if c.primaryKey || required then " NOT NULL" else "") := by
    split <;> decide
  unfold beforeDefault padRight
  rw [hgenerated]
  simp only [unquoted_append_iff]
  exact ⟨⟨⟨⟨unquoted_spaces _, unquoted_nameText d settings hname, unquoted_spaces _⟩,
    unquoted_columnType d settings c⟩, hnull⟩, by decide⟩

theorem unquoted_keyClauses :
    Unquoted (keyClause c ++ autoIncrementClause ⟨d.profile, settings⟩ c) := by
  have hkey : Unquoted (keyClause c) := by
    unfold keyClause
    split_ifs <;> decide
  have hwords : Unquoted d.profile.autoIncrement := by
    cases d <;> decide
  have hnumbers : Unquoted (autoIncrementClause ⟨d.profile, settings⟩ c) := by
    unfold autoIncrementClause
    split
    · exact hwords
    · decide
  exact unquoted_append_iff.mpr ⟨hkey, hnumbers⟩

/-! ## Lines with texts -/

end Target

/-- A text default that becomes a literal: it is neither SQL in parentheses nor a finished literal.
-/
structure IsUnwrapped (s : String) : Prop where
  parentheses : isEnclosed '(' ')' s = false
  apostrophes : isEnclosed '\'' '\'' s = false

end Ddl

/-- A column with other texts: a default, and a description of which the first line is kept. -/
def Column.withTexts (c : Column) (default description : String) : Column :=
  { c with default := .text default, description := some (firstLine description) }

namespace Ddl.Target

/-- The current time as a default. -/
def currentTime (t : Target) : DateOn → String
  | .insert => "CURRENT_TIMESTAMP"
  | .update =>
    if t.profile.supportsOnUpdateTimestamp then "CURRENT_TIMESTAMP ON UPDATE CURRENT_TIMESTAMP"
    else "CURRENT_TIMESTAMP"

theorem unquoted_currentTime (t : Target) (moment : DateOn) : Unquoted (t.currentTime moment) := by
  unfold currentTime
  split
  · decide
  · split_ifs <;> decide

theorem defaultClause_of_dateOn (t : Target) {c : Column} {moment : DateOn}
    (hgeneration : c.generation = none) (hnumbers : c.isAutoIncrement = false)
    (hdate : c.dateOn = some moment) :
    t.defaultClause c = " DEFAULT " ++ t.currentTime moment := by
  have hvalue : t.defaultValue? c = some (t.currentTime moment) := by
    unfold defaultValue? currentTime
    rw [hgeneration, hnumbers, hdate]
    cases moment with
    | insert => rfl
    | update => cases t.profile.supportsOnUpdateTimestamp <;> rfl
  unfold defaultClause
  rw [hvalue]

theorem defaultClause_of_isAutoIncrement (t : Target) {c : Column} (h : c.isAutoIncrement = true) :
    t.defaultClause c = "" := by
  have hnone : t.defaultValue? c = none := by
    unfold defaultValue?
    exact if_pos (Bool.or_eq_true_iff.mpr (.inr h))
  unfold defaultClause
  rw [hnone]

/-- The default is the literal of the text, or the text does not matter. -/
theorem defaultClause_withTexts (t : Target) {c : Column} (h : c.generation = none) :
    (∀ s x, IsUnwrapped s → t.defaultClause (c.withTexts s x) = " DEFAULT " ++ quoteText s) ∨
      ∃ clause, Unquoted clause ∧ ∀ s x, t.defaultClause (c.withTexts s x) = clause := by
  cases hnumbers : c.isAutoIncrement with
  | true =>
    exact .inr ⟨"", by decide, fun s x => defaultClause_of_isAutoIncrement t hnumbers⟩
  | false =>
    cases hdate : c.dateOn with
    | none =>
      refine .inl fun s x hs => defaultClause_of_text t ?_
      exact ⟨rfl, hs.parentheses, hs.apostrophes, h, hnumbers, hdate⟩
    | some moment =>
      refine .inr ⟨" DEFAULT " ++ t.currentTime moment, ?_, fun s x => ?_⟩
      · exact unquoted_append_iff.mpr ⟨by decide, unquoted_currentTime t moment⟩
      · exact defaultClause_of_dateOn t h hnumbers hdate

/-- The comment is the literal of the first line, or there is none. -/
theorem commentClause_withTexts (t : Target) (c : Column) :
    (∀ s x, firstLine x ≠ "" →
        t.commentClause (c.withTexts s x) = " COMMENT " ++ quoteText (firstLine x)) ∨
      ∀ s x, t.commentClause (c.withTexts s x) = "" := by
  cases hcomments : t.profile.supportsColumnComments with
  | true =>
    refine .inl fun s x hx => ?_
    unfold commentClause Column.withTexts
    dsimp only
    split
    · rename_i hempty
      exact absurd (Option.some.inj hempty) hx
    · rename_i hnone
      cases hnone
    · rename_i text _ htext
      obtain rfl := Option.some.inj htext
      rw [if_pos hcomments]
      rfl
  | false =>
    refine .inr fun s x => ?_
    unfold commentClause
    split
    · rfl
    · rfl
    · rw [hcomments, if_neg Bool.false_ne_true]

/-- The line of a column is laced with its texts. What stands around them is the same for all. -/
theorem exists_laced_columnLine (d : Dialect) (settings : CompilerSettings) {name : String}
    (hname : Unquoted name) {c : Column} (hgeneration : c.generation = none) (required : Bool)
    (namePad : Int) :
    ∃ first nexts, AreSeparate first nexts ∧ ∀ s x, IsUnwrapped s → firstLine x ≠ "" →
      ∃ pairs, pairs.map (·.2) = nexts ∧
        columnLine ⟨d.profile, settings⟩ name (c.withTexts s x) required namePad =
          laced first pairs := by
  let t : Target := ⟨d.profile, settings⟩
  let before := t.beforeDefault name c required namePad
  let keys := keyClause c ++ t.autoIncrementClause c
  have hbefore : Unquoted before :=
    unquoted_beforeDefault d settings c hname hgeneration required namePad
  have hkeys : Unquoted keys := unquoted_keyClauses d settings c
  have hline : ∀ s x, t.columnLine name (c.withTexts s x) required namePad =
      before ++ t.defaultClause (c.withTexts s x) ++ (keys ++ t.commentClause (c.withTexts s x)) :=
    fun s x => columnLine_eq t name (c.withTexts s x) required namePad
  have hempty : Unquoted "" := by decide
  have hspace : ' ' ∈ (keys ++ " COMMENT ").toList := by
    rw [String.toList_append]
    exact List.mem_append_right _ (by decide)
  rcases defaultClause_withTexts t hgeneration with hdefault | ⟨clause, hclause, hdefault⟩ <;>
    rcases commentClause_withTexts t c with hcomment | hcomment
  · refine ⟨before ++ " DEFAULT ", [keys ++ " COMMENT ", ""], ?_, fun s x hs hx => ?_⟩
    · exact ⟨unquoted_append_iff.mpr ⟨hbefore, by decide⟩, fun _ => hspace,
        unquoted_append_iff.mpr ⟨hkeys, by decide⟩, fun h => absurd rfl h, hempty⟩
    · refine ⟨[(s, keys ++ " COMMENT "), (firstLine x, "")], rfl, ?_⟩
      rw [hline, hdefault s x hs, hcomment s x hx]
      simp only [laced, String.append_assoc, String.append_empty]
  · refine ⟨before ++ " DEFAULT ", [keys], ?_, fun s x hs _ => ⟨[(s, keys)], rfl, ?_⟩⟩
    · exact ⟨unquoted_append_iff.mpr ⟨hbefore, by decide⟩, fun h => absurd rfl h, hkeys⟩
    · rw [hline, hdefault s x hs, hcomment s x]
      simp only [laced, String.append_assoc, String.append_empty]
  · refine ⟨before ++ clause ++ (keys ++ " COMMENT "), [""], ?_,
      fun s x _ hx => ⟨[(firstLine x, "")], rfl, ?_⟩⟩
    · simp only [AreSeparate, unquoted_append_iff]
      exact ⟨⟨⟨hbefore, hclause⟩, hkeys, by decide⟩, fun h => absurd rfl h, hempty⟩
    · rw [hline, hdefault s x, hcomment s x hx]
      simp only [laced, String.append_assoc, String.append_empty]
  · refine ⟨before ++ clause ++ keys, [], ?_, fun s x _ _ => ⟨[], rfl, ?_⟩⟩
    · simp only [AreSeparate, unquoted_append_iff]
      exact ⟨⟨hbefore, hclause⟩, hkeys⟩
    · rw [hline, hdefault s x, hcomment s x, String.append_empty]
      rfl

/-- **Texts stay inside.** The lines of two columns that differ in a text default and in their
description are the same once each literal of them is masked. -/
theorem masked_columnLine (d : Dialect) (settings : CompilerSettings) {name : String}
    (hname : Unquoted name) {c : Column} (hgeneration : c.generation = none) (required : Bool)
    (namePad : Int) {a b x y : String} (ha : IsUnwrapped a) (hb : IsUnwrapped b)
    (hx : firstLine x ≠ "") (hy : firstLine y ≠ "") (token : String) :
    masked token (copied ⟨d.profile, settings⟩
        (columnLine ⟨d.profile, settings⟩ name (c.withTexts a x) required namePad)) =
      masked token (copied ⟨d.profile, settings⟩
        (columnLine ⟨d.profile, settings⟩ name (c.withTexts b y) required namePad)) := by
  obtain ⟨first, nexts, hseparate, hlaced⟩ :=
    exists_laced_columnLine d settings hname hgeneration required namePad
  have hmasked : ∀ s x, IsUnwrapped s → firstLine x ≠ "" →
      masked token (copied ⟨d.profile, settings⟩
          (columnLine ⟨d.profile, settings⟩ name (c.withTexts s x) required namePad)) =
        token.intercalate ((first :: nexts).map (respellWords d.profile.keywordSpellings)) := by
    intro s x hs hx
    obtain ⟨pairs, rfl, hline⟩ := hlaced s x hs hx
    rw [hline]
    exact masked_respellWords_laced (bringNoApostrophe_keywordSpellings d) token hseparate
  rw [hmasked a x ha hx, hmasked b y hb hy]

/-- Texts with apostrophes, and one that goes on like a statement behind its apostrophe. -/
theorem masked_columnLine_apostrophes :
    Unquoted "a" ∧ ({} : Column).generation = none ∧ IsUnwrapped "it's" ∧
      IsUnwrapped "', b INTEGER -- " ∧ firstLine "a 'name'" ≠ "" ∧ firstLine "'\n'" ≠ "" ∧
      copied ⟨Dialect.mysql.profile, {}⟩ (columnLine ⟨Dialect.mysql.profile, {}⟩ "a"
          (({} : Column).withTexts "it's" "a 'name'") false 2) =
        "    a VARCHAR(128) DEFAULT 'it''s' COMMENT 'a ''name'''" ∧
      masked "?" (copied ⟨Dialect.mysql.profile, {}⟩ (columnLine ⟨Dialect.mysql.profile, {}⟩ "a"
          (({} : Column).withTexts "it's" "a 'name'") false 2)) =
        masked "?" (copied ⟨Dialect.mysql.profile, {}⟩ (columnLine ⟨Dialect.mysql.profile, {}⟩ "a"
          (({} : Column).withTexts "', b INTEGER -- " "'\n'") false 2)) ∧
      masked "?" (copied ⟨Dialect.mysql.profile, {}⟩ (columnLine ⟨Dialect.mysql.profile, {}⟩ "a"
          (({} : Column).withTexts "it's" "a 'name'") false 2)) =
        "    a VARCHAR(128) DEFAULT ? COMMENT ?" := by
  have hname : Unquoted "a" := by decide
  have ha : IsUnwrapped "it's" := ⟨by decide, by decide⟩
  have hb : IsUnwrapped "', b INTEGER -- " := ⟨by decide, by decide⟩
  have hx : firstLine "a 'name'" ≠ "" := by decide +kernel
  have hy : firstLine "'\n'" ≠ "" := by decide +kernel
  exact ⟨hname, rfl, ha, hb, hx, hy, by decide +kernel,
    masked_columnLine .mysql {} hname rfl false 2 ha hb hx hy "?", by decide +kernel⟩

end Ddl.Target

end SqlCompiler
