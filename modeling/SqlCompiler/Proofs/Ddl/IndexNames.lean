import SqlCompiler.Proofs.Ddl.Naming
import SqlCompiler.Proofs.Lists

/-!
# Names of indices

The statement of an index gives the name of what it creates behind its opening words, up to the
first space outside of quotes (`createdName?`). Equal statements are run once, but two statements
may differ and create the same name: one unique and the other not, over other columns that join to
the same name, or with a name of their own. The names that the statements of a table create are
distinct exactly if equal names come with equal statements (`createdNames_nodup_iff`).
-/

namespace SqlCompiler

open Sql

namespace Ddl

/-! ## Reading names -/

/-- The text up to the first space outside of quotes. -/
def nameSpan (quote : String) (inside : Bool) : List Char → List Char
  | [] => []
  | c :: rest =>
    if c = ' ' ∧ inside = false then []
    else c :: nameSpan quote (if [c] = quote.toList then !inside else inside) rest

/-- How the statement of an index may open. -/
def indexOpenings : List String :=
  ["CREATE INDEX ", "CREATE UNIQUE INDEX ", "CREATE FULLTEXT INDEX "]

/-- The name of the index that a statement creates, as it stands there; none if the statement
creates no index. -/
def createdName? (quote text : String) : Option String :=
  (indexOpenings.find? fun opening => opening.toList.isPrefixOf text.toList).map fun opening =>
    String.ofList (nameSpan quote false (text.toList.drop opening.toList.length))

theorem apart_of_indexOpenings : ∀ a ∈ indexOpenings, ∀ b ∈ indexOpenings,
    a = b ∨ Apart a.toList b.toList := by
  decide

theorem createdName?_of_opening {opening : String} (h : opening ∈ indexOpenings)
    (quote rest : String) : createdName? quote (opening ++ rest) =
      some (String.ofList (nameSpan quote false rest.toList)) := by
  have hfind : (indexOpenings.find? fun other =>
      other.toList.isPrefixOf (opening ++ rest).toList) = some opening := by
    cases hfound : indexOpenings.find? fun other =>
        other.toList.isPrefixOf (opening ++ rest).toList with
    | none =>
      have hnone := List.find?_eq_none.mp hfound opening h
      rw [String.toList_append, List.isPrefixOf_iff_prefix] at hnone
      exact absurd (List.prefix_append _ _) hnone
    | some other =>
      have hprefix := List.find?_some hfound
      rw [String.toList_append, List.isPrefixOf_iff_prefix] at hprefix
      obtain ⟨tail, htail⟩ := hprefix
      -- No opening goes on as another one does, so the one found is this one.
      rcases apart_of_indexOpenings other (List.mem_of_find?_eq_some hfound) opening h with
        heq | hapart
      · rw [heq]
      · exact absurd htail (hapart.append_ne tail rest.toList)
  unfold createdName?
  rw [hfind, Option.map_some, String.toList_append, List.drop_left]

/-- A statement that creates no index opens otherwise. -/
theorem createdName?_eq_none {opening : String}
    (h : ∀ other ∈ indexOpenings, Apart other.toList opening.toList) (quote rest : String) :
    createdName? quote (opening ++ rest) = none := by
  unfold createdName?
  rw [Option.map_eq_none_iff, List.find?_eq_none]
  intro other hother hprefix
  rw [String.toList_append, List.isPrefixOf_iff_prefix] at hprefix
  obtain ⟨tail, htail⟩ := hprefix
  exact (h other hother).append_ne tail rest.toList htail

section Span

variable {quote : String} {mark : Char}

theorem nameSpan_of_bare {s : List Char} (h : ∀ c ∈ s, c ≠ ' ' ∧ [c] ≠ quote.toList)
    (rest : List Char) : nameSpan quote false (s ++ ' ' :: rest) = s := by
  induction s with
  | nil => rw [List.nil_append, nameSpan, if_pos ⟨rfl, rfl⟩]
  | cons c s ih =>
    obtain ⟨hc, hs⟩ := List.forall_mem_cons.mp h
    rw [List.cons_append, nameSpan, if_neg fun hspace => hc.1 hspace.1, if_neg hc.2, ih hs]

/-- Inside of quotes a name goes on to the quote that is not doubled. -/
theorem nameSpan_doubleMark (hquote : quote.toList = [mark]) (hspace : mark ≠ ' ')
    (s rest : List Char) :
    nameSpan quote true (Text.doubleMark [mark] s ++ mark :: ' ' :: rest) =
      Text.doubleMark [mark] s ++ [mark] := by
  have hinside : ∀ c t, nameSpan quote true (c :: t) =
      c :: nameSpan quote (if c = mark then false else true) t := by
    intro c t
    rw [nameSpan, if_neg (by simp), hquote]
    simp
  have houtside : ∀ t, nameSpan quote false (mark :: t) = mark :: nameSpan quote true t := by
    intro t
    rw [nameSpan, if_neg (by simp [hspace]), hquote, if_pos rfl]
    rfl
  induction s with
  | nil =>
    have hnil : Text.doubleMark [mark] [] = [] := by
      rw [Text.doubleMark]
    rw [hnil, List.nil_append, hinside, if_pos rfl, nameSpan, if_pos ⟨rfl, rfl⟩]
    rfl
  | cons c s ih =>
    rw [Text.doubleMark_singleton_cons]
    by_cases hc : c = mark
    · rw [if_pos hc, List.cons_append, List.cons_append, hinside, if_pos rfl, houtside, ih]
      rfl
    · rw [if_neg hc, List.cons_append, hinside, if_neg hc, ih]
      rfl

theorem nameSpan_enclose (hquote : quote.toList = [mark]) (hspace : mark ≠ ' ') (s : String)
    (rest : List Char) : nameSpan quote false ((Text.enclose quote s).toList ++ ' ' :: rest) =
      (Text.enclose quote s).toList := by
  rw [toList_enclose hquote, List.cons_append, List.append_assoc, nameSpan,
    if_neg (by simp [hspace]), hquote, if_pos rfl]
  exact congrArg (mark :: ·) (nameSpan_doubleMark hquote hspace s.toList rest)

end Span

/-! ## Written names -/

/-- Replacing words brings in no characters but those that a replacement brings in. -/
theorem mem_of_mem_mapWordsFrom {f : List Char → List Char} {new : Char → Prop}
    (hf : ∀ word, ∀ c ∈ f word, c ∈ word ∨ new c) {pending s : List Char} {c : Char}
    (h : c ∈ Text.mapWordsFrom f pending s) : c ∈ pending ∨ c ∈ s ∨ new c := by
  have hflush : ∀ pending : List Char, c ∈ (if pending.isEmpty then [] else f pending.reverse) →
      c ∈ pending ∨ new c := by
    intro pending hc
    split at hc
    · cases hc
    · exact (hf _ c hc).imp_left List.mem_reverse.mp
  induction s generalizing pending with
  | nil => exact (hflush pending h).imp_right .inr
  | cons d s ih =>
    rw [Text.mapWordsFrom] at h
    split at h
    · rcases ih h with hc | hc | hc
      · exact (List.mem_cons.mp hc).elim (fun hd => .inr (.inl (hd ▸ List.mem_cons_self))) .inl
      · exact .inr (.inl (List.mem_cons_of_mem d hc))
      · exact .inr (.inr hc)
    · rcases List.mem_append.mp h with hc | hc
      · exact (hflush pending hc).imp_right .inr
      · rcases List.mem_cons.mp hc with rfl | hc
        · exact .inr (.inl List.mem_cons_self)
        · rcases ih hc with hc | hc | hc
          · cases hc
          · exact .inr (.inl (List.mem_cons_of_mem d hc))
          · exact .inr (.inr hc)

/-- Respelling brings in no characters but those of new spellings. -/
theorem mem_of_mem_respellWords {spellings : List (String × String)} {s : String} {c : Char}
    (h : c ∈ (respellWords spellings s).toList) :
    c ∈ s.toList ∨ ∃ p ∈ spellings, c ∈ p.2.toList := by
  have hword : ∀ word, ∀ c ∈ respellWord spellings word,
      c ∈ word ∨ ∃ p ∈ spellings, c ∈ p.2.toList := by
    intro word c hc
    rcases respellWord_cases spellings word with ⟨hsame, _⟩ | ⟨p, hp, _, hnew⟩
    · exact .inl (hsame ▸ hc)
    · exact .inr ⟨p, hp, hnew ▸ hc⟩
  rw [toList_respellWords] at h
  exact (mem_of_mem_mapWordsFrom hword h).resolve_left List.not_mem_nil

theorem mem_of_isPlainWord {s : List Char} (h : isPlainWord s = true) {c : Char} (hc : c ∈ s) :
    isNameChar c = true ∨ c = '\n' := by
  cases s with
  | nil => cases hc
  | cons first rest =>
    obtain ⟨hfirst, hend⟩ := Bool.and_eq_true_iff.mp h
    have hstart : isNameChar first = true := by
      unfold isNameStart at hfirst
      unfold isNameChar Char.isAlphanum
      rcases Bool.or_eq_true_iff.mp hfirst with halpha | hline
      · simp [halpha]
      · simp [hline]
    have hrest : ∀ d ∈ rest, isNameChar d = true ∨ d = '\n' := by
      intro d hd
      have hall : ∀ e ∈ rest.takeWhile isNameChar, isNameChar e = true :=
        List.all_eq_true.mp List.all_takeWhile
      have hsplit : d ∈ rest.takeWhile isNameChar ++ rest.dropWhile isNameChar := by
        rwa [List.takeWhile_append_dropWhile]
      rcases List.mem_append.mp hsplit with hd | hd
      · exact .inl (hall d hd)
      · rcases Bool.or_eq_true_iff.mp hend with hnone | hbreak
        · rw [beq_iff_eq.mp hnone] at hd
          cases hd
        · rw [beq_iff_eq.mp hbreak] at hd
          exact .inr (List.mem_singleton.mp hd)
    rcases List.mem_cons.mp hc with rfl | hc
    · exact .inl hstart
    · exact hrest c hc

namespace Target

variable (d : Dialect) (settings : CompilerSettings)

/-- A written name is what is read before a space. -/
theorem nameSpan_writtenName (name : String) (rest : List Char) :
    nameSpan d.profile.identifierQuote false
        ((writtenName ⟨d.profile, settings⟩ name).toList ++ ' ' :: rest) =
      (writtenName ⟨d.profile, settings⟩ name).toList := by
  obtain ⟨mark, hquote, hmark, ⟨hspace, hbreak, hplain⟩, hnew⟩ := exists_identifierQuote d
  have hspellings : ∀ p ∈ d.profile.keywordSpellings, ' ' ∉ p.2.toList := by
    cases d <;> decide
  unfold writtenName respellName quoteIdentifier
  -- A bare name stays bare when it is respelled, though not always a plain word.
  split
  · rename_i hword
    refine nameSpan_of_bare (fun c hc => ?_) rest
    have hsingle : [c] ≠ d.profile.identifierQuote.toList ↔ c ≠ mark := by
      rw [hquote]
      simp
    rw [hsingle]
    rcases mem_of_mem_respellWords hc with hc | ⟨p, hp, hc⟩
    · rcases mem_of_isPlainWord hword hc with hname | rfl
      · constructor
        · rintro rfl
          exact absurd hname (by decide)
        · rintro rfl
          exact absurd hname (Bool.eq_false_iff.mp hplain)
      · exact ⟨by decide, hbreak.symm⟩
    · constructor
      · rintro rfl
        exact hspellings p hp hc
      · rintro rfl
        exact hnew p hp hc
  · rw [respellWords_enclose hquote hmark hnew]
    exact nameSpan_enclose hquote hspace _ rest

theorem createdName?_indexText (stem table : String) (i : Index) :
    createdName? d.profile.identifierQuote (indexText ⟨d.profile, settings⟩ stem table i) =
      some (writtenName ⟨d.profile, settings⟩ (Index.nameFor stem i)) := by
  have hopening : ∃ opening ∈ indexOpenings,
      "CREATE " ++ (if i.unique then "UNIQUE " else "") ++ "INDEX " = opening := by
    cases i.unique
    · exact ⟨"CREATE INDEX ", by decide, by decide⟩
    · exact ⟨"CREATE UNIQUE INDEX ", by decide, by decide⟩
  obtain ⟨opening, hmem, hopening⟩ := hopening
  have hon : " ON ".toList = ' ' :: "ON ".toList := by decide
  unfold indexText
  rw [hopening]
  simp only [String.append_assoc]
  rw [createdName?_of_opening hmem, String.toList_append, String.toList_append, hon,
    List.cons_append, nameSpan_writtenName, String.ofList_toList]

theorem createdName?_fulltextText {stem table : String} {s : Schema} {text : String}
    (h : text ∈ fulltextTexts ⟨d.profile, settings⟩ stem table s) :
    createdName? d.profile.identifierQuote text =
      some (writtenName ⟨d.profile, settings⟩ (fulltextName ⟨d.profile, settings⟩ stem)) := by
  obtain ⟨rest, rfl⟩ := exists_fulltextText d settings h
  have hmem : fulltextOpening d ∈ indexOpenings := by
    cases d <;> decide
  have hon : " ON ".toList = ' ' :: "ON ".toList := by decide
  simp only [String.append_assoc]
  rw [createdName?_of_opening hmem, String.toList_append, String.toList_append, hon,
    List.cons_append, nameSpan_writtenName, String.ofList_toList]

theorem createdName?_createTable (t : Target) (quote table : String) (s : Schema) :
    createdName? quote (t.createTable table s) = none := by
  unfold createTable
  simp only [String.append_assoc]
  exact createdName?_eq_none (by decide) quote _

/-- The full-text index is there if there are columns for it and the dialect has one. -/
theorem fulltextTexts_eq (stem table : String) (s : Schema) :
    (∃ text, fulltextTexts ⟨d.profile, settings⟩ stem table s = [text]) ∧ s.fulltext ≠ [] ∧
        d ≠ .sqlite ∨
      fulltextTexts ⟨d.profile, settings⟩ stem table s = [] ∧ (s.fulltext = [] ∨ d = .sqlite) := by
  unfold fulltextTexts fulltextFragments createFulltext?
  split
  · rename_i hnone
    exact .inr ⟨rfl, .inl (List.isEmpty_iff.mp hnone)⟩
  · rename_i hsome
    have hne : s.fulltext ≠ [] := by simpa using hsome
    cases d with
    | mysql => exact .inl ⟨⟨_, rfl⟩, hne, by decide⟩
    | postgres => exact .inl ⟨⟨_, rfl⟩, hne, by decide⟩
    | sqlite => exact .inr ⟨rfl, .inr rfl⟩

/-- Two indices of one written name have one statement exactly if they agree in the rest. -/
theorem indexText_eq_iff (t : Target) {stem table : String} {i k : Index}
    (h : t.writtenName (Index.nameFor stem i) = t.writtenName (Index.nameFor stem k)) :
    t.indexText stem table i = t.indexText stem table k ↔
      i.unique = k.unique ∧ t.indexColumnsText i = t.indexColumnsText k := by
  have hsame : i.unique = k.unique → (t.indexText stem table i = t.indexText stem table k ↔
      t.indexColumnsText i = t.indexColumnsText k) := by
    intro hunique
    unfold indexText
    rw [hunique, h]
    simp only [← String.toList_inj, String.toList_append, List.append_cancel_left_eq,
      List.append_cancel_right_eq]
  have hother : i.unique ≠ k.unique →
      t.indexText stem table i ≠ t.indexText stem table k := by
    have hkinds : Apart ("CREATE " ++ "UNIQUE " ++ "INDEX ").toList
        ("CREATE " ++ "" ++ "INDEX ").toList := by
      decide
    have hapart : ∀ more more' : String, "CREATE " ++ "UNIQUE " ++ "INDEX " ++ more ≠
        "CREATE " ++ "" ++ "INDEX " ++ more' := by
      intro more more' heq
      have hchars : ("CREATE " ++ "UNIQUE " ++ "INDEX ").toList ++ more.toList =
          ("CREATE " ++ "" ++ "INDEX ").toList ++ more'.toList := by
        rw [← String.toList_append, ← String.toList_append, heq]
      exact hkinds.append_ne _ _ hchars
    intro hunique
    unfold indexText
    simp only [String.append_assoc] at hapart ⊢
    cases hi : i.unique <;> cases hk : k.unique
    · exact absurd (hi.trans hk.symm) hunique
    · exact (hapart _ _).symm
    · exact hapart _ _
    · exact absurd (hi.trans hk.symm) hunique
  by_cases hunique : i.unique = k.unique
  · rw [hsame hunique, and_iff_right hunique]
  · exact iff_of_false (hother hunique) fun hboth => hunique hboth.1

end Target

/-! ## Distinct names -/

theorem nodup_sortTexts {texts : List String} (h : texts.Nodup) : (sortTexts texts).Nodup :=
  (List.mergeSort_perm texts _).nodup_iff.mpr h

theorem sortTexts_pair (a b : String) : sortTexts [a, b] = if a ≤ b then [a, b] else [b, a] := by
  unfold sortTexts
  rw [List.mergeSort]
  simp [List.MergeSort.Internal.splitInTwo, List.merge]

namespace Target

variable (d : Dialect) (settings : CompilerSettings)

/-- The names of the indices that statements create, in order. -/
def createdNames (texts : List String) : List String :=
  texts.filterMap (createdName? d.profile.identifierQuote)

theorem mem_indexTexts {stem table : String} {s : Schema} {text : String} :
    text ∈ indexTexts ⟨d.profile, settings⟩ stem table s ↔
      ∃ i ∈ indices s, indexText ⟨d.profile, settings⟩ stem table i = text := by
  unfold indexTexts indexFragments sortTexts
  rw [List.mem_mergeSort, List.mem_eraseDups, List.map_map, List.mem_map]
  simp only [Function.comp_apply, finish_createIndex]

/-- Whether two indices of a written name are one: they are unique or not together, and have the
same columns, casts included. -/
def SameIndex (t : Target) (i k : Index) : Prop :=
  i.unique = k.unique ∧ t.indexColumnsText i = t.indexColumnsText k

theorem nodup_createdNames_indexTexts (stem table : String) (s : Schema) :
    (createdNames d (indexTexts ⟨d.profile, settings⟩ stem table s)).Nodup ↔
      ∀ i ∈ indices s, ∀ k ∈ indices s,
        writtenName ⟨d.profile, settings⟩ (Index.nameFor stem i) =
            writtenName ⟨d.profile, settings⟩ (Index.nameFor stem k) →
          SameIndex ⟨d.profile, settings⟩ i k := by
  have hsome : ∀ text ∈ indexTexts ⟨d.profile, settings⟩ stem table s,
      (createdName? d.profile.identifierQuote text).isSome := by
    intro text htext
    obtain ⟨i, _, rfl⟩ := (mem_indexTexts d settings).mp htext
    rw [createdName?_indexText]
    rfl
  -- The statements are distinct, so equal names are those of one statement.
  have hnodup : (indexTexts ⟨d.profile, settings⟩ stem table s).Nodup :=
    nodup_sortTexts (nodup_eraseDups _)
  unfold createdNames
  rw [nodup_filterMap_iff hnodup hsome]
  constructor
  · intro h i hi k hk hname
    have htexts := h _ ((mem_indexTexts d settings).mpr ⟨i, hi, rfl⟩) _
      ((mem_indexTexts d settings).mpr ⟨k, hk, rfl⟩) (by
        rw [createdName?_indexText, createdName?_indexText, hname])
    exact (indexText_eq_iff _ hname).mp htexts
  · intro h text htext other hother hname
    obtain ⟨i, hi, rfl⟩ := (mem_indexTexts d settings).mp htext
    obtain ⟨k, hk, rfl⟩ := (mem_indexTexts d settings).mp hother
    rw [createdName?_indexText, createdName?_indexText] at hname
    have hname := Option.some.inj hname
    exact (indexText_eq_iff _ hname).mpr (h i hi k hk hname)

theorem mem_createdNames_indexTexts {stem table : String} {s : Schema} {name : String} :
    name ∈ createdNames d (indexTexts ⟨d.profile, settings⟩ stem table s) ↔
      ∃ i ∈ indices s, writtenName ⟨d.profile, settings⟩ (Index.nameFor stem i) = name := by
  unfold createdNames
  rw [List.mem_filterMap]
  constructor
  · rintro ⟨text, htext, hname⟩
    obtain ⟨i, hi, rfl⟩ := (mem_indexTexts d settings).mp htext
    rw [createdName?_indexText] at hname
    exact ⟨i, hi, Option.some.inj hname⟩
  · rintro ⟨i, hi, rfl⟩
    exact ⟨_, (mem_indexTexts d settings).mpr ⟨i, hi, rfl⟩, createdName?_indexText d settings _ _ i⟩

/-- The statement of the full-text index, if there is one, creates one name. -/
theorem createdNames_fulltextTexts (stem table : String) (s : Schema) :
    createdNames d (fulltextTexts ⟨d.profile, settings⟩ stem table s) =
      if s.fulltext ≠ [] ∧ d ≠ .sqlite then
        [writtenName ⟨d.profile, settings⟩ (fulltextName ⟨d.profile, settings⟩ stem)]
      else [] := by
  rcases fulltextTexts_eq d settings stem table s with ⟨⟨text, htext⟩, hthere⟩ | ⟨hnone, hnot⟩
  · have hname := createdName?_fulltextText d settings
      (show text ∈ fulltextTexts ⟨d.profile, settings⟩ stem table s by rw [htext]; simp)
    rw [if_pos hthere, htext]
    exact List.filterMap_cons_some hname
  · rw [hnone, if_neg (by simpa [or_iff_not_imp_left] using hnot)]
    rfl

/-- **Names of indices.** The statements of a table create the indices that are declared or asked
for by columns and the full-text index, each under its written name. These names are distinct
exactly if indices of one name are the same, and none has the name of the full-text index. -/
theorem createdNames_nodup_iff {s : Schema} {override : Option String} {j : Log.Journal}
    {texts : List String}
    (h : (statements ⟨d.profile, settings⟩ s override).outcome j = .ok texts) :
    ∃ table, chooseName? override s = some table ∧
      (∀ name, name ∈ createdNames d texts ↔
        (∃ i ∈ indices s,
          writtenName ⟨d.profile, settings⟩ (Index.nameFor (Text.lower table) i) = name) ∨
        (s.fulltext ≠ [] ∧ d ≠ .sqlite) ∧ name = writtenName ⟨d.profile, settings⟩
          (fulltextName ⟨d.profile, settings⟩ (Text.lower table))) ∧
      ((createdNames d texts).Nodup ↔
        (∀ i ∈ indices s, ∀ k ∈ indices s,
          writtenName ⟨d.profile, settings⟩ (Index.nameFor (Text.lower table) i) =
              writtenName ⟨d.profile, settings⟩ (Index.nameFor (Text.lower table) k) →
            SameIndex ⟨d.profile, settings⟩ i k) ∧
        (s.fulltext ≠ [] ∧ d ≠ .sqlite → ∀ i ∈ indices s,
          writtenName ⟨d.profile, settings⟩ (Index.nameFor (Text.lower table) i) ≠
            writtenName ⟨d.profile, settings⟩
              (fulltextName ⟨d.profile, settings⟩ (Text.lower table)))) := by
  obtain ⟨table, hname, _, _, rfl⟩ := statements_eq_ok_iff.mp h
  have hnames : createdNames d (tableStatements ⟨d.profile, settings⟩ table s) =
      createdNames d (indexTexts ⟨d.profile, settings⟩ (Text.lower table) table s) ++
        createdNames d (fulltextTexts ⟨d.profile, settings⟩ (Text.lower table) table s) := by
    unfold createdNames tableStatements
    rw [List.cons_append, List.filterMap_cons_none (createdName?_createTable _ _ table s),
      List.filterMap_append]
  refine ⟨table, hname, fun name => ?_, ?_⟩
  · rw [hnames, List.mem_append, mem_createdNames_indexTexts, createdNames_fulltextTexts]
    split <;> simp_all
  · rw [hnames, List.nodup_append, nodup_createdNames_indexTexts d settings,
      createdNames_fulltextTexts]
    refine and_congr_right fun _ => ?_
    simp only [mem_createdNames_indexTexts]
    split
    · rename_i hthere
      constructor
      · rintro ⟨_, hother⟩ _ i hi
        exact hother _ ⟨i, hi, rfl⟩ _ (List.mem_singleton_self _)
      · intro hother
        refine ⟨List.nodup_singleton _, ?_⟩
        rintro _ ⟨i, hi, rfl⟩ name hname
        rw [List.mem_singleton.mp hname]
        exact hother hthere i hi
    · rename_i hnone
      exact iff_of_true ⟨List.nodup_nil, fun _ _ _ hmem => absurd hmem List.not_mem_nil⟩
        fun hthere => absurd hthere hnone

/-- A table of one column, with an index of its own and another one that is asked for by the
column. -/
def twiceIndexed (unique : Bool) : Schema :=
  { table := some "t", columns := [("a", { index := some ["a"] })],
    indices := [{ columns := ["a"], unique := unique }] }

/-- The same index twice is one statement. -/
theorem createdNames_nodup_repeated :
    (statements ⟨Dialect.postgres.profile, {}⟩ (twiceIndexed false) none).outcome .empty =
        .ok ["CREATE TABLE IF NOT EXISTS t (\n    a VARCHAR(128)\n);",
          "CREATE INDEX t_a ON t (a);"] ∧
      (createdNames .postgres ["CREATE TABLE IF NOT EXISTS t (\n    a VARCHAR(128)\n);",
          "CREATE INDEX t_a ON t (a);"]).Nodup := by
  have hstatements : (statements ⟨Dialect.postgres.profile, {}⟩ (twiceIndexed false)
      none).outcome .empty = .ok ["CREATE TABLE IF NOT EXISTS t (\n    a VARCHAR(128)\n);",
        "CREATE INDEX t_a ON t (a);"] :=
    Log.eq_ok_of_toOption (by decide +kernel)
  obtain ⟨table, htable, _, hnodup⟩ := createdNames_nodup_iff .postgres {} hstatements
  obtain rfl : "t" = table := Option.some.inj ((by decide : _ = some "t").symm.trans htable)
  have hsame : ∀ i ∈ indices (twiceIndexed false), ∀ k ∈ indices (twiceIndexed false),
      i.unique = k.unique ∧ indexColumnsText ⟨Dialect.postgres.profile, {}⟩ i =
        indexColumnsText ⟨Dialect.postgres.profile, {}⟩ k := by
    decide +kernel
  exact ⟨hstatements, hnodup.mpr ⟨fun i hi k hk _ => hsame i hi k hk,
    fun hthere => absurd rfl hthere.1⟩⟩

/-- A unique index and one that is not have one name, and both statements are there. -/
theorem createdNames_uniqueAndPlain :
    (statements ⟨Dialect.sqlite.profile, {}⟩ (twiceIndexed true) none).outcome .empty =
        .ok ["CREATE TABLE IF NOT EXISTS t (\n    a VARCHAR(128)\n);",
          "CREATE INDEX t_a ON t (a);", "CREATE UNIQUE INDEX t_a ON t (a);"] ∧
      createdNames .sqlite ["CREATE TABLE IF NOT EXISTS t (\n    a VARCHAR(128)\n);",
        "CREATE INDEX t_a ON t (a);", "CREATE UNIQUE INDEX t_a ON t (a);"] = ["t_a", "t_a"] ∧
      ¬ ["t_a", "t_a"].Nodup := by
  have htexts : ((indexFragments ⟨Dialect.sqlite.profile, {}⟩ (Text.lower "t") "t"
      (twiceIndexed true)).map (finish ⟨Dialect.sqlite.profile, {}⟩)).eraseDups =
        ["CREATE UNIQUE INDEX t_a ON t (a);", "CREATE INDEX t_a ON t (a);"] := by
    decide +kernel
  have hsorted : sortTexts ["CREATE UNIQUE INDEX t_a ON t (a);", "CREATE INDEX t_a ON t (a);"] =
      ["CREATE INDEX t_a ON t (a);", "CREATE UNIQUE INDEX t_a ON t (a);"] :=
    (sortTexts_pair _ _).trans (if_neg (by decide +kernel))
  refine ⟨statements_eq_ok_iff.mpr ⟨"t", by decide, by decide, by decide +kernel, ?_⟩,
    by decide +kernel, by decide⟩
  unfold tableStatements indexTexts
  extract_lets stem
  rw [htexts, hsorted]
  decide +kernel

end Target

end Ddl

end SqlCompiler

