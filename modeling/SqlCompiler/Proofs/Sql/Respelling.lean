import SqlCompiler.Proofs.Sql.Spelling

/-!
# Respelling once and for all

A text is made of runs of word characters and of single characters between them, and each run is
respelled on its own (`words_induction`). A run that is kept is no keyword, and the new spelling of a
keyword stays as it is when it is respelled (`AreSettled`). So no keyword is a word of the outcome,
and respelling it again changes nothing (`respellWords_stable`).
-/

namespace SqlCompiler

namespace Text

variable {f : List Char → List Char}

/-- A property of texts, from one run of word characters to the next. -/
theorem words_induction {motive : List Char → Prop}
    (run : ∀ s, (∀ c ∈ s, isWord c = true) → motive s)
    (cut : ∀ s c t, (∀ d ∈ s, isWord d = true) → isWord c = false → motive t →
      motive (s ++ c :: t))
    (s : List Char) : motive s := by
  -- The characters of `word` have been read and belong to one run.
  have hfrom : ∀ t word, (∀ c ∈ word, isWord c = true) → motive (word ++ t) := by
    intro t
    induction t with
    | nil =>
      intro word hword
      rw [List.append_nil]
      exact run word hword
    | cons c t ih =>
      intro word hword
      cases hc : isWord c with
      | false => exact cut word c t hword hc (ih [] (List.forall_mem_nil _))
      | true =>
        rw [List.append_cons]
        refine ih (word ++ [c]) fun d hd => ?_
        rcases List.mem_append.mp hd with hd | hd
        · exact hword d hd
        · rw [List.mem_singleton.mp hd]
          exact hc
  exact hfrom s [] (List.forall_mem_nil _)

theorem mapWordsFrom_of_words {s : List Char} (hs : ∀ c ∈ s, isWord c = true)
    (pending : List Char) : mapWordsFrom f pending s = mapWordsFrom f (s.reverse ++ pending) [] := by
  induction s generalizing pending with
  | nil => rfl
  | cons c s ih =>
    obtain ⟨hc, hs⟩ := List.forall_mem_cons.mp hs
    rw [mapWordsFrom_cons_word hc, ih hs, List.reverse_cons, List.append_assoc]
    rfl

/-- A run of word characters is replaced as a whole. -/
theorem mapWords_of_words {s : List Char} (hne : s ≠ []) (hs : ∀ c ∈ s, isWord c = true) :
    mapWords f s = f s := by
  have hpending : s.reverse.isEmpty = false := by
    rw [List.isEmpty_eq_false_iff]
    exact List.reverse_ne_nil_iff.mpr hne
  rw [mapWords, mapWordsFrom_of_words hs, List.append_nil, mapWordsFrom, hpending,
    List.reverse_reverse]
  rfl

/-- The characters between the words stay, in their order, whatever replaces the words. -/
theorem sublist_filter_mapWords (f : List Char → List Char) (s : List Char) :
    (s.filter (!isWord ·)).Sublist ((mapWords f s).filter (!isWord ·)) := by
  induction s using words_induction with
  | run s hs =>
    have hnone : s.filter (!isWord ·) = [] := by
      rw [List.filter_eq_nil_iff]
      simpa using hs
    rw [hnone]
    exact List.nil_sublist _
  | cut s c t hs hc ih =>
    have hnone : s.filter (!isWord ·) = [] := by
      rw [List.filter_eq_nil_iff]
      simpa using hs
    rw [mapWords_append_cons hc, List.filter_append, List.filter_append, hnone, List.nil_append,
      List.filter_cons_of_pos (by simpa using hc), List.filter_cons_of_pos (by simpa using hc)]
    exact (ih.cons_cons c).trans (List.sublist_append_right _ _)

end Text

namespace Sql

open Text

/-- Respelling leaves the new spelling of each keyword as it is. -/
def AreSettled (spellings : List (String × String)) : Prop :=
  ∀ p ∈ spellings, respellWords spellings p.2 = p.2

instance (spellings : List (String × String)) : Decidable (AreSettled spellings) :=
  inferInstanceAs (Decidable (∀ p ∈ spellings, _))

theorem areSettled_keywordSpellings (d : Dialect) : AreSettled d.profile.keywordSpellings := by
  cases d <;> decide +kernel

variable {spellings : List (String × String)}

/-- No keyword is a word of what a word becomes. -/
theorem not_hasWord_respellWord (hapart : AreApart spellings) (hsettled : AreSettled spellings)
    {word : List Char} (hne : word ≠ []) (hword : ∀ c ∈ word, isWord c = true) {keyword : String}
    (hkeyword : keyword ∈ spellings.map (·.1)) :
    ¬ HasWord keyword.toList (respellWord spellings word) := by
  rcases respellWord_cases spellings word with ⟨hkept, hnot⟩ | ⟨p, hp, -, hnew⟩
  · rw [hkept, hasWord_iff_eq hne hword]
    intro heq
    rw [← heq, String.ofList_toList] at hnot
    exact hnot hkeyword
  · rw [hnew]
    exact (respellWords_eq_self_iff hapart p.2).mp (hsettled p hp) keyword hkeyword

/-- No keyword is a word of a respelled text. -/
theorem not_hasWord_respellWords (hapart : AreApart spellings) (hsettled : AreSettled spellings)
    (s : String) {keyword : String} (hkeyword : keyword ∈ spellings.map (·.1)) :
    ¬ HasWord keyword.toList (respellWords spellings s).toList := by
  rw [toList_respellWords]
  have hrun : ∀ word : List Char, (∀ c ∈ word, isWord c = true) →
      ¬ HasWord keyword.toList (mapWords (respellWord spellings) word) := by
    intro word hword
    by_cases hne : word = []
    · rw [hne]
      exact not_hasWord_nil _
    · rw [mapWords_of_words hne hword]
      exact not_hasWord_respellWord hapart hsettled hne hword hkeyword
  induction s.toList using words_induction with
  | run word hword => exact hrun word hword
  | cut word c t hword hc ih =>
    rw [mapWords_append_cons hc, hasWord_append_cons hc, not_or]
    exact ⟨hrun word hword, ih⟩

/-- **Respelling is stable.** In every dialect no keyword is left as a word of a respelled text, so
respelling it again changes nothing. The characters between the words stay in their order, and two
texts that do not meet within a word are respelled on their own. -/
theorem respellWords_stable (d : Dialect) (s t : String) :
    respellWords d.profile.keywordSpellings (respellWords d.profile.keywordSpellings s) =
        respellWords d.profile.keywordSpellings s ∧
      (∀ keyword ∈ d.profile.keywordSpellings.map (·.1),
        ¬ HasWord keyword.toList (respellWords d.profile.keywordSpellings s).toList) ∧
      (s.toList.filter (!isWord ·)).Sublist
        ((respellWords d.profile.keywordSpellings s).toList.filter (!isWord ·)) ∧
      (isBoundary s.toList.getLast? = true ∨ isBoundary t.toList.head? = true →
        respellWords d.profile.keywordSpellings (s ++ t) =
          respellWords d.profile.keywordSpellings s ++
            respellWords d.profile.keywordSpellings t) := by
  have hapart := areApart_keywordSpellings d
  have hnone : ∀ keyword ∈ d.profile.keywordSpellings.map (·.1),
      ¬ HasWord keyword.toList (respellWords d.profile.keywordSpellings s).toList :=
    fun keyword => not_hasWord_respellWords hapart (areSettled_keywordSpellings d) s
  refine ⟨(respellWords_eq_self_iff hapart _).mpr hnone, hnone, ?_, respellWords_append⟩
  rw [toList_respellWords]
  exact sublist_filter_mapWords _ _

/-- A keyword at the end of the first part, and a longer word that begins with one in the second. -/
theorem respellWords_stable_cut :
    respellWords Dialect.postgres.profile.keywordSpellings ("a RLIKE" ++ " 'DATETIME_'") =
        respellWords Dialect.postgres.profile.keywordSpellings "a RLIKE" ++
          respellWords Dialect.postgres.profile.keywordSpellings " 'DATETIME_'" ∧
      respellWords Dialect.postgres.profile.keywordSpellings "a RLIKE 'DATETIME_'" =
        "a ~* 'DATETIME_'" := by
  obtain ⟨_, _, _, happend⟩ := respellWords_stable .postgres "a RLIKE" " 'DATETIME_'"
  exact ⟨happend (.inr (by decide +kernel)), by decide +kernel⟩

end Sql

end SqlCompiler
