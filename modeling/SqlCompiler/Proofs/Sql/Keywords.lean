import Mathlib.Data.List.Basic
import SqlCompiler.Dialect.Profile
import SqlCompiler.Proofs.Sql.NullOrdering
import SqlCompiler.Proofs.Text.Split
import SqlCompiler.Sql.Keywords

/-!
# What respelling keywords leaves

Words are replaced one by one, so a text that is cut at a character of no word can be respelled part
by part (`mapWords_append_cons`). A text stays as it is exactly if no keyword is a word of it
(`respellWords_eq_self_iff`). For this the new spelling of a keyword must differ from the old one
before either ends: then what follows cannot make up for the difference.
-/

namespace SqlCompiler

namespace Text

variable {f : List Char → List Char}

theorem mapWordsFrom_cons_word {c : Char} (hc : isWord c = true) (pending s : List Char) :
    mapWordsFrom f pending (c :: s) = mapWordsFrom f (c :: pending) s := by
  rw [mapWordsFrom, if_pos hc]

theorem mapWordsFrom_append_cons {c : Char} (hc : isWord c = false) (pending s t : List Char) :
    mapWordsFrom f pending (s ++ c :: t) = mapWordsFrom f pending s ++ c :: mapWords f t := by
  induction s generalizing pending with
  | nil => simp [mapWordsFrom, mapWords, hc]
  | cons d s ih =>
    rw [List.cons_append, mapWordsFrom, mapWordsFrom]
    by_cases hd : isWord d = true
    · rw [if_pos hd, if_pos hd, ih]
    · rw [if_neg hd, if_neg hd, ih, List.append_assoc, List.cons_append]

theorem mapWordsFrom_cons {c : Char} (hc : isWord c = false) (pending s : List Char) :
    mapWordsFrom f pending (c :: s) = mapWordsFrom f pending [] ++ c :: mapWords f s :=
  mapWordsFrom_append_cons hc pending [] s

/-- The parts of a text before and behind a character of no word are replaced on their own. -/
theorem mapWords_append_cons {c : Char} (hc : isWord c = false) (s t : List Char) :
    mapWords f (s ++ c :: t) = mapWords f s ++ c :: mapWords f t :=
  mapWordsFrom_append_cons hc [] s t

theorem mapWords_cons {c : Char} (hc : isWord c = false) (s : List Char) :
    mapWords f (c :: s) = c :: mapWords f s :=
  mapWords_append_cons hc [] s

theorem mapWordsFrom_of_forall (hf : ∀ w, f w = w) (pending s : List Char) :
    mapWordsFrom f pending s = pending.reverse ++ s := by
  induction s generalizing pending with
  | nil => cases pending <;> simp [mapWordsFrom, hf]
  | cons c s ih =>
    by_cases hc : isWord c = true
    · rw [mapWordsFrom_cons_word hc, ih]
      simp
    · rw [mapWordsFrom, if_neg hc, ih]
      cases pending <;> simp [hf]

/-- Doubling a character of no word that replacing does not bring in may come first or last. -/
theorem doubleMark_mapWordsFrom {mark : Char} (hmark : isWord mark = false)
    (hf : ∀ w, mark ∉ w → mark ∉ f w) {pending : List Char} (hpending : mark ∉ pending)
    (s : List Char) :
    doubleMark [mark] (mapWordsFrom f pending s) = mapWordsFrom f pending (doubleMark [mark] s) := by
  have hword : ∀ p : List Char, mark ∉ p →
      doubleMark [mark] (mapWordsFrom f p []) = mapWordsFrom f p [] := by
    intro p hp
    refine doubleMark_singleton_of_not_mem ?_
    rw [mapWordsFrom]
    split
    · exact List.not_mem_nil
    · exact hf _ (mt List.mem_reverse.mp hp)
  induction s generalizing pending with
  | nil =>
    have hnil : doubleMark [mark] [] = [] := by
      rw [doubleMark]
    rw [hnil, hword pending hpending]
  | cons c s ih =>
    have hrest : doubleMark [mark] (mapWords f s) = mapWords f (doubleMark [mark] s) :=
      ih List.not_mem_nil
    by_cases hc : c = mark
    · rw [hc, doubleMark_singleton_cons, if_pos rfl, mapWordsFrom_cons hmark,
        mapWordsFrom_cons hmark, mapWords_cons hmark, doubleMark_singleton_append,
        hword pending hpending, doubleMark_singleton_cons, if_pos rfl, hrest]
    · rw [doubleMark_singleton_cons, if_neg hc]
      by_cases hw : isWord c = true
      · have hnext : mark ∉ c :: pending := by
          rw [List.mem_cons, not_or]
          exact ⟨Ne.symm hc, hpending⟩
        rw [mapWordsFrom_cons_word hw, mapWordsFrom_cons_word hw, ih hnext]
      · have hw' := Bool.eq_false_iff.mpr hw
        rw [mapWordsFrom_cons hw', mapWordsFrom_cons hw', doubleMark_singleton_append,
          hword pending hpending, doubleMark_singleton_cons, if_neg hc, hrest]

end Text

namespace Sql

open Text

/-! ## Words -/

/-- A text stands somewhere as a whole word: a run of word characters with none beside it. -/
def HasWord (word s : List Char) : Prop :=
  ∃ before after, s = before ++ (word ++ after) ∧ word ≠ [] ∧ (∀ c ∈ word, isWord c = true) ∧
    isBoundary before.getLast? = true ∧ isBoundary after.head? = true

theorem not_hasWord_nil (word : List Char) : ¬ HasWord word [] := by
  rintro ⟨before, after, hs, hne, _⟩
  simp only [List.nil_eq, List.append_eq_nil_iff] at hs
  exact hne hs.2.1

/-- A character of no word divides the words of a text into those before and those behind it. -/
theorem hasWord_append_cons {word : List Char} {c : Char} (hc : isWord c = false)
    (s t : List Char) : HasWord word (s ++ c :: t) ↔ HasWord word s ∨ HasWord word t := by
  constructor
  · rintro ⟨before, after, hsplit, hne, hword, hbefore, hafter⟩
    rcases List.append_eq_append_iff.mp hsplit with ⟨more, rfl, hmore⟩ | ⟨more, rfl, hmore⟩
    · -- The word starts behind `s`, and not with `c`.
      cases more with
      | nil =>
        obtain ⟨d, word, rfl⟩ := List.exists_cons_of_ne_nil hne
        obtain rfl : d = c := ((List.cons.inj hmore).1).symm
        rw [hword d List.mem_cons_self] at hc
        cases hc
      | cons d more =>
        obtain ⟨rfl, ht⟩ := List.cons.inj hmore
        refine .inr ⟨more, after, ht, hne, hword, ?_, hafter⟩
        cases more with
        | nil => rfl
        | cons e more =>
          rwa [List.getLast?_append_cons, List.getLast?_cons_cons] at hbefore
    · -- The word starts in `s`, and ends there because `c` is not in it.
      rcases List.append_eq_append_iff.mp hmore with ⟨rest, rfl, hrest⟩ | ⟨rest, hrest, hct⟩
      · refine .inl ⟨before, rest, rfl, hne, hword, hbefore, ?_⟩
        cases rest with
        | nil => rfl
        | cons e rest =>
          rw [hrest] at hafter
          exact hafter
      · cases rest with
        | nil =>
          rw [List.append_nil] at hrest
          subst hrest
          exact .inl ⟨before, [], by simp, hne, hword, hbefore, rfl⟩
        | cons d rest =>
          obtain ⟨rfl, _⟩ := List.cons.inj hct
          have hmem : c ∈ word := by
            rw [hrest]
            exact List.mem_append_right more List.mem_cons_self
          rw [hword c hmem] at hc
          cases hc
  · rintro (⟨before, after, rfl, hne, hword, hbefore, hafter⟩ |
      ⟨before, after, rfl, hne, hword, hbefore, hafter⟩)
    · refine ⟨before, after ++ c :: t, by simp, hne, hword, hbefore, ?_⟩
      cases after with
      | nil => simp [isBoundary, hc]
      | cons d after => exact hafter
    · refine ⟨s ++ c :: before, after, by simp, hne, hword, ?_, hafter⟩
      rw [List.getLast?_append_cons]
      cases before with
      | nil => simp [isBoundary, hc]
      | cons d before => rwa [List.getLast?_cons_cons]

/-- A run of word characters is the only word of itself. -/
theorem hasWord_iff_eq {word s : List Char} (hne : s ≠ []) (hs : ∀ c ∈ s, isWord c = true) :
    HasWord word s ↔ word = s := by
  constructor
  · rintro ⟨before, after, rfl, -, -, hbefore, hafter⟩
    have hfirst : before = [] := by
      rcases List.eq_nil_or_concat before with rfl | ⟨init, c, rfl⟩
      · rfl
      · have hc : isWord c = true := hs c (by simp)
        simp [isBoundary, hc] at hbefore
    have hlast : after = [] := by
      cases after with
      | nil => rfl
      | cons c after =>
        have hc : isWord c = true := hs c (by simp)
        simp [isBoundary, hc] at hafter
    simp [hfirst, hlast]
  · rintro rfl
    exact ⟨[], [], by simp, hne, hs, rfl, rfl⟩

/-! ## Texts that stay -/

/-- Neither of two texts starts with the other. -/
def Apart (s t : List Char) : Prop :=
  ¬ s <+: t ∧ ¬ t <+: s

instance (s t : List Char) : Decidable (Apart s t) :=
  inferInstanceAs (Decidable (_ ∧ _))

theorem Apart.append_ne {s t : List Char} (h : Apart s t) (s' t' : List Char) :
    s ++ s' ≠ t ++ t' := by
  intro heq
  rcases List.append_eq_append_iff.mp heq with ⟨more, rfl, _⟩ | ⟨more, rfl, _⟩
  · exact h.1 (List.prefix_append s more)
  · exact h.2 (List.prefix_append t more)

theorem mapWordsFrom_eq_iff {f : List Char → List Char} (hf : ∀ w, f w = w ∨ Apart (f w) w)
    {pending : List Char} (hpending : ∀ c ∈ pending, isWord c = true) (s : List Char) :
    mapWordsFrom f pending s = pending.reverse ++ s ↔
      ∀ word, HasWord word (pending.reverse ++ s) → f word = word := by
  induction s generalizing pending with
  | nil =>
    rw [mapWordsFrom, List.append_nil]
    cases pending with
    | nil => exact iff_of_true rfl fun word hword => absurd hword (not_hasWord_nil word)
    | cons c pending =>
      have hrun : ∀ d ∈ (c :: pending).reverse, isWord d = true :=
        fun d hd => hpending d (List.mem_reverse.mp hd)
      simp only [hasWord_iff_eq (by simp) hrun, forall_eq]
      exact Iff.rfl
  | cons c s ih =>
    by_cases hc : isWord c = true
    · have hnext : ∀ d ∈ c :: pending, isWord d = true := List.forall_mem_cons.mpr ⟨hc, hpending⟩
      have hmove : pending.reverse ++ c :: s = (c :: pending).reverse ++ s := by simp
      rw [mapWordsFrom_cons_word hc, hmove]
      exact ih hnext
    · have hc' := Bool.eq_false_iff.mpr hc
      have hrest : mapWords f s = s ↔ ∀ word, HasWord word s → f word = word :=
        @ih [] (List.forall_mem_nil _)
      rw [mapWordsFrom_cons hc']
      simp only [hasWord_append_cons hc', or_imp, forall_and, ← hrest]
      cases pending with
      | nil => simp [mapWordsFrom, not_hasWord_nil]
      | cons d pending =>
        have hrun : ∀ e ∈ (d :: pending).reverse, isWord e = true :=
          fun e he => hpending e (List.mem_reverse.mp he)
        have hflush : mapWordsFrom f (d :: pending) [] = f (d :: pending).reverse := rfl
        simp only [hasWord_iff_eq (by simp) hrun, forall_eq, hflush]
        rcases hf (d :: pending).reverse with hsame | hapart
        · rw [hsame, List.append_cancel_left_eq, List.cons.injEq]
          simp
        · refine iff_of_false (hapart.append_ne _ _) fun h => hapart.1 ?_
          exact h.1.symm ▸ List.prefix_rfl

/-- The new spelling of each keyword and the keyword itself differ before either ends. -/
def AreApart (spellings : List (String × String)) : Prop :=
  ∀ p ∈ spellings, Apart p.2.toList p.1.toList

theorem areApart_keywordSpellings (d : Dialect) : AreApart d.profile.keywordSpellings := by
  unfold AreApart
  cases d <;> decide

variable {spellings : List (String × String)}

/-- A word is kept, or it is a keyword and replaced by its new spelling. -/
theorem respellWord_cases (spellings : List (String × String)) (word : List Char) :
    (respellWord spellings word = word ∧ String.ofList word ∉ spellings.map (·.1)) ∨
      ∃ p ∈ spellings, p.1.toList = word ∧ respellWord spellings word = p.2.toList := by
  unfold respellWord
  rcases hlookup : spellings.lookup (String.ofList word) with _ | spelling
  · refine .inl ⟨rfl, ?_⟩
    intro hmem
    obtain ⟨p, hp, hword⟩ := List.mem_map.mp hmem
    have hne := List.lookup_eq_none_iff.mp hlookup p hp
    simp [hword] at hne
  · obtain ⟨before, after, hsplit, _⟩ := List.lookup_eq_some_iff.mp hlookup
    refine .inr ⟨(String.ofList word, spelling), ?_, String.toList_ofList, rfl⟩
    rw [hsplit]
    exact List.mem_append_right before List.mem_cons_self

theorem respellWord_eq_self_iff (h : AreApart spellings) (word : List Char) :
    respellWord spellings word = word ↔ String.ofList word ∉ spellings.map (·.1) := by
  rcases respellWord_cases spellings word with ⟨hkept, hnot⟩ | ⟨p, hp, rfl, hnew⟩
  · exact iff_of_true hkept hnot
  · refine iff_of_false ?_ (not_not_intro ?_)
    · intro hsame
      have hprefix := (h p hp).1
      rw [← hnew, hsame] at hprefix
      exact hprefix List.prefix_rfl
    · rw [String.ofList_toList]
      exact List.mem_map_of_mem hp

theorem toList_respellWords (spellings : List (String × String)) (s : String) :
    (respellWords spellings s).toList = mapWords (respellWord spellings) s.toList := by
  unfold respellWords
  cases spellings with
  | nil => exact (mapWordsFrom_of_forall (fun _ => rfl) [] s.toList).symm
  | cons p spellings => exact String.toList_ofList

/-- **Respelled keywords.** A text stays as it is exactly if no keyword is a word of it. -/
theorem respellWords_eq_self_iff (h : AreApart spellings) (s : String) :
    respellWords spellings s = s ↔
      ∀ keyword ∈ spellings.map (·.1), ¬ HasWord keyword.toList s.toList := by
  have hcases : ∀ w, respellWord spellings w = w ∨ Apart (respellWord spellings w) w := by
    intro w
    rcases respellWord_cases spellings w with ⟨hkept, _⟩ | ⟨p, hp, rfl, hnew⟩
    · exact .inl hkept
    · exact .inr (hnew ▸ h p hp)
  rw [← String.toList_inj, toList_respellWords]
  refine (mapWordsFrom_eq_iff hcases (by simp) s.toList).trans ?_
  rw [List.reverse_nil, List.nil_append]
  constructor
  · intro hall keyword hkeyword hword
    have hkept := (respellWord_eq_self_iff h _).mp (hall _ hword)
    rw [String.ofList_toList] at hkept
    exact hkept hkeyword
  · intro hnone word hword
    refine (respellWord_eq_self_iff h word).mpr fun hkeyword => ?_
    have hnot := hnone _ hkeyword
    rw [String.toList_ofList] at hnot
    exact hnot hword

end Sql

end SqlCompiler
