import SqlCompiler.Proofs.Sql.Binding
import SqlCompiler.Proofs.Text.Digits
import SqlCompiler.Proofs.Text.OneLine

/-!
# Filling statements

The question marks outside of literals are the places of a statement. Whatever texts are written in
these places (`fillOutside`), the rest of the statement stays; numbering is one way to fill them
(`numberOutside_eq_fillOutside`). It does not matter whether a statement is put on one line before
it is filled or after, if each of the texts is on one line itself (`onOneLine_fillOutside`).
-/

namespace SqlCompiler.Sql

open Text

/-! ## Places -/

/-- Writes texts in the places of the part of a statement behind `before`, one after the other. -/
def fillOutside (texts : Nat → List Char) (before : List Char) : List Char → List Char
  | [] => []
  | c :: rest =>
    if c = '?' ∧ ¬ InLiteral before rest then
      texts 0 ++ fillOutside (texts ∘ Nat.succ) (before ++ [c]) rest
    else c :: fillOutside texts (before ++ [c]) rest

variable {texts : Nat → List Char} {before before' : List Char}

theorem fillOutside_mark {rest : List Char} (h : ¬ InLiteral before rest) :
    fillOutside texts before ('?' :: rest) =
      texts 0 ++ fillOutside (texts ∘ Nat.succ) (before ++ ['?']) rest := by
  rw [fillOutside, if_pos ⟨rfl, h⟩]

theorem fillOutside_copied {c : Char} {rest : List Char}
    (h : ¬ (c = '?' ∧ ¬ InLiteral before rest)) :
    fillOutside texts before (c :: rest) = c :: fillOutside texts (before ++ [c]) rest := by
  rw [fillOutside, if_neg h]

theorem fillOutside_of_ne {c : Char} (hc : c ≠ '?') (rest : List Char) :
    fillOutside texts before (c :: rest) = c :: fillOutside texts (before ++ [c]) rest :=
  fillOutside_copied fun h => hc h.1

theorem openMarks_mark {rest : List Char} (h : ¬ InLiteral before rest) :
    openMarks before ('?' :: rest) = openMarks (before ++ ['?']) rest + 1 := by
  rw [openMarks, if_pos ⟨rfl, h⟩]

theorem openMarks_copied {c : Char} {rest : List Char}
    (h : ¬ (c = '?' ∧ ¬ InLiteral before rest)) :
    openMarks before (c :: rest) = openMarks (before ++ [c]) rest := by
  rw [openMarks, if_neg h]

theorem openMarks_congr (h : before.count '\'' = before'.count '\'') (s : List Char) :
    openMarks before s = openMarks before' s := by
  induction s generalizing before before' with
  | nil => rfl
  | cons c s ih =>
    have hnext := count_append_congr h [c]
    rw [openMarks, openMarks, ih hnext]
    simp only [inLiteral_congr h rfl]

/-- What is neither a question mark nor an apostrophe is no place and makes none. -/
theorem openMarks_filter_isTelling (before s : List Char) :
    openMarks before (s.filter isTelling) = openMarks before s := by
  induction s generalizing before with
  | nil => rfl
  | cons c s ih =>
    have hcount : (s.filter isTelling).count '\'' = s.count '\'' := List.count_filter (by decide)
    by_cases hc : isTelling c = true
    · rw [List.filter_cons_of_pos hc, openMarks, openMarks, ih]
      simp only [inLiteral_congr rfl hcount]
    · obtain ⟨hmark, hquote⟩ := ne_of_isTelling_eq_false (Bool.eq_false_iff.mpr hc)
      rw [List.filter_cons_of_neg hc, ih, openMarks_copied fun h => hmark h.1]
      exact openMarks_congr (count_concat_of_ne hquote before).symm s

/-! ## Numbers -/

/-- The number of the place behind `k` others, if the first one is `next`. -/
def numberText (next k : Nat) : List Char :=
  '$' :: digitsOn 10 (next + k) []

theorem numberText_comp_succ (next : Nat) : numberText next ∘ Nat.succ = numberText (next + 1) := by
  funext k
  show '$' :: digitsOn 10 (next + (k + 1)) [] = '$' :: digitsOn 10 (next + 1 + k) []
  rw [Nat.add_assoc, Nat.add_comm 1 k]

/-- Numbering fills the places with numbers. -/
theorem numberOutside_eq_fillOutside (next : Nat) (before s : List Char) :
    numberOutside next before s = fillOutside (numberText next) before s := by
  induction s generalizing next before with
  | nil => rfl
  | cons c s ih =>
    unfold numberOutside fillOutside
    rw [ih, ih, numberText_comp_succ]
    show (if _ then _ else _) =
      if _ then '$' :: (digitsOn 10 next [] ++ fillOutside (numberText (next + 1)) _ s) else _
    rw [digitsOn_append, List.nil_append]

/-! ## Statements on one line -/

theorem isBlank_eq_false_of_isDigit {c : Char} (h : c.isDigit = true) : isBlank c = false := by
  have hrange := toNat_of_isDigit h
  unfold isBlank Ranges.contains blankRanges
  simp only [List.any_cons, List.any_nil, Bool.or_false, Bool.or_eq_false_iff,
    Bool.and_eq_false_iff, decide_eq_false_iff_not]
  omega

theorem isOneLine_numberText (next k : Nat) : IsOneLine (numberText next k) := by
  refine isOneLine_of_forall (List.cons_ne_nil _ _) fun c hc => ?_
  unfold numberText at hc
  rw [digitsOn_eq (by decide), List.append_nil] at hc
  rcases List.mem_cons.mp hc with rfl | hc
  · decide
  · exact isBlank_eq_false_of_isDigit (Nat.isDigit_of_mem_toDigits (by decide) (by decide) hc)

/-- Only the apostrophes in front of a part matter to it. -/
theorem fillOutside_congr (h : before.count '\'' = before'.count '\'') (s : List Char) :
    fillOutside texts before s = fillOutside texts before' s := by
  induction s generalizing texts before before' with
  | nil => rfl
  | cons c s ih =>
    have hnext := count_append_congr h [c]
    rw [fillOutside, fillOutside, ih hnext, ih hnext]
    simp only [inLiteral_congr h rfl]

theorem fillOutside_blank {c : Char} (hc : isBlank c = true) (s : List Char) :
    fillOutside texts before (c :: s) = c :: fillOutside texts before s := by
  obtain ⟨hmark, hquote⟩ := ne_of_isTelling_eq_false (isTelling_eq_false_of_isBlank hc)
  rw [fillOutside_of_ne hmark, fillOutside_congr (count_concat_of_ne hquote before)]

theorem count_collapseBlanks (s : List Char) : (collapseBlanks s).count '\'' = s.count '\'' := by
  have htelling : isTelling '\'' = true := by decide
  rw [← List.count_filter htelling, filter_collapseBlanks fun _ => isTelling_eq_false_of_isBlank,
    List.count_filter htelling]

section OneLine

variable (htexts : ∀ k, IsOneLine (texts k))

include htexts

/-- No blank comes to the front. -/
theorem first_fillOutside {c : Char} (hc : isBlank c = false) (before s : List Char) :
    (fillOutside texts before (c :: s)).head?.any (!isBlank ·) = true := by
  unfold fillOutside
  split
  · obtain ⟨d, rest, htext, hd⟩ := exists_cons_of_first (htexts 0).first
    rw [htext]
    exact hd
  · simpa using hc

/-- No blank comes to the end. -/
theorem last_fillOutside {c : Char} (hc : isBlank c = false) (before s : List Char) :
    (fillOutside texts before (s ++ [c])).getLast?.any (!isBlank ·) = true := by
  induction s generalizing texts before with
  | nil =>
    rw [List.nil_append]
    unfold fillOutside
    split
    · rw [fillOutside, List.append_nil]
      exact (htexts 0).last
    · simpa [fillOutside] using hc
  | cons d s ih =>
    rw [List.cons_append]
    unfold fillOutside
    split
    · have hlater : ∀ k, IsOneLine ((texts ∘ Nat.succ) k) := fun k => htexts k.succ
      obtain ⟨front, e, hend, he⟩ := exists_concat_of_last (ih hlater (before ++ [d]))
      rw [hend, ← List.append_assoc, List.getLast?_concat]
      exact he
    · obtain ⟨front, e, hend, he⟩ := exists_concat_of_last (ih htexts (before ++ [d]))
      rw [hend, ← List.cons_append, List.getLast?_concat]
      exact he

theorem dropWhile_fillOutside (before s : List Char) :
    (fillOutside texts before s).dropWhile isBlank =
      fillOutside texts before (s.dropWhile isBlank) := by
  induction s with
  | nil => rfl
  | cons c s ih =>
    cases hc : isBlank c with
    | true =>
      rw [fillOutside_blank hc, List.dropWhile_cons_of_pos hc, List.dropWhile_cons_of_pos hc, ih]
    | false =>
      obtain ⟨d, rest, hfilled, hd⟩ := exists_cons_of_first (first_fillOutside htexts hc before s)
      have hd : ¬ isBlank d = true := by simpa using hd
      rw [List.dropWhile_cons_of_neg (Bool.eq_false_iff.mp hc), hfilled,
        List.dropWhile_cons_of_neg hd]

omit htexts in
theorem fillOutside_concat_blank {c : Char} (hc : isBlank c = true) (before s : List Char) :
    fillOutside texts before (s ++ [c]) = fillOutside texts before s ++ [c] := by
  have hquote : c ≠ '\'' := by
    rintro rfl
    exact absurd hc (by decide)
  induction s generalizing texts before with
  | nil => exact fillOutside_blank hc []
  | cons d s ih =>
    have hiff : InLiteral before (s ++ [c]) ↔ InLiteral before s :=
      inLiteral_congr rfl (count_concat_of_ne hquote s)
    rw [List.cons_append, fillOutside, fillOutside, ih, ih]
    simp only [hiff]
    split
    · rw [List.append_assoc]
    · rfl

theorem rdropWhile_fillOutside (before s : List Char) :
    (fillOutside texts before s).rdropWhile isBlank =
      fillOutside texts before (s.rdropWhile isBlank) := by
  induction s using List.reverseRecOn with
  | nil => rfl
  | append_singleton s c ih =>
    cases hc : isBlank c with
    | true =>
      rw [fillOutside_concat_blank hc, List.rdropWhile_concat_pos _ _ _ hc,
        List.rdropWhile_concat_pos _ _ _ hc, ih]
    | false =>
      obtain ⟨front, d, hfilled, hd⟩ := exists_concat_of_last (last_fillOutside htexts hc before s)
      have hd : ¬ isBlank d = true := by simpa using hd
      rw [List.rdropWhile_concat_neg _ _ _ (Bool.eq_false_iff.mp hc), hfilled,
        List.rdropWhile_concat_neg _ _ _ hd]

theorem spaced_fillOutside (before s : List Char) :
    spaced (fillOutside texts before s) = fillOutside texts before (spaced s) := by
  have hspace : isBlank ' ' = true := by decide
  by_cases hs : s.head? = some ' '
  · obtain ⟨rest, rfl⟩ : ∃ rest, s = ' ' :: rest := List.head?_eq_some_iff.mp hs
    rw [fillOutside_blank hspace]
    exact (fillOutside_blank hspace rest).symm
  · have hhead : (fillOutside texts before s).head? ≠ some ' ' := by
      cases s with
      | nil => exact hs
      | cons c s =>
        cases hc : isBlank c with
        | true =>
          rw [fillOutside_blank hc]
          exact hs
        | false =>
          obtain ⟨d, rest, hfilled, hd⟩ :=
            exists_cons_of_first (first_fillOutside htexts hc before s)
          rw [hfilled]
          rintro hd'
          obtain rfl := Option.some.inj hd'
          exact absurd hd (by decide)
    rw [spaced_of_head?_ne hs, fillOutside_blank hspace, spaced_of_head?_ne hhead]

theorem collapseBlanks_fillOutside (before s : List Char) :
    collapseBlanks (fillOutside texts before s) =
      fillOutside texts before (collapseBlanks s) := by
  induction s generalizing texts before with
  | nil => rfl
  | cons c s ih =>
    cases hc : isBlank c with
    | true =>
      rw [fillOutside_blank hc, collapseBlanks_of_blank hc, collapseBlanks_of_blank hc, ih htexts,
        spaced_fillOutside htexts]
    | false =>
      have hiff : InLiteral before (collapseBlanks s) ↔ InLiteral before s :=
        inLiteral_congr rfl (count_collapseBlanks s)
      rw [collapseBlanks_of_not_blank hc, fillOutside, fillOutside]
      simp only [hiff]
      split
      · have hlater : ∀ k, IsOneLine ((texts ∘ Nat.succ) k) := fun k => htexts k.succ
        rw [collapseBlanks_append (htexts 0).last, (htexts 0).collapsed, ih hlater]
      · rw [collapseBlanks_of_not_blank hc, ih htexts]

/-- **Filling on one line.** Put on one line, a filled statement is the statement on one line,
filled with the same texts. -/
theorem onOneLine_fillOutside (s : String) :
    (onOneLine (String.ofList (fillOutside texts [] s.toList))).toList =
      fillOutside texts [] (onOneLine s).toList := by
  unfold onOneLine
  rw [String.toList_ofList, String.toList_ofList, String.toList_ofList, trimBoth_eq, trimBoth_eq,
    collapseBlanks_fillOutside htexts, dropWhile_fillOutside htexts,
    rdropWhile_fillOutside htexts]

end OneLine

theorem openMarks_onOneLine (s : String) :
    openMarks [] (onOneLine s).toList = openMarks [] s.toList := by
  have hblank : ∀ c, isBlank c = true → isTelling c = false := fun _ =>
    isTelling_eq_false_of_isBlank
  unfold onOneLine
  rw [String.toList_ofList, ← openMarks_filter_isTelling, filter_trimBoth hblank,
    filter_collapseBlanks hblank, openMarks_filter_isTelling]

end SqlCompiler.Sql
