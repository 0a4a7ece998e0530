import SqlCompiler.Proofs.Sql.LiteralTexts

/-!
# Literals without the null ordering

No clause reaches beyond an apostrophe, so the null ordering is removed from each part between
apostrophes on its own (`stripped_append_apostrophe`). Nothing shields the parts that are inside of
literals. A literal changes if the clause stands in it, and two literals become one if nothing else
stands between them; in all other texts the literals are kept (`literalTexts_stripped_eq_iff`).
-/

namespace SqlCompiler.Sql

variable {p p' q q' rest s text : List Char} {parts parts' : List (List Char)}

/-! ## Part by part -/

/-- A text without the null ordering. -/
def stripped (s : List Char) : List Char :=
  stripNullOrderingFrom s.length none s

theorem toList_stripNullOrdering (s : String) :
    (stripNullOrdering s).toList = stripped s.toList :=
  String.toList_ofList

/-- The bound does not matter if it is large enough, nor does the character before if a word may
start behind it or not just the same. -/
theorem stripNullOrderingFrom_congr {bound bound' : Nat} {previous previous' : Option Char}
    (hbound : s.length ≤ bound) (hbound' : s.length ≤ bound')
    (h : isBoundary previous = isBoundary previous') :
    stripNullOrderingFrom bound previous s = stripNullOrderingFrom bound' previous' s := by
  induction bound generalizing bound' previous previous' s with
  | zero =>
    obtain rfl := List.length_eq_zero_iff.mp (Nat.le_zero.mp hbound)
    cases bound' <;> rfl
  | succ bound ih =>
    cases s with
    | nil => cases bound' <;> rfl
    | cons c tail =>
      cases bound' with
      | zero => simp at hbound'
      | succ bound' =>
        have hrest : nullOrderingRest? previous (c :: tail) =
            nullOrderingRest? previous' (c :: tail) := by
          unfold nullOrderingRest?
          rw [h]
        rw [List.length_cons] at hbound hbound'
        rw [stripNullOrderingFrom, stripNullOrderingFrom, hrest]
        rcases hsome : nullOrderingRest? previous' (c :: tail) with _ | rest
        · exact congrArg (c :: ·) (ih (by omega) (by omega) rfl)
        · have hlength := congrArg List.length (nullOrderingRest?_eq_some hsome)
          simp only [List.length_append, List.length_cons] at hlength
          have hclause : nullOrdering.length = 13 := rfl
          exact ih (by omega) (by omega) rfl

theorem isBoundary_apostrophe : isBoundary (some '\'') = true := by
  decide +kernel

theorem dropWhile_isBlank_append_apostrophe (s rest : List Char) :
    (s ++ '\'' :: rest).dropWhile Text.isBlank = s.dropWhile Text.isBlank ++ '\'' :: rest := by
  have hquote : Text.isBlank '\'' = false := by decide
  induction s with
  | nil => rw [List.nil_append, List.dropWhile_cons, hquote]; rfl
  | cons c s ih =>
    rw [List.cons_append, List.dropWhile_cons, List.dropWhile_cons, ih]
    split <;> rfl

theorem isPrefixOf_append_apostrophe (s rest : List Char) :
    nullOrdering.isPrefixOf (s ++ '\'' :: rest) = nullOrdering.isPrefixOf s := by
  rw [Bool.eq_iff_iff, List.isPrefixOf_iff_prefix, List.isPrefixOf_iff_prefix]
  refine ⟨fun h => ?_, fun h => h.trans (List.prefix_append _ _)⟩
  by_cases hlength : nullOrdering.length ≤ s.length
  · exact List.prefix_of_prefix_length_le h (List.prefix_append _ _) hlength
  · -- Otherwise the apostrophe would be one of the clause.
    have happend : s ++ ['\''] <+: s ++ '\'' :: rest := ⟨rest, by simp⟩
    have hprefix : s ++ ['\''] <+: nullOrdering :=
      List.prefix_of_prefix_length_le happend h (by rw [List.length_append]; simp; omega)
    have hmem : '\'' ∈ nullOrdering := hprefix.subset (by simp)
    exact absurd hmem (by decide)

/-- The clause ends at the latest before an apostrophe. -/
theorem nullOrderingRest?_append_apostrophe (previous : Option Char) (s rest : List Char) :
    nullOrderingRest? previous (s ++ '\'' :: rest) =
      (nullOrderingRest? previous s).map (· ++ '\'' :: rest) := by
  unfold nullOrderingRest?
  rw [dropWhile_isBlank_append_apostrophe]
  dsimp only
  rw [isPrefixOf_append_apostrophe]
  generalize s.dropWhile Text.isBlank = body
  by_cases hclause : nullOrdering.isPrefixOf body = true
  · obtain ⟨tail, rfl⟩ := List.isPrefixOf_iff_prefix.mp hclause
    have hhead : isBoundary (tail ++ '\'' :: rest).head? = isBoundary tail.head? := by
      cases tail with
      | nil => exact isBoundary_apostrophe
      | cons c tail => rfl
    rw [List.append_assoc, List.drop_left, List.drop_left, hhead]
    simp only [List.length_append, List.length_cons, ← Nat.add_assoc, Nat.add_lt_add_iff_right]
    split <;> rfl
  · rw [Bool.not_eq_true] at hclause
    simp only [hclause, Bool.false_and]
    rfl

/-- The null ordering is removed on each side of an apostrophe on its own. -/
theorem stripNullOrderingFrom_append_apostrophe {bound : Nat} (previous : Option Char)
    (hbound : (s ++ '\'' :: rest).length ≤ bound) :
    stripNullOrderingFrom bound previous (s ++ '\'' :: rest) =
      stripNullOrderingFrom bound previous s ++ '\'' :: stripped rest := by
  induction bound generalizing previous s with
  | zero => simp at hbound
  | succ bound ih =>
    cases s with
    | nil =>
      have hnone : nullOrderingRest? previous ('\'' :: rest) = none :=
        nullOrderingRest?_append_apostrophe previous [] rest
      rw [List.nil_append, List.length_cons] at hbound
      have hstep : stripNullOrderingFrom (bound + 1) previous ('\'' :: rest) =
          '\'' :: stripNullOrderingFrom bound (some '\'') rest := by
        rw [stripNullOrderingFrom, hnone]
      rw [List.nil_append, hstep]
      exact congrArg ('\'' :: ·)
        (stripNullOrderingFrom_congr (by omega) (Nat.le_refl _) isBoundary_apostrophe)
    | cons c tail =>
      have hrest := nullOrderingRest?_append_apostrophe previous (c :: tail) rest
      rw [List.cons_append, List.length_cons] at hbound
      rw [List.cons_append] at hrest ⊢
      rw [stripNullOrderingFrom, stripNullOrderingFrom, hrest]
      rcases hsome : nullOrderingRest? previous (c :: tail) with _ | behind
      · exact congrArg (c :: ·) (ih (some c) (by omega))
      · have hlength := congrArg List.length (nullOrderingRest?_eq_some hsome)
        have hclause : nullOrdering.length = 13 := rfl
        simp only [List.length_append, List.length_cons] at hlength hbound
        refine ih nullOrdering.getLast? ?_
        rw [List.length_append, List.length_cons]
        omega

theorem stripped_append_apostrophe (s rest : List Char) :
    stripped (s ++ '\'' :: rest) = stripped s ++ '\'' :: stripped rest := by
  have hall := stripNullOrderingFrom_append_apostrophe none (Nat.le_refl (s ++ '\'' :: rest).length)
  have hfirst : stripNullOrderingFrom (s ++ '\'' :: rest).length none s = stripped s :=
    stripNullOrderingFrom_congr (by simp) (Nat.le_refl _) rfl
  rwa [hfirst] at hall

theorem not_mem_stripped {c : Char} (h : c ∉ s) : c ∉ stripped s := by
  obtain ⟨kept, hkept, hsub, _⟩ := @exists_kept Char (fun _ => false) (fun _ _ => rfl)
    (fun _ _ => rfl) id s.length none s
  rw [List.map_id, List.map_id] at hkept
  rw [stripped, hkept]
  exact fun hmem => h (hsub.subset hmem)

theorem stripped_nil : stripped [] = [] :=
  rfl

theorem splitAt_stripped (s : List Char) :
    Text.splitAt '\'' (stripped s) = (Text.splitAt '\'' s).map stripped := by
  induction s using parts_induction with
  | last s hs =>
    rw [Text.splitAt_of_not_mem hs, Text.splitAt_of_not_mem (not_mem_stripped hs)]
    rfl
  | part p rest hp ih =>
    rw [stripped_append_apostrophe, Text.splitAt_append_cons hp,
      Text.splitAt_append_cons (not_mem_stripped hp), ih]
    rfl

/-! ## Literals that are kept -/

/-- What stands before the first apostrophe is told from the text. -/
theorem append_apostrophe_inj {x y : List Char} (hp : '\'' ∉ p) (hq : '\'' ∉ q) :
    p ++ '\'' :: x = q ++ '\'' :: y ↔ p = q ∧ x = y := by
  refine ⟨fun h => ?_, fun h => by rw [h.1, h.2]⟩
  have hparts := congrArg (Text.splitAt '\'') h
  rw [Text.splitAt_append_cons hp, Text.splitAt_append_cons hq] at hparts
  obtain rfl := (List.cons.inj hparts).1
  exact ⟨rfl, (List.cons.inj (List.append_cancel_left h)).2⟩

theorem head_literalsOf_ne_nil {l : List Char} {ls : List (List Char)}
    (h : literalsOf parts = l :: ls) : l ≠ [] := by
  match parts with
  | p :: q :: rest =>
    rcases hrest : literalsOf rest with _ | ⟨l', ls'⟩
    · rw [literalsOf_of_eq_nil hrest] at h
      cases h
      exact List.cons_ne_nil _ _
    · cases q with
      | nil =>
        rw [literalsOf_of_eq_cons hrest] at h
        cases h
        exact List.cons_ne_nil _ _
      | cons c q =>
        rw [literalsOf_of_ne_nil (List.cons_ne_nil _ _)] at h
        cases h
        exact List.cons_ne_nil _ _

/-- Other parts make up the same literals if those inside are the same, and if between two literals
none is empty but where one was. -/
theorem literalsOf_eq_iff (hp : '\'' ∉ p) (hp' : '\'' ∉ p')
    (hlength : parts'.length = parts.length) :
    literalsOf (p' :: q' :: parts') = literalsOf (p :: q :: parts) ↔
      p' = p ∧ literalsOf parts' = literalsOf parts ∧
        (literalsOf parts ≠ [] → (q' = [] ↔ q = [])) := by
  have hnil : literalsOf parts' = [] ↔ literalsOf parts = [] := by
    rw [literalsOf_eq_nil_iff, literalsOf_eq_nil_iff, hlength]
  rcases h : literalsOf parts with _ | ⟨l, ls⟩
  · rw [literalsOf_of_eq_nil h, literalsOf_of_eq_nil (hnil.mpr h), hnil.mpr h]
    simp [append_apostrophe_inj hp' hp]
  · obtain ⟨l', ls', h'⟩ := List.exists_cons_of_ne_nil fun hempty => by
      rw [hnil.mp hempty] at h
      cases h
    have hl := head_literalsOf_ne_nil h
    have hl' := head_literalsOf_ne_nil h'
    -- A literal that ends here is none that goes on behind a doubled apostrophe.
    by_cases hq : q = []
    · by_cases hq' : q' = []
      · rw [hq, hq', literalsOf_of_eq_cons h, literalsOf_of_eq_cons h', h']
        simp [append_apostrophe_inj hp' hp, and_assoc]
      · rw [hq, literalsOf_of_eq_cons h, literalsOf_of_ne_nil hq', h']
        simp [append_apostrophe_inj hp' hp, hq', hl.symm]
    · by_cases hq' : q' = []
      · rw [hq', literalsOf_of_eq_cons h', literalsOf_of_ne_nil hq, h]
        simp [append_apostrophe_inj hp' hp, hq, hl']
      · rw [literalsOf_of_ne_nil hq, literalsOf_of_ne_nil hq', h, h']
        simp [append_apostrophe_inj hp' hp, hq, hq']

/-- Without the null ordering a literal stays as it is if the parts inside of it do. -/
theorem forall_mem_literalsOf_iff (hp : '\'' ∉ p) :
    (∀ l ∈ literalsOf (p :: q :: parts), stripped l = l) ↔
      stripped p = p ∧ ∀ l ∈ literalsOf parts, stripped l = l := by
  have hpart : ∀ rest, stripped ('\'' :: p ++ '\'' :: rest) = '\'' :: p ++ '\'' :: rest ↔
      stripped p = p ∧ stripped rest = rest := by
    intro rest
    have hfirst : stripped ('\'' :: (p ++ '\'' :: rest)) =
        '\'' :: (stripped p ++ '\'' :: stripped rest) := by
      rw [← stripped_append_apostrophe]
      exact stripped_append_apostrophe [] _
    rw [List.cons_append, hfirst, List.cons.injEq, eq_self, true_and,
      append_apostrophe_inj (not_mem_stripped hp) hp]
  rcases h : literalsOf parts with _ | ⟨l, ls⟩
  · rw [literalsOf_of_eq_nil h, List.forall_mem_singleton, hpart []]
    simp [stripped_nil]
  · by_cases hq : q = []
    · rw [hq, literalsOf_of_eq_cons h, List.forall_mem_cons, hpart l, List.forall_mem_cons,
        and_assoc]
    · rw [literalsOf_of_ne_nil hq, h, List.forall_mem_cons, hpart []]
      simp [stripped_nil]

/-! ## Texts between literals -/

/-- No text between two literals is removed as a whole, behind `text`. An odd number of apostrophes
stands before the one that closes a literal; the next apostrophe opens one if there is another. -/
def LiteralsApart (text s : List Char) : Prop :=
  ∀ before gap after, s = before ++ '\'' :: (gap ++ '\'' :: after) →
    (text ++ before).count '\'' % 2 = 1 → '\'' ∉ gap → '\'' ∈ after → gap ≠ [] →
      stripped gap ≠ []

theorem literalsApart_of_not_mem (h : '\'' ∉ s) : LiteralsApart text s := by
  intro before gap after hs
  refine absurd ?_ h
  rw [hs]
  exact List.mem_append_right _ List.mem_cons_self

/-- What is behind an apostrophe, and all that is behind later ones. -/
theorem literalsApart_append_iff (hp : '\'' ∉ p) :
    LiteralsApart text (p ++ '\'' :: rest) ↔
      (text.count '\'' % 2 = 1 → ∀ gap after, rest = gap ++ '\'' :: after → '\'' ∉ gap →
        '\'' ∈ after → gap ≠ [] → stripped gap ≠ []) ∧
      LiteralsApart (text ++ (p ++ ['\''])) rest := by
  have hcount : (text ++ p).count '\'' = text.count '\'' := by
    rw [List.count_append, List.count_eq_zero.mpr hp, Nat.add_zero]
  constructor
  · intro h
    refine ⟨fun hodd gap after hrest => ?_, fun before gap after hrest hodd => ?_⟩
    · rw [hrest] at h
      exact h p gap after rfl (by rw [hcount]; exact hodd)
    · refine h (p ++ '\'' :: before) gap after ?_ ?_
      · rw [hrest, List.append_assoc, List.cons_append]
      · rwa [List.append_assoc, List.append_assoc, List.singleton_append] at hodd
  · rintro ⟨hfirst, hlater⟩ before gap after hs hodd
    by_cases hbefore : '\'' ∈ before
    · obtain ⟨first, more, rfl, hquote⟩ := List.eq_append_cons_of_mem hbefore
      rw [List.append_assoc, List.cons_append, append_apostrophe_inj hp hquote] at hs
      obtain ⟨rfl, hrest⟩ := hs
      refine hlater more gap after hrest ?_
      rwa [List.append_assoc, List.append_assoc, List.singleton_append]
    · rw [append_apostrophe_inj hp hbefore] at hs
      obtain ⟨rfl, hrest⟩ := hs
      rw [hcount] at hodd
      exact hfirst hodd gap after hrest

/-- Between two apostrophes outside of literals there is one text only. -/
theorem forall_gap_iff {again : List Char} (hq : '\'' ∉ q) :
    (∀ gap after, q ++ '\'' :: again = gap ++ '\'' :: after → '\'' ∉ gap → '\'' ∈ after →
        gap ≠ [] → stripped gap ≠ []) ↔
      ('\'' ∈ again → (stripped q = [] ↔ q = [])) := by
  constructor
  · intro h hmem
    refine ⟨fun hempty => Classical.byContradiction fun hne => ?_, fun hempty => ?_⟩
    · exact h q again rfl hq hmem hne hempty
    · rw [hempty, stripped_nil]
  · intro h gap after hsplit hgap hmem hne hempty
    obtain ⟨rfl, rfl⟩ := (append_apostrophe_inj hq hgap).mp hsplit
    exact hne ((h hmem).mp hempty)

/-- Behind an apostrophe that opens a literal, if another one follows, the literals are kept if
none of them changes and none meets the next one. -/
theorem literalsOf_map_stripped_eq_iff (hodd : text.count '\'' % 2 = 1) (s : List Char) :
    literalsOf ((Text.splitAt '\'' s).map stripped) = literalsOf (Text.splitAt '\'' s) ↔
      (∀ l ∈ literalsOf (Text.splitAt '\'' s), stripped l = l) ∧ LiteralsApart text s := by
  induction s using pairs_induction generalizing text with
  | unclosed p hp =>
    rw [Text.splitAt_of_not_mem hp]
    exact iff_of_true rfl ⟨nofun, literalsApart_of_not_mem hp⟩
  | closed p q hp hq =>
    have hgap : ∀ gap after, q ≠ gap ++ '\'' :: after := by
      rintro gap after rfl
      exact hq (List.mem_append_right _ List.mem_cons_self)
    rw [Text.splitAt_append_cons hp, Text.splitAt_of_not_mem hq, List.map_cons, List.map_singleton,
      literalsOf_eq_iff hp (not_mem_stripped hp) rfl, forall_mem_literalsOf_iff hp,
      literalsApart_append_iff hp]
    constructor
    · rintro ⟨hkept, _⟩
      exact ⟨⟨hkept, nofun⟩, fun _ gap after h => absurd h (hgap gap after),
        literalsApart_of_not_mem hq⟩
    · rintro ⟨⟨hkept, _⟩, _⟩
      exact ⟨hkept, rfl, fun h => absurd rfl h⟩
  | pair p q rest hp hq ih =>
    have heven : (text ++ (p ++ ['\''])).count '\'' % 2 = 0 := by
      rw [List.count_append, count_append_apostrophe hp]
      omega
    have hodd' : (text ++ (p ++ ['\'']) ++ (q ++ ['\''])).count '\'' % 2 = 1 := by
      rw [List.count_append, count_append_apostrophe hq]
      omega
    rw [Text.splitAt_append_cons hp, Text.splitAt_append_cons hq, List.map_cons, List.map_cons,
      literalsOf_eq_iff hp (not_mem_stripped hp) (List.length_map _), forall_mem_literalsOf_iff hp,
      literalsApart_append_iff hp, literalsApart_append_iff hq, ih hodd', forall_gap_iff hq, Ne,
      literalsOf_splitAt_eq_nil_iff, Classical.not_not]
    constructor
    · rintro ⟨hkept, ⟨hall, hapart⟩, hgap⟩
      exact ⟨⟨hkept, hall⟩, fun _ => hgap, fun h => by omega, hapart⟩
    · rintro ⟨⟨hkept, hall⟩, hgap, _, hapart⟩
      exact ⟨hkept, ⟨hall, hapart⟩, hgap hodd⟩

theorem stripped_eq_iff : stripped s = s ↔ ¬ HasNullOrdering s := by
  have h := @stripNullOrdering_eq_iff (String.ofList s)
  rwa [← String.toList_inj, toList_stripNullOrdering, String.toList_ofList] at h

/-- **Literals without the null ordering.** Removing the null ordering keeps the literals of a text
exactly if it stands in none of them and takes no text between two of them away. -/
theorem literalTexts_stripped_eq_iff (s : List Char) :
    literalTexts (stripped s) = literalTexts s ↔
      (∀ l ∈ literalTexts s, ¬ HasNullOrdering l) ∧ LiteralsApart [] s := by
  by_cases hs : '\'' ∈ s
  case neg =>
    rw [literalTexts_of_not_mem hs, literalTexts_of_not_mem (not_mem_stripped hs)]
    exact iff_of_true rfl ⟨nofun, literalsApart_of_not_mem hs⟩
  obtain ⟨first, rest, rfl, hfirst⟩ := List.eq_append_cons_of_mem hs
  have hodd : ([] ++ (first ++ ['\''])).count '\'' % 2 = 1 := by
    rw [List.nil_append, count_append_apostrophe hfirst]
  have hkept : (∀ l ∈ literalTexts (first ++ '\'' :: rest), ¬ HasNullOrdering l) ↔
      ∀ l ∈ literalsOf (Text.splitAt '\'' rest), stripped l = l := by
    rw [literalTexts_eq, Text.splitAt_append_cons hfirst]
    exact forall₂_congr fun _ _ => stripped_eq_iff.symm
  rw [hkept, literalsApart_append_iff hfirst, literalTexts_eq, literalTexts_eq, splitAt_stripped,
    Text.splitAt_append_cons hfirst]
  refine (literalsOf_map_stripped_eq_iff hodd rest).trans (and_congr_right fun _ => ?_)
  exact ⟨fun h => ⟨fun h => absurd h (by decide), h⟩, fun h => h.2⟩

end SqlCompiler.Sql
