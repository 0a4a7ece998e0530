import SqlCompiler.Sql.NullOrdering

/-!
# What removing the null ordering leaves

Removing the clause either leaves a text as it is or takes characters away, the letter `O` of each
clause among them (`stripNullOrderingFrom_eq_or_count_lt`). So a text that keeps its number of that
letter keeps everything (`stripNullOrdering_eq_of_count`). What is taken away is made of blanks and
the characters of the clause; all others stay, in their order (`exists_kept`). A text stays as it is
exactly if the clause stands nowhere in it as whole words (`stripNullOrdering_eq_iff`).
-/

namespace SqlCompiler

namespace Text

/-- Ranges that lie apart have no code point in common. -/
theorem Ranges.contains_eq_false {ranges other : Ranges} {code : Nat}
    (hapart : ranges.all (fun (low, high) => other.all fun (low', high') =>
      high < low' || high' < low) = true)
    (h : ranges.contains code = true) : other.contains code = false := by
  obtain ⟨⟨low, high⟩, hmem, hrange⟩ := List.any_eq_true.mp h
  refine List.any_eq_false.mpr ?_
  rintro ⟨low', high'⟩ hmem' hrange'
  have hlt := List.all_eq_true.mp (List.all_eq_true.mp hapart _ hmem) _ hmem'
  simp only [Bool.and_eq_true, Bool.or_eq_true, decide_eq_true_eq] at hrange hrange' hlt
  omega

/-- A blank is not part of a word. -/
theorem isWord_eq_false_of_isBlank {c : Char} (h : isBlank c = true) : isWord c = false := by
  have hranges : wordRanges.contains c.toNat = false :=
    Ranges.contains_eq_false (by decide +kernel) h
  have hascii : isAsciiWord c = false := by
    unfold isBlank Ranges.contains blankRanges at h
    unfold isAsciiWord Char.isAlphanum Char.isAlpha Char.isUpper Char.isLower Char.isDigit
    simp only [List.any_cons, List.any_nil, Bool.or_false, Bool.or_eq_true, Bool.and_eq_true,
      decide_eq_true_eq] at h
    simp only [Bool.or_eq_false_iff, Bool.and_eq_false_iff, decide_eq_false_iff_not,
      beq_eq_false_iff_ne, ne_eq, ge_iff_le, UInt32.le_iff_toNat_le, Char.ext_iff,
      ← UInt32.toNat_inj, Char.toNat] at h ⊢
    show ((¬(65 ≤ c.val.toNat ∧ c.val.toNat ≤ 90) ∧
        (¬97 ≤ c.val.toNat ∨ ¬c.val.toNat ≤ 122)) ∧
      (¬48 ≤ c.val.toNat ∨ ¬c.val.toNat ≤ 57)) ∧ ¬c.val.toNat = 95
    omega
  unfold isWord
  rw [hranges, hascii]
  rfl

end Text

namespace Sql

/-- The clause and the blanks before it stand in front of what is behind them. -/
theorem nullOrderingRest?_eq_some {previous : Option Char} {s rest : List Char}
    (h : nullOrderingRest? previous s = some rest) :
    s = s.takeWhile Text.isBlank ++ nullOrdering ++ rest := by
  unfold nullOrderingRest? at h
  simp only [Option.ite_none_right_eq_some, Bool.and_eq_true, Option.some.injEq] at h
  obtain ⟨⟨⟨hclause, _⟩, _⟩, rfl⟩ := h
  obtain ⟨t, ht⟩ := List.isPrefixOf_iff_prefix.mp hclause
  rw [← ht, List.drop_left, List.append_assoc, ht, List.takeWhile_append_dropWhile]

theorem count_lt_of_nullOrderingRest? {previous : Option Char} {s rest : List Char}
    (h : nullOrderingRest? previous s = some rest) : rest.count 'O' < s.count 'O' := by
  rw [nullOrderingRest?_eq_some h, List.count_append, List.count_append]
  have hclause : nullOrdering.count 'O' = 1 := by decide
  omega

/-- Removing the clause leaves a text as it is or takes the letter of a clause away. -/
theorem stripNullOrderingFrom_eq_or_count_lt (bound : Nat) (previous : Option Char)
    (s : List Char) : stripNullOrderingFrom bound previous s = s ∨
      (stripNullOrderingFrom bound previous s).count 'O' < s.count 'O' := by
  induction bound generalizing previous s with
  | zero => exact .inl rfl
  | succ bound ih =>
    cases s with
    | nil => exact .inl rfl
    | cons c tail =>
      unfold stripNullOrderingFrom
      rcases h : nullOrderingRest? previous (c :: tail) with _ | rest
      · rcases ih (some c) tail with heq | hlt
        · exact .inl (congrArg (c :: ·) heq)
        · refine .inr ?_
          simp only [List.count_cons]
          omega
      · refine .inr ?_
        have hrest := count_lt_of_nullOrderingRest? h
        dsimp only
        rcases ih nullOrdering.getLast? rest with heq | hlt
        · rw [heq]
          exact hrest
        · omega

theorem stripNullOrdering_eq_of_count {s : String}
    (h : (stripNullOrdering s).toList.count 'O' = s.toList.count 'O') :
    stripNullOrdering s = s := by
  unfold stripNullOrdering at h ⊢
  rw [String.toList_ofList] at h
  rcases stripNullOrderingFrom_eq_or_count_lt s.toList.length none s.toList with heq | hlt
  · rw [heq, String.ofList_toList]
  · omega

/-- Some of the places of a text are kept, among them all characters of a kind that has neither
blanks nor characters of the clause. -/
theorem exists_kept {α : Type} {kind : Char → Bool}
    (hblank : ∀ c, Text.isBlank c = true → kind c = false)
    (hclause : ∀ c ∈ nullOrdering, kind c = false) (f : α → Char) (bound : Nat)
    (previous : Option Char) (places : List α) :
    ∃ kept : List α, stripNullOrderingFrom bound previous (places.map f) = kept.map f ∧
      kept.Sublist places ∧ kept.filter (kind ∘ f) = places.filter (kind ∘ f) := by
  have hnone : ∀ {gone : List α}, (∀ c ∈ gone.map f, kind c = false) →
      gone.filter (kind ∘ f) = [] := by
    intro gone hgone
    rw [List.filter_eq_nil_iff]
    intro place hplace
    simpa using hgone (f place) (List.mem_map_of_mem hplace)
  induction bound generalizing previous places with
  | zero => exact ⟨places, rfl, List.Sublist.refl _, rfl⟩
  | succ bound ih =>
    cases places with
    | nil => exact ⟨[], rfl, List.Sublist.refl _, rfl⟩
    | cons place places =>
      rw [List.map_cons]
      unfold stripNullOrderingFrom
      rcases h : nullOrderingRest? previous (f place :: places.map f) with _ | rest
      · obtain ⟨kept, hstrip, hsub, hfilter⟩ := ih (some (f place)) places
        refine ⟨place :: kept, congrArg (f place :: ·) hstrip, hsub.cons_cons place, ?_⟩
        rw [List.filter_cons, List.filter_cons, hfilter]
      · have hsplit := nullOrderingRest?_eq_some h
        rw [← List.map_cons, List.append_assoc] at hsplit
        obtain ⟨blanks, more, hplaces, hblanks, hmore⟩ := List.map_eq_append_iff.mp hsplit
        obtain ⟨clause, places', rfl, hcl, rfl⟩ := List.map_eq_append_iff.mp hmore
        obtain ⟨kept, hstrip, hsub, hfilter⟩ := ih nullOrdering.getLast? places'
        rw [hplaces]
        refine ⟨kept, hstrip, ?_, ?_⟩
        · exact (hsub.trans (List.sublist_append_right clause places')).trans
            (List.sublist_append_right blanks _)
        · have hb : blanks.filter (kind ∘ f) = [] := hnone fun c hc => by
            rw [hblanks] at hc
            exact hblank c (List.all_eq_true.mp List.all_takeWhile c hc)
          have hc : clause.filter (kind ∘ f) = [] := hnone fun c hc => by
            rw [hcl] at hc
            exact hclause c hc
          rw [List.filter_append, List.filter_append, hb, hc, hfilter]
          rfl

/-! ## Texts that stay -/

/-- The clause stands somewhere as whole words. -/
def HasNullOrdering (s : List Char) : Prop :=
  ∃ before rest, s = before ++ (nullOrdering ++ rest) ∧ isBoundary before.getLast? = true ∧
    isBoundary rest.head? = true

/-- Where the clause stands behind blanks, it stands as whole words. -/
theorem hasNullOrdering_of_nullOrderingRest? {before s rest : List Char}
    (h : nullOrderingRest? before.getLast? s = some rest) : HasNullOrdering (before ++ s) := by
  have hsplit := nullOrderingRest?_eq_some h
  unfold nullOrderingRest? at h
  simp only [Option.ite_none_right_eq_some, Bool.and_eq_true, Bool.or_eq_true, decide_eq_true_eq,
    Option.some.injEq] at h
  obtain ⟨⟨⟨_, hprevious⟩, hrest⟩, hdrop⟩ := h
  rw [hdrop] at hrest
  refine ⟨before ++ s.takeWhile Text.isBlank, rest, ?_, ?_, hrest⟩
  · rw [List.append_assoc, ← List.append_assoc (s.takeWhile _), ← hsplit]
  · rw [List.getLast?_append]
    rcases hblanks : (s.takeWhile Text.isBlank).getLast? with _ | b
    · rcases hprevious with hlt | hprevious
      · have hlength := congrArg List.length
          (List.takeWhile_append_dropWhile (p := Text.isBlank) (l := s))
        rw [List.getLast?_eq_none_iff.mp hblanks, List.nil_append] at hlength
        omega
      · exact hprevious
    · have hblank : Text.isBlank b = true :=
        List.all_eq_true.mp List.all_takeWhile b (List.mem_of_getLast? hblanks)
      show (!Text.isWord b) = true
      rw [Text.isWord_eq_false_of_isBlank hblank]
      rfl

theorem nullOrderingRest?_of_boundary {previous : Option Char} {rest : List Char}
    (hprevious : isBoundary previous = true) (hrest : isBoundary rest.head? = true) :
    nullOrderingRest? previous (nullOrdering ++ rest) = some rest := by
  have hbody : (nullOrdering ++ rest).dropWhile Text.isBlank = nullOrdering ++ rest := rfl
  have hclause : nullOrdering.isPrefixOf (nullOrdering ++ rest) = true :=
    List.isPrefixOf_iff_prefix.mpr (List.prefix_append _ _)
  unfold nullOrderingRest?
  rw [hbody]
  dsimp only
  rw [List.drop_left, hclause, hprevious, hrest]
  simp

/-- Removing the clause leaves a text as it is exactly if the clause stands nowhere. -/
theorem stripNullOrderingFrom_eq_iff {bound : Nat} {text s : List Char}
    (hbound : s.length ≤ bound) :
    stripNullOrderingFrom bound text.getLast? s = s ↔
      ∀ before c after, s = before ++ c :: after →
        nullOrderingRest? (text ++ before).getLast? (c :: after) = none := by
  induction bound generalizing text s with
  | zero =>
    obtain rfl := List.length_eq_zero_iff.mp (Nat.le_zero.mp hbound)
    exact iff_of_true rfl fun before c after h => by simp at h
  | succ bound ih =>
    cases s with
    | nil => exact iff_of_true rfl fun before c after h => by simp at h
    | cons c tail =>
      rcases hrest : nullOrderingRest? text.getLast? (c :: tail) with _ | rest
      · have hstep : stripNullOrderingFrom (bound + 1) text.getLast? (c :: tail) =
            c :: stripNullOrderingFrom bound (text ++ [c]).getLast? tail := by
          rw [stripNullOrderingFrom, hrest, List.getLast?_concat]
        rw [hstep, List.cons.injEq, eq_self, true_and, ih (Nat.le_of_succ_le_succ hbound)]
        constructor
        · intro h before d after hs
          cases before with
          | nil =>
            cases hs
            rw [List.append_nil]
            exact hrest
          | cons e before =>
            cases hs
            have hlater := h before d after rfl
            rwa [List.append_assoc] at hlater
        · intro h before d after hs
          rw [List.append_assoc]
          exact h (c :: before) d after (congrArg (c :: ·) hs)
      · refine iff_of_false (fun heq => ?_) fun h => ?_
        · have hlt := count_lt_of_nullOrderingRest? hrest
          have hstep : stripNullOrderingFrom (bound + 1) text.getLast? (c :: tail) =
              stripNullOrderingFrom bound nullOrdering.getLast? rest := by
            rw [stripNullOrderingFrom, hrest]
          rw [hstep] at heq
          rcases stripNullOrderingFrom_eq_or_count_lt bound nullOrdering.getLast? rest with
            hsame | hless
          · rw [← heq, hsame] at hlt
            omega
          · rw [heq] at hless
            omega
        · have hnone := h [] c tail rfl
          rw [List.append_nil, hrest] at hnone
          cases hnone

/-- **Untouched texts.** A text without the clause as whole words is left as it is, and no other
text. -/
theorem stripNullOrdering_eq_iff {s : String} :
    stripNullOrdering s = s ↔ ¬ HasNullOrdering s.toList := by
  have hfrom : stripNullOrderingFrom s.toList.length ([] : List Char).getLast? s.toList = _ ↔ _ :=
    stripNullOrderingFrom_eq_iff (Nat.le_refl _)
  unfold stripNullOrdering
  rw [← String.toList_inj, String.toList_ofList]
  refine hfrom.trans ⟨?_, ?_⟩
  · rintro h ⟨before, rest, hs, hprevious, hrest⟩
    have hnone := h before 'O' ("RDER BY NULL".toList ++ rest) hs
    have hsome := nullOrderingRest?_of_boundary hprevious hrest
    exact absurd (hnone.symm.trans hsome) (by simp)
  · intro h before c after hs
    rcases hrest : nullOrderingRest? before.getLast? (c :: after) with _ | rest
    · exact hrest
    · refine absurd ?_ h
      rw [hs]
      exact hasNullOrdering_of_nullOrderingRest? hrest

end Sql

end SqlCompiler
