import SqlCompiler.Text.Case

/-!
# Lower case of names with prefixes

The lower case of a capital sigma depends on the letters beside it, but not on what stands beyond a
character that is neither a letter with case nor passed over in the search for one. An underscore is
such a character, so a name and its prefix are brought into lower case each on its own
(`lower_append_underscore`).
-/

namespace SqlCompiler.Text

section Apart

variable {c : Char} (hpassed : caseIgnorableRanges.contains c.toNat = false)
  (hcased : casedRanges.contains c.toNat = false)

include hpassed hcased

/-- The search for a letter with case ends at the character. -/
theorem nextIsCased_append_cons (s t : List Char) : nextIsCased (s ++ c :: t) = nextIsCased s := by
  unfold nextIsCased
  induction s with
  | nil => simp [hpassed, hcased]
  | cons d s ih =>
    rw [List.cons_append, List.dropWhile_cons, List.dropWhile_cons]
    by_cases hd : caseIgnorableRanges.contains d.toNat = true
    · rw [if_pos hd, if_pos hd]
      exact ih
    · rw [if_neg hd, if_neg hd]

theorem lowerFrom_append_cons_before (near before s : List Char) :
    lowerFrom (near ++ c :: before) s = lowerFrom near s := by
  induction s generalizing near with
  | nil => rfl
  | cons d s ih =>
    rw [lowerFrom, lowerFrom, nextIsCased_append_cons hpassed hcased, ← List.cons_append, ih]

/-- What stands before the character and what stands behind it have their own lower case. -/
theorem lowerFrom_append_cons (hsigma : c ≠ 'Σ') (before s t : List Char) :
    lowerFrom before (s ++ c :: t) = lowerFrom before s ++ (lowerChar c ++ lowerFrom [] t) := by
  induction s generalizing before with
  | nil =>
    have hbehind : lowerFrom (c :: before) t = lowerFrom [] t :=
      lowerFrom_append_cons_before hpassed hcased [] before t
    show (if c = 'Σ' then _ else lowerChar c) ++ lowerFrom (c :: before) t = _
    rw [if_neg hsigma, hbehind]
    rfl
  | cons d s ih =>
    rw [List.cons_append, lowerFrom, lowerFrom, nextIsCased_append_cons hpassed hcased, ih,
      List.append_assoc]

end Apart

theorem lower_append_underscore (a b : String) :
    lower (a ++ "_" ++ b) = lower a ++ "_" ++ lower b := by
  have hpassed : caseIgnorableRanges.contains '_'.toNat = false := by decide +kernel
  have hcased : casedRanges.contains '_'.toNat = false := by decide +kernel
  have hchar : lowerChar '_' = ['_'] := by decide
  have hmark : "_".toList = ['_'] := by decide
  unfold lower
  rw [← String.toList_inj]
  simp only [String.toList_append, String.toList_ofList, hmark, List.append_assoc,
    List.singleton_append]
  rw [lowerFrom_append_cons hpassed hcased (by decide), hchar]
  rfl

theorem lowerChar_ne_nil (c : Char) : lowerChar c ≠ [] := by
  unfold lowerChar mapCode
  split
  · exact List.cons_ne_nil _ _
  · split
    · rename_i codes hcodes
      have hall : lowerSpecial.all (fun p => !p.2.isEmpty) = true := by decide
      obtain ⟨before, after, hsplit, _⟩ := List.lookup_eq_some_iff.mp hcodes
      have hmem : (c.toNat, codes) ∈ lowerSpecial :=
        hsplit ▸ List.mem_append_right before List.mem_cons_self
      simpa using List.all_eq_true.mp hall _ hmem
    · exact List.cons_ne_nil _ _

/-- Only the empty text is empty in lower case. -/
theorem lower_ne_empty {s : String} (h : s ≠ "") : lower s ≠ "" := by
  have hne : ∀ before (cs : List Char), cs ≠ [] → lowerFrom before cs ≠ [] := by
    intro before cs hcs
    obtain ⟨c, rest, rfl⟩ := List.exists_cons_of_ne_nil hcs
    rw [lowerFrom]
    refine List.append_ne_nil_of_left_ne_nil ?_ _
    split
    · split <;> exact List.cons_ne_nil _ _
    · exact lowerChar_ne_nil c
  intro hempty
  rw [← String.toList_inj] at hempty
  unfold lower at hempty
  rw [String.toList_ofList] at hempty
  exact hne [] s.toList (fun hnil => h (String.toList_inj.mp hnil)) hempty

end SqlCompiler.Text
