import SqlCompiler.Sql.Placeholder

/-!
# Literals in statements

A place of a statement is inside a literal if an odd number of apostrophes stands before it and
another one behind it (`InLiteral`). The last of an odd number of apostrophes opens nothing. The
scan for question marks knows nothing of this rule; it looks for the end of each literal from its
start, and takes what is left of a literal as it comes. Yet it numbers just the question marks that
the rule leaves outside of literals (`numberTokens_markedTokens`).
-/

namespace SqlCompiler.Sql

/-- A place inside a literal, given what stands before it and behind it. -/
def InLiteral (before after : List Char) : Prop :=
  before.count '\'' % 2 = 1 ∧ '\'' ∈ after

instance (before after : List Char) : Decidable (InLiteral before after) :=
  inferInstanceAs (Decidable (_ ∧ _))

theorem not_inLiteral_of_even {before : List Char} (h : before.count '\'' % 2 = 0)
    (after : List Char) : ¬ InLiteral before after := by
  rintro ⟨hodd, _⟩
  omega

theorem not_inLiteral_of_not_mem {after : List Char} (h : '\'' ∉ after) (before : List Char) :
    ¬ InLiteral before after :=
  fun hin => h hin.2

theorem count_concat_of_ne {c : Char} (hc : c ≠ '\'') (before : List Char) :
    (before ++ [c]).count '\'' = before.count '\'' := by
  rw [List.count_append, List.count_singleton, if_neg (by simpa using hc), Nat.add_zero]

theorem count_concat_apostrophe (before : List Char) :
    (before ++ ['\'']).count '\'' = before.count '\'' + 1 :=
  List.count_append

theorem count_append_congr {before before' : List Char}
    (h : before.count '\'' = before'.count '\'') (s : List Char) :
    (before ++ s).count '\'' = (before' ++ s).count '\'' := by
  rw [List.count_append, List.count_append, h]

/-! ## The end of a literal -/

theorem literalTail?_eq_none_iff {s : List Char} : literalTail? s = none ↔ '\'' ∉ s := by
  fun_induction literalTail? s with
  | case1 => simp
  | case2 rest body tail h ih => simp
  | case3 rest h ih => simp
  | case4 rest => simp
  | case5 c rest _ hc ih =>
    rw [Option.map_eq_none_iff, ih, List.mem_cons, not_or]
    exact ⟨fun h => ⟨fun hq => hc hq.symm, h⟩, fun h => h.2⟩

/-- A literal that ends has an odd number of apostrophes behind its first one. -/
theorem count_of_literalTail? {s body rest : List Char} (h : literalTail? s = some (body, rest)) :
    body.count '\'' % 2 = 1 := by
  fun_induction literalTail? s generalizing body rest with
  | case1 => cases h
  | case2 tail b r hb ih =>
    cases h
    have hcount := ih hb
    rw [List.count_cons_self, List.count_cons_self]
    omega
  | case3 tail hb ih => cases h; rfl
  | case4 tail => cases h; rfl
  | case5 c tail _ hc ih =>
    obtain ⟨⟨b, r⟩, hb, he⟩ := Option.map_eq_some_iff.mp h
    cases he
    rw [List.count_cons_of_ne hc]
    exact ih hb

theorem mem_of_literalTail? {s body rest : List Char} (h : literalTail? s = some (body, rest)) :
    '\'' ∈ s := by
  have hcount := count_of_literalTail? h
  rw [← literalTail?_append h]
  exact List.mem_append_left rest (List.count_pos_iff.mp (by omega))

/-! ## The parts of a statement with question marks -/

theorem markedTokens_of_literal {rest body tail : List Char}
    (h : literalTail? rest = some (body, tail)) :
    markedTokens ('\'' :: rest) = .copied ('\'' :: body) :: markedTokens tail := by
  rw [markedTokens, if_pos rfl]
  split
  · rename_i b t hb
    rw [h] at hb
    cases hb
    rfl
  · rename_i hb
    rw [h] at hb
    cases hb

theorem markedTokens_of_unclosed {rest : List Char} (h : literalTail? rest = none) :
    markedTokens ('\'' :: rest) = .copied ['\''] :: markedTokens rest := by
  rw [markedTokens, if_pos rfl]
  split
  · rename_i b t hb
    rw [h] at hb
    cases hb
  · rfl

theorem markedTokens_mark (rest : List Char) :
    markedTokens ('?' :: rest) = .mark :: markedTokens rest := by
  rw [markedTokens, if_neg (by decide), if_pos rfl]

theorem markedTokens_of_ne {c : Char} (hq : c ≠ '\'') (hm : c ≠ '?') (rest : List Char) :
    markedTokens (c :: rest) = .copied [c] :: markedTokens rest := by
  rw [markedTokens, if_neg hq, if_neg hm]

/-! ## Numbering by the rule -/

/-- Numbers the question marks outside of literals in the part of a statement behind `before`. -/
def numberOutside (next : Nat) (before : List Char) : List Char → List Char
  | [] => []
  | c :: rest =>
    if c = '?' ∧ ¬ InLiteral before rest then
      '$' :: Text.digitsOn 10 next (numberOutside (next + 1) (before ++ [c]) rest)
    else c :: numberOutside next (before ++ [c]) rest

theorem numberOutside_of_not_mark {c : Char} (hc : c ≠ '?') (next : Nat)
    (before rest : List Char) :
    numberOutside next before (c :: rest) = c :: numberOutside next (before ++ [c]) rest := by
  rw [numberOutside, if_neg fun h => hc h.1]

theorem numberOutside_mark_of_inLiteral {before rest : List Char} (h : InLiteral before rest)
    (next : Nat) :
    numberOutside next before ('?' :: rest) = '?' :: numberOutside next (before ++ ['?']) rest := by
  rw [numberOutside, if_neg fun hm => hm.2 h]

theorem numberOutside_mark_of_not_inLiteral {before rest : List Char}
    (h : ¬ InLiteral before rest) (next : Nat) :
    numberOutside next before ('?' :: rest) =
      '$' :: Text.digitsOn 10 next (numberOutside (next + 1) (before ++ ['?']) rest) := by
  rw [numberOutside, if_pos ⟨rfl, h⟩]

/-- A character of a literal is copied, whatever it is. -/
theorem numberOutside_of_inLiteral {before rest : List Char} (h : InLiteral before rest)
    (next : Nat) (c : Char) :
    numberOutside next before (c :: rest) = c :: numberOutside next (before ++ [c]) rest := by
  by_cases hc : c = '?'
  · rw [hc]
    exact numberOutside_mark_of_inLiteral h next
  · exact numberOutside_of_not_mark hc next before rest

/-- Without apostrophes no place is inside a literal, whatever stands before. -/
theorem numberOutside_of_not_mem {s : List Char} (hs : '\'' ∉ s) (next : Nat)
    (before other : List Char) : numberOutside next before s = numberOutside next other s := by
  induction s generalizing next before other with
  | nil => rfl
  | cons c s ih =>
    rw [List.mem_cons, not_or] at hs
    by_cases hc : c = '?'
    · rw [hc, numberOutside_mark_of_not_inLiteral (not_inLiteral_of_not_mem hs.2 before),
        numberOutside_mark_of_not_inLiteral (not_inLiteral_of_not_mem hs.2 other), ih hs.2]
    · rw [numberOutside_of_not_mark hc, numberOutside_of_not_mark hc, ih hs.2]

/-- The rest of a literal is copied. -/
theorem numberOutside_of_literalTail? {s body rest before : List Char}
    (h : literalTail? s = some (body, rest)) (hbefore : before.count '\'' % 2 = 1) (next : Nat) :
    numberOutside next before s = body ++ numberOutside next (before ++ body) rest := by
  fun_induction literalTail? s generalizing body rest before with
  | case1 => cases h
  | case2 tail b r hb ih =>
    cases h
    -- A doubled apostrophe leaves the literal and enters it again.
    have heven : (before ++ ['\'', '\'']).count '\'' % 2 = 1 := by
      rw [List.count_append]
      show (before.count '\'' + 2) % 2 = 1
      omega
    rw [numberOutside_of_not_mark (by decide), numberOutside_of_not_mark (by decide),
      List.append_assoc]
    show _ :: _ :: numberOutside next (before ++ ['\'', '\'']) tail = _
    rw [ih hb heven, List.append_assoc]
    rfl
  | case3 tail hb ih =>
    cases h
    exact numberOutside_of_not_mark (by decide) next before _
  | case4 tail =>
    cases h
    exact numberOutside_of_not_mark (by decide) next before _
  | case5 c tail _ hc ih =>
    obtain ⟨⟨b, r⟩, hb, he⟩ := Option.map_eq_some_iff.mp h
    cases he
    have hodd : (before ++ [c]).count '\'' % 2 = 1 := by
      rwa [count_concat_of_ne hc]
    rw [numberOutside_of_inLiteral ⟨hbefore, mem_of_literalTail? hb⟩, ih hb hodd, List.append_assoc]
    rfl

/-- **Literals in the scan for question marks.** From a place with an even number of apostrophes
before it, the scan numbers the question marks outside of literals and copies everything else. -/
theorem numberTokens_markedTokens (s : List Char) : ∀ (next : Nat) (before : List Char),
    before.count '\'' % 2 = 0 →
      numberTokens next (markedTokens s) = numberOutside next before s := by
  induction s using markedTokens.induct with
  | case1 => intro next before _; rw [markedTokens]; rfl
  | case2 rest body tail h _ ih =>
    intro next before hbefore
    have hodd : (before ++ ['\'']).count '\'' % 2 = 1 := by
      rw [count_concat_apostrophe]
      omega
    have hcount := count_of_literalTail? h
    have heven : (before ++ ['\''] ++ body).count '\'' % 2 = 0 := by
      rw [List.count_append]
      omega
    rw [markedTokens_of_literal h, numberOutside_of_not_mark (by decide),
      numberOutside_of_literalTail? h hodd, ← ih next _ heven]
    rfl
  | case3 rest h ih =>
    -- The scan forgets a literal that never ends; the rule finds no apostrophe behind it.
    intro next before hbefore
    rw [markedTokens_of_unclosed h, numberOutside_of_not_mark (by decide),
      numberOutside_of_not_mem (literalTail?_eq_none_iff.mp h) next _ before, ← ih next _ hbefore]
    rfl
  | case4 rest hq ih =>
    intro next before hbefore
    have heven : (before ++ ['?']).count '\'' % 2 = 0 := by
      rw [List.count_append]
      exact hbefore
    rw [markedTokens_mark,
      numberOutside_mark_of_not_inLiteral (not_inLiteral_of_even hbefore rest),
      ← ih (next + 1) _ heven]
    rfl
  | case5 c rest hq hm ih =>
    intro next before hbefore
    have heven : (before ++ [c]).count '\'' % 2 = 0 := by
      rwa [count_concat_of_ne hq]
    rw [markedTokens_of_ne hq hm, numberOutside_of_not_mark hm, ← ih next _ heven]
    rfl

end SqlCompiler.Sql
