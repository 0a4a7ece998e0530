import SqlCompiler.Proofs.Sql.Numbering
import SqlCompiler.Proofs.Sql.Scanning
import SqlCompiler.Proofs.Text.Split

/-!
# The literals of a text

A scan delimits the literals of a text (`literalTexts`). They can be read off the parts between the
apostrophes, which are by turns outside and inside of literals: an empty part outside, with a
literal on both of its sides, is a doubled apostrophe and makes one literal of the two
(`literalTexts_eq`).
-/

namespace SqlCompiler.Sql

variable {p q rest s : List Char} {parts parts' : List (List Char)}

/-! ## What the scan delimits -/

/-- Whether a piece of a text is a literal. A single apostrophe opens none. -/
def isLiteral (piece : List Char) : Bool :=
  piece.head? == some '\'' && decide (1 < piece.length)

/-- The literals of a text, in order. -/
def literalTexts (s : List Char) : List (List Char) :=
  ((markedTokens s).map MarkedToken.source).filter isLiteral

theorem literalTexts_nil : literalTexts [] = [] := by
  rw [literalTexts, markedTokens]
  rfl

theorem literalTexts_cons_of_ne {c : Char} (hc : c ≠ '\'') (rest : List Char) :
    literalTexts (c :: rest) = literalTexts rest := by
  rw [literalTexts, sources_markedTokens_of_ne hc, List.filter_cons_of_neg (by simp [isLiteral])]
  rfl

theorem literalTexts_of_literalTail? {body tail : List Char}
    (h : literalTail? rest = some (body, tail)) :
    literalTexts ('\'' :: rest) = ('\'' :: body) :: literalTexts tail := by
  obtain ⟨inner, rfl⟩ := exists_body_of_literalTail? h
  rw [literalTexts, markedTokens_of_literal h]
  exact List.filter_cons_of_pos (by simp [isLiteral, MarkedToken.source])

theorem literalTexts_of_unclosed (h : literalTail? rest = none) :
    literalTexts ('\'' :: rest) = literalTexts rest := by
  rw [literalTexts, markedTokens_of_unclosed h]
  exact List.filter_cons_of_neg (by decide)

theorem literalTexts_append_of_not_mem (hp : '\'' ∉ p) (s : List Char) :
    literalTexts (p ++ s) = literalTexts s := by
  induction p with
  | nil => rfl
  | cons c p ih =>
    rw [List.mem_cons, not_or] at hp
    rw [List.cons_append, literalTexts_cons_of_ne (Ne.symm hp.1), ih hp.2]

theorem literalTexts_of_not_mem (hs : '\'' ∉ s) : literalTexts s = [] := by
  rw [← List.append_nil s, literalTexts_append_of_not_mem hs, literalTexts_nil]

/-! ## The end of a literal -/

theorem literalTail?_append_of_not_mem (hp : '\'' ∉ p) (s : List Char) :
    literalTail? (p ++ s) = (literalTail? s).map fun (body, rest) => (p ++ body, rest) := by
  induction p with
  | nil =>
    show literalTail? s = _
    cases literalTail? s <;> rfl
  | cons c p ih =>
    rw [List.mem_cons, not_or] at hp
    have hc : c ≠ '\'' := Ne.symm hp.1
    rw [List.cons_append, literalTail?, ih hp.2, Option.map_map]
    · rfl
    · exact fun _ h _ => hc h
    · exact hc

theorem literalTail?_closing (h : rest.head? ≠ some '\'') :
    literalTail? ('\'' :: rest) = some (['\''], rest) := by
  rw [literalTail?]
  rintro tail rfl
  exact h rfl

/-- A literal ends with the next apostrophe if no other one follows that. -/
theorem literalTexts_closed (hp : '\'' ∉ p) (hrest : rest.head? ≠ some '\'') :
    literalTexts ('\'' :: (p ++ '\'' :: rest)) = ('\'' :: p ++ ['\'']) :: literalTexts rest := by
  have htail : literalTail? (p ++ '\'' :: rest) = some (p ++ ['\''], rest) := by
    rw [literalTail?_append_of_not_mem hp, literalTail?_closing hrest]
    rfl
  rw [literalTexts_of_literalTail? htail]
  rfl

/-- It ends with the first one of two if nothing closes what the second one would open. -/
theorem literalTexts_doubled_of_eq_nil (hp : '\'' ∉ p) (h : literalTexts ('\'' :: rest) = []) :
    literalTexts ('\'' :: (p ++ '\'' :: '\'' :: rest)) = ['\'' :: p ++ ['\'']] := by
  rcases hrest : literalTail? rest with _ | ⟨body, tail⟩
  · have htail : literalTail? (p ++ '\'' :: '\'' :: rest) = some (p ++ ['\''], '\'' :: rest) := by
      rw [literalTail?_append_of_not_mem hp, literalTail?, hrest]
      rfl
    rw [literalTexts_of_literalTail? htail, h]
    rfl
  · rw [literalTexts_of_literalTail? hrest] at h
    cases h

/-- Otherwise it goes on with the literal that the second one opens. -/
theorem literalTexts_doubled_of_eq_cons {l : List Char} {ls : List (List Char)} (hp : '\'' ∉ p)
    (h : literalTexts ('\'' :: rest) = l :: ls) :
    literalTexts ('\'' :: (p ++ '\'' :: '\'' :: rest)) = ('\'' :: p ++ '\'' :: l) :: ls := by
  rcases hrest : literalTail? rest with _ | ⟨body, tail⟩
  · rw [literalTexts_of_unclosed hrest,
      literalTexts_of_not_mem (literalTail?_eq_none_iff.mp hrest)] at h
    cases h
  · have htail : literalTail? (p ++ '\'' :: '\'' :: rest) =
        some (p ++ '\'' :: '\'' :: body, tail) := by
      rw [literalTail?_append_of_not_mem hp, literalTail?, hrest]
      rfl
    rw [literalTexts_of_literalTail? hrest] at h
    cases h
    rw [literalTexts_of_literalTail? htail]
    rfl

/-! ## The parts between apostrophes -/

/-- Induction on a text over its parts between apostrophes. -/
@[elab_as_elim]
theorem parts_induction {motive : List Char → Prop} (last : ∀ s, '\'' ∉ s → motive s)
    (part : ∀ p rest, '\'' ∉ p → motive rest → motive (p ++ '\'' :: rest)) (s : List Char) :
    motive s := by
  induction hn : s.length using Nat.strongRecOn generalizing s with
  | ind n ih =>
    by_cases hs : '\'' ∈ s
    · obtain ⟨p, rest, rfl, hp⟩ := List.eq_append_cons_of_mem hs
      rw [List.length_append, List.length_cons] at hn
      exact part p rest hp (ih _ (by omega) rest rfl)
    · exact last s hs

/-- Induction over two parts at a time, as they are inside of a literal and behind it. -/
@[elab_as_elim]
theorem pairs_induction {motive : List Char → Prop} (unclosed : ∀ p, '\'' ∉ p → motive p)
    (closed : ∀ p q, '\'' ∉ p → '\'' ∉ q → motive (p ++ '\'' :: q))
    (pair : ∀ p q rest, '\'' ∉ p → '\'' ∉ q → motive rest →
      motive (p ++ '\'' :: (q ++ '\'' :: rest))) (s : List Char) : motive s := by
  have hboth : motive s ∧ ∀ p, '\'' ∉ p → motive (p ++ '\'' :: s) := by
    induction s using parts_induction with
    | last s hs => exact ⟨unclosed s hs, fun p hp => closed p s hp hs⟩
    | part q rest hq ih => exact ⟨ih.2 q hq, fun p hp => pair p q rest hp hq ih.1⟩
  exact hboth.1

/-- The literals that are made up of the parts behind an apostrophe that may open one. -/
def literalsOf : List (List Char) → List (List Char)
  | p :: q :: rest =>
    match q, literalsOf rest with
    | [], l :: ls => ('\'' :: p ++ '\'' :: l) :: ls
    | _, ls => ('\'' :: p ++ ['\'']) :: ls
  | _ => []

theorem literalsOf_of_ne_nil (hq : q ≠ []) :
    literalsOf (p :: q :: parts) = ('\'' :: p ++ ['\'']) :: literalsOf parts := by
  cases q with
  | nil => exact absurd rfl hq
  | cons c q => rw [literalsOf]; simp

theorem literalsOf_of_eq_nil (h : literalsOf parts = []) :
    literalsOf (p :: q :: parts) = ['\'' :: p ++ ['\'']] := by
  unfold literalsOf
  rw [h]
  cases q <;> rfl

theorem literalsOf_of_eq_cons {l : List Char} {ls : List (List Char)}
    (h : literalsOf parts = l :: ls) :
    literalsOf (p :: [] :: parts) = ('\'' :: p ++ '\'' :: l) :: ls := by
  rw [literalsOf.eq_def]
  dsimp only
  rw [h]

/-- Two parts behind an opening apostrophe are a literal and what follows it. -/
theorem literalsOf_eq_nil_iff : literalsOf parts = [] ↔ parts.length < 2 := by
  match parts with
  | [] => exact iff_of_true rfl (by decide)
  | [p] => exact iff_of_true rfl (by simp)
  | p :: q :: rest =>
    refine iff_of_false ?_ (by simp)
    rcases h : literalsOf rest with _ | ⟨l, ls⟩
    · rw [literalsOf_of_eq_nil h]
      exact List.cons_ne_nil _ _
    · cases q with
      | nil => rw [literalsOf_of_eq_cons h]; exact List.cons_ne_nil _ _
      | cons c q => rw [literalsOf_of_ne_nil (List.cons_ne_nil _ _)]; exact List.cons_ne_nil _ _

/-- Behind an apostrophe that may open a literal the parts make up the literals. -/
theorem literalTexts_apostrophe (s : List Char) :
    literalTexts ('\'' :: s) = literalsOf (Text.splitAt '\'' s) := by
  induction s using pairs_induction with
  | unclosed p hp =>
    rw [literalTexts_of_unclosed (literalTail?_eq_none_iff.mpr hp), literalTexts_of_not_mem hp,
      Text.splitAt_of_not_mem hp]
    rfl
  | closed p q hp hq =>
    have hhead : q.head? ≠ some '\'' := fun h => hq (List.mem_of_mem_head? h)
    rw [literalTexts_closed hp hhead, literalTexts_of_not_mem hq, Text.splitAt_append_cons hp,
      Text.splitAt_of_not_mem hq, literalsOf_of_eq_nil rfl]
  | pair p q rest hp hq ih =>
    rw [Text.splitAt_append_cons hp, Text.splitAt_append_cons hq]
    cases q with
    | nil =>
      rw [List.nil_append]
      rcases hliterals : literalTexts ('\'' :: rest) with _ | ⟨l, ls⟩
      · rw [literalTexts_doubled_of_eq_nil hp hliterals,
          literalsOf_of_eq_nil (ih.symm.trans hliterals)]
      · rw [literalTexts_doubled_of_eq_cons hp hliterals,
          literalsOf_of_eq_cons (ih.symm.trans hliterals)]
    | cons c q =>
      have hhead : (c :: q ++ '\'' :: rest).head? ≠ some '\'' := fun h =>
        hq (List.mem_of_mem_head? h)
      rw [literalTexts_closed hp hhead, literalTexts_append_of_not_mem hq, ih,
        literalsOf_of_ne_nil (List.cons_ne_nil _ _)]

/-- **Literals by parts.** The literals of a text are those that its parts behind the first
apostrophe make up. -/
theorem literalTexts_eq (s : List Char) :
    literalTexts s = literalsOf (Text.splitAt '\'' s).tail := by
  by_cases hs : '\'' ∈ s
  · obtain ⟨first, rest, rfl, hfirst⟩ := List.eq_append_cons_of_mem hs
    rw [literalTexts_append_of_not_mem hfirst, Text.splitAt_append_cons hfirst, List.tail_cons,
      literalTexts_apostrophe]
  · rw [literalTexts_of_not_mem hs, Text.splitAt_of_not_mem hs]
    rfl

/-- An apostrophe opens a literal if another one follows. -/
theorem literalsOf_splitAt_eq_nil_iff : literalsOf (Text.splitAt '\'' s) = [] ↔ '\'' ∉ s := by
  rw [← literalTexts_apostrophe, ← literalTail?_eq_none_iff]
  rcases h : literalTail? s with _ | ⟨body, tail⟩
  · rw [literalTexts_of_unclosed h, literalTexts_of_not_mem (literalTail?_eq_none_iff.mp h)]
    exact iff_of_true rfl rfl
  · rw [literalTexts_of_literalTail? h]
    exact iff_of_false (List.cons_ne_nil _ _) nofun

/-! ## Parts with the same literals -/

/-- The same parts inside of literals, and the same empty ones outside. -/
inductive SameInside : List (List Char) → List (List Char) → Prop
  | nil : SameInside [] []
  | unclosed {p p' : List Char} : SameInside [p] [p']
  | closed {p q q' : List Char} {parts parts' : List (List Char)} :
    (q' = [] ↔ q = []) → SameInside parts parts' → SameInside (p :: q :: parts) (p :: q' :: parts')

theorem SameInside.literalsOf_eq (h : SameInside parts parts') :
    literalsOf parts' = literalsOf parts := by
  induction h with
  | nil => rfl
  | unclosed => rfl
  | @closed p q q' parts parts' hq _ ih =>
    by_cases hempty : q = []
    · rw [hempty, hq.mpr hempty]
      rcases hliterals : literalsOf parts with _ | ⟨l, ls⟩
      · rw [literalsOf_of_eq_nil hliterals, literalsOf_of_eq_nil (ih.trans hliterals)]
      · rw [literalsOf_of_eq_cons hliterals, literalsOf_of_eq_cons (ih.trans hliterals)]
    · rw [literalsOf_of_ne_nil hempty, literalsOf_of_ne_nil (mt hq.mp hempty), ih]

/-! ## Literals of numbered texts -/

theorem count_append_apostrophe (hp : '\'' ∉ p) : (p ++ ['\'']).count '\'' = 1 := by
  rw [List.count_append, List.count_eq_zero.mpr hp]
  rfl

theorem not_mem_digitsOn (n : Nat) (h : '\'' ∉ s) : '\'' ∉ Text.digitsOn 10 n s := by
  rw [← List.count_eq_zero, Text.count_digitsOn (by decide), List.count_eq_zero]
  exact h

/-- Inside of a literal everything is copied. -/
theorem numberOutside_inside {before : List Char} (hodd : before.count '\'' % 2 = 1)
    (hp : '\'' ∉ p) (next : Nat) (rest : List Char) :
    numberOutside next before (p ++ '\'' :: rest) =
      p ++ '\'' :: numberOutside next (before ++ (p ++ ['\''])) rest := by
  induction p generalizing before with
  | nil => exact numberOutside_of_not_mark (by decide) next before rest
  | cons c p ih =>
    rw [List.mem_cons, not_or] at hp
    have hcount : (before ++ [c]).count '\'' % 2 = 1 := by
      rwa [count_concat_of_ne (Ne.symm hp.1)]
    rw [List.cons_append, numberOutside_of_inLiteral ⟨hodd, by simp⟩, ih hcount hp.2]
    simp

/-- Outside of literals a part is numbered on its own. No number is empty or has an apostrophe. -/
theorem exists_numberOutside_append {before : List Char} (hout : ¬ InLiteral before (q ++ rest))
    (hq : '\'' ∉ q) (next : Nat) :
    ∃ q' next', numberOutside next before (q ++ rest) =
        q' ++ numberOutside next' (before ++ q) rest ∧
      '\'' ∉ q' ∧ (q' = [] ↔ q = []) := by
  induction q generalizing before next with
  | nil =>
    refine ⟨[], next, ?_, List.not_mem_nil, Iff.rfl⟩
    rw [List.append_nil]
    rfl
  | cons c q ih =>
    rw [List.mem_cons, not_or] at hq
    have hnext : ¬ InLiteral (before ++ [c]) (q ++ rest) := by
      rintro ⟨hodd, hmem⟩
      rw [count_concat_of_ne (Ne.symm hq.1)] at hodd
      exact hout ⟨hodd, List.mem_cons_of_mem _ hmem⟩
    have hsplit : before ++ [c] ++ q = before ++ c :: q := by
      rw [List.append_assoc, List.singleton_append]
    by_cases hmark : c = '?'
    · obtain ⟨q', next', heq, hq', _⟩ := ih hnext hq.2 (next + 1)
      refine ⟨'$' :: Text.digitsOn 10 next q', next', ?_, ?_, by simp⟩
      · have hhere : ¬ InLiteral before (q ++ rest) := fun hin =>
          hout ⟨hin.1, List.mem_cons_of_mem _ hin.2⟩
        rw [hmark, List.cons_append, numberOutside_mark_of_not_inLiteral hhere, ← hmark, heq,
          hsplit, List.cons_append, Text.digitsOn_append]
      · rw [List.mem_cons, not_or]
        exact ⟨by decide, not_mem_digitsOn next hq'⟩
    · obtain ⟨q', next', heq, hq', _⟩ := ih hnext hq.2 next
      refine ⟨c :: q', next', ?_, ?_, by simp⟩
      · rw [List.cons_append, numberOutside_of_not_mark hmark, heq, hsplit]
        rfl
      · rw [List.mem_cons, not_or]
        exact ⟨hq.1, hq'⟩

/-- The last part outside of literals is numbered on its own. -/
theorem exists_numberOutside_eq {before : List Char} (hout : ¬ InLiteral before q) (hq : '\'' ∉ q)
    (next : Nat) :
    ∃ q', numberOutside next before q = q' ∧ '\'' ∉ q' ∧ (q' = [] ↔ q = []) := by
  rw [← List.append_nil q] at hout
  obtain ⟨q', next', heq, hq'⟩ := exists_numberOutside_append hout hq next
  rw [numberOutside, List.append_nil, List.append_nil] at heq
  exact ⟨q', heq, hq'⟩

/-- A text behind an apostrophe that may open a literal keeps the insides of its literals. -/
theorem sameInside_numberOutside {before : List Char} (hodd : before.count '\'' % 2 = 1)
    (next : Nat) (s : List Char) :
    SameInside (Text.splitAt '\'' s) (Text.splitAt '\'' (numberOutside next before s)) := by
  have hbehind : ∀ {before p : List Char}, before.count '\'' % 2 = 1 → '\'' ∉ p →
      (before ++ (p ++ ['\''])).count '\'' % 2 = 0 := by
    intro before p hodd hp
    rw [List.count_append, count_append_apostrophe hp]
    omega
  induction s using pairs_induction generalizing before next with
  | unclosed p hp =>
    obtain ⟨p', heq, hp', _⟩ := exists_numberOutside_eq (not_inLiteral_of_not_mem hp before) hp next
    rw [heq, Text.splitAt_of_not_mem hp, Text.splitAt_of_not_mem hp']
    exact .unclosed
  | closed p q hp hq =>
    obtain ⟨q', heq, hq', hempty⟩ := exists_numberOutside_eq
      (not_inLiteral_of_even (hbehind hodd hp) q) hq next
    rw [numberOutside_inside hodd hp, heq, Text.splitAt_append_cons hp, Text.splitAt_append_cons hp,
      Text.splitAt_of_not_mem hq, Text.splitAt_of_not_mem hq']
    exact .closed hempty .nil
  | pair p q rest hp hq ih =>
    obtain ⟨q', next', heq, hq', hempty⟩ := exists_numberOutside_append
      (not_inLiteral_of_even (hbehind hodd hp) (q ++ '\'' :: rest)) hq next
    have hodd' : (before ++ (p ++ ['\'']) ++ q ++ ['\'']).count '\'' % 2 = 1 := by
      have heven := hbehind hodd hp
      rw [List.append_assoc _ q, List.count_append, count_append_apostrophe hq]
      omega
    rw [numberOutside_inside hodd hp, heq, numberOutside_of_not_mark (by decide),
      Text.splitAt_append_cons hp, Text.splitAt_append_cons hp, Text.splitAt_append_cons hq,
      Text.splitAt_append_cons hq']
    exact .closed hempty (ih hodd' next')

/-- **Numbered literals.** Numbering the question marks of a text keeps its literals. -/
theorem literalTexts_numberTokens (s : List Char) :
    literalTexts (numberTokens 1 (markedTokens s)) = literalTexts s := by
  rw [numberTokens_markedTokens s 1 [] rfl]
  by_cases hs : '\'' ∈ s
  case neg =>
    obtain ⟨s', heq, hs', _⟩ := exists_numberOutside_eq (not_inLiteral_nil s) hs 1
    rw [heq, literalTexts_of_not_mem hs, literalTexts_of_not_mem hs']
  obtain ⟨q, rest, rfl, hq⟩ := List.eq_append_cons_of_mem hs
  obtain ⟨q', next', heq, hq', _⟩ := exists_numberOutside_append
    (not_inLiteral_nil (q ++ '\'' :: rest)) hq 1
  have hodd : ([] ++ q ++ ['\'']).count '\'' % 2 = 1 := by
    rw [List.nil_append, count_append_apostrophe hq]
  rw [heq, numberOutside_of_not_mark (by decide), literalTexts_eq, literalTexts_eq,
    Text.splitAt_append_cons hq, Text.splitAt_append_cons hq']
  exact (sameInside_numberOutside hodd next' rest).literalsOf_eq

end SqlCompiler.Sql
