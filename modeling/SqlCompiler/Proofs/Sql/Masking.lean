import SqlCompiler.Proofs.Sql.Literals
import SqlCompiler.Proofs.Sql.Quoting
import SqlCompiler.Proofs.Sql.Spelling

/-!
# Masking literals

What a statement is besides its literals shows if each of them is replaced by one and the same token
(`masked`). Where literals are is told by counting apostrophes, and two literals with nothing
between are one: the apostrophes between them are a doubled one. A text that is laced with written
literals is masked by writing the token in their place, whatever they mean
(`masked_laced`).
-/

namespace SqlCompiler.Sql

open Text (doubleMark doubleMark_singleton_cons)

/-- Masks the literals in the part of a statement behind `before`. If `joined`, a literal ends right
in front of that part, and the next one goes on with it if it begins there. -/
def maskFrom (token : List Char) (joined : Bool) (before : List Char) : List Char → List Char
  | [] => []
  | c :: rest =>
    if InLiteral before (c :: rest) then maskFrom token true (before ++ [c]) rest
    else if InLiteral (before ++ [c]) rest then
      (if joined then [] else token) ++ maskFrom token true (before ++ [c]) rest
    else c :: maskFrom token false (before ++ [c]) rest

/-- A text with a token in place of each literal. -/
def masked (token s : String) : String :=
  String.ofList (maskFrom token.toList false [] s.toList)

/-- A text without apostrophes. -/
def Unquoted (s : String) : Prop :=
  '\'' ∉ s.toList

instance (s : String) : Decidable (Unquoted s) :=
  inferInstanceAs (Decidable (¬ _))

theorem unquoted_append_iff {a b : String} : Unquoted (a ++ b) ↔ Unquoted a ∧ Unquoted b := by
  unfold Unquoted
  rw [String.toList_append, List.mem_append, not_or]

/-! ## Masking part by part -/

section Parts

variable {token : List Char} {joined : Bool} {before : List Char}

/-- Outside of literals a part without apostrophes stays. -/
theorem maskFrom_unquoted {p : List Char} (hp : '\'' ∉ p) (heven : before.count '\'' % 2 = 0)
    (rest : List Char) :
    maskFrom token joined before (p ++ rest) =
      p ++ maskFrom token (joined && p.isEmpty) (before ++ p) rest := by
  induction p generalizing joined before with
  | nil => simp
  | cons c p ih =>
    rw [List.mem_cons, not_or] at hp
    have hcount := count_concat_of_ne (Ne.symm hp.1) before
    have hout : ¬ InLiteral before (c :: (p ++ rest)) := not_inLiteral_of_even heven _
    have hnext : ¬ InLiteral (before ++ [c]) (p ++ rest) :=
      not_inLiteral_of_even (hcount ▸ heven) _
    rw [List.cons_append, maskFrom, if_neg hout, if_neg hnext, ih hp.2 (hcount ▸ heven),
      Bool.false_and, List.append_assoc, List.singleton_append, List.cons_append, List.isEmpty_cons,
      Bool.and_false]

/-- Inside of a literal everything is left out up to its end. -/
theorem maskFrom_inside (s rest : List Char) (hodd : before.count '\'' % 2 = 1) :
    maskFrom token true before (doubleMark ['\''] s ++ '\'' :: rest) =
      maskFrom token true (before ++ (doubleMark ['\''] s ++ ['\''])) rest := by
  induction s generalizing before with
  | nil =>
    have hin : InLiteral before ('\'' :: rest) := ⟨hodd, List.mem_cons_self⟩
    rw [doubleMark, List.nil_append, List.nil_append, maskFrom, if_pos hin]
  | cons c s ih =>
    have hmem : ∀ p, '\'' ∈ p ++ (doubleMark ['\''] s ++ '\'' :: rest) := by simp
    rw [doubleMark_singleton_cons]
    by_cases hc : c = '\''
    · subst hc
      have hin : InLiteral before ('\'' :: '\'' :: (doubleMark ['\''] s ++ '\'' :: rest)) :=
        ⟨hodd, List.mem_cons_self⟩
      have heven : (before ++ ['\'']).count '\'' % 2 = 0 := by
        rw [count_concat_apostrophe]
        omega
      have hagain : (before ++ ['\''] ++ ['\'']).count '\'' % 2 = 1 := by
        rw [count_concat_apostrophe, count_concat_apostrophe]
        omega
      rw [if_pos rfl, List.cons_append, List.cons_append, maskFrom, if_pos hin, maskFrom,
        if_neg (not_inLiteral_of_even heven _), if_pos ⟨hagain, hmem []⟩, if_pos rfl,
        List.nil_append, ih hagain]
      simp
    · have hin : InLiteral before (c :: (doubleMark ['\''] s ++ '\'' :: rest)) := ⟨hodd, hmem [c]⟩
      have hnext : (before ++ [c]).count '\'' % 2 = 1 := by
        rw [count_concat_of_ne hc, hodd]
      rw [if_neg hc, List.cons_append, maskFrom, if_pos hin, ih hnext]
      simp

/-- A written literal becomes the token. -/
theorem maskFrom_quoteText (s : String) (rest : List Char) (heven : before.count '\'' % 2 = 0) :
    maskFrom token false before ((quoteText s).toList ++ rest) =
      token ++ maskFrom token true (before ++ (quoteText s).toList) rest := by
  have hodd : (before ++ ['\'']).count '\'' % 2 = 1 := by
    rw [count_concat_apostrophe]
    omega
  have hopens : InLiteral (before ++ ['\'']) (doubleMark ['\''] s.toList ++ '\'' :: rest) :=
    ⟨hodd, by simp⟩
  rw [toList_quoteText, List.cons_append, List.append_assoc, List.singleton_append, maskFrom,
    if_neg (not_inLiteral_of_even heven _), if_pos hopens, if_neg Bool.false_ne_true,
    maskFrom_inside s.toList rest hodd]
  simp

end Parts

/-! ## Laced texts -/

/-- A text that is laced with literals. Each comes with the text that stands behind it. -/
def laced (first : String) : List (String × String) → String
  | [] => first
  | (text, next) :: rest => first ++ quoteText text ++ laced next rest

/-- The texts around literals have no apostrophes, and between two literals there is a space. -/
def AreSeparate (first : String) : List String → Prop
  | [] => Unquoted first
  | next :: rest => Unquoted first ∧ (rest ≠ [] → ' ' ∈ next.toList) ∧ AreSeparate next rest

variable {first : String} {pairs : List (String × String)}

theorem count_quoteText (s : String) : (quoteText s).toList.count '\'' % 2 = 0 := by
  have hdoubled : ∀ s : List Char, (doubleMark ['\''] s).count '\'' % 2 = 0 := by
    intro s
    induction s with
    | nil => rw [doubleMark]; rfl
    | cons c s ih =>
      rw [doubleMark_singleton_cons]
      split
      · rw [List.count_cons_self, List.count_cons_self]
        omega
      · rename_i hc
        rw [List.count_cons_of_ne hc, ih]
  have := hdoubled s.toList
  rw [toList_quoteText, List.count_cons_self, count_concat_apostrophe]
  omega

theorem maskFrom_laced {token : String} (h : AreSeparate first (pairs.map (·.2))) {joined : Bool}
    (hjoined : joined = true → pairs ≠ [] → ' ' ∈ first.toList) {before : List Char}
    (heven : before.count '\'' % 2 = 0) :
    maskFrom token.toList joined before (laced first pairs).toList =
      (token.intercalate (first :: pairs.map (·.2))).toList := by
  induction pairs generalizing first joined before with
  | nil =>
    have hall : maskFrom token.toList joined before (first.toList ++ []) = first.toList ++ [] :=
      maskFrom_unquoted h heven []
    rw [List.append_nil] at hall
    rw [laced, hall, List.map_nil, String.intercalate_singleton]
  | cons pair pairs ih =>
    obtain ⟨text, next⟩ := pair
    obtain ⟨hfirst, hspace, hrest⟩ := h
    have hopen : (joined && first.toList.isEmpty) = false := by
      cases joined with
      | false => rfl
      | true =>
        rw [Bool.true_and, List.isEmpty_eq_false_iff]
        exact List.ne_nil_of_mem (hjoined rfl (List.cons_ne_nil _ _))
    have hcount : (before ++ first.toList).count '\'' % 2 = 0 := by
      rw [List.count_append, List.count_eq_zero.mpr hfirst, Nat.add_zero, heven]
    have hnext : (before ++ first.toList ++ (quoteText text).toList).count '\'' % 2 = 0 := by
      have := count_quoteText text
      rw [List.count_append]
      omega
    have hseparate : pairs ≠ [] → ' ' ∈ next.toList := fun hne =>
      hspace (mt List.map_eq_nil_iff.mp hne)
    rw [laced, String.toList_append, String.toList_append, List.append_assoc,
      maskFrom_unquoted hfirst heven, hopen, maskFrom_quoteText text _ hcount,
      ih hrest (fun _ => hseparate) hnext, List.map_cons, String.intercalate_cons_cons,
      String.toList_append, String.toList_append, List.append_assoc]

/-- **Masked literals.** A token stands in place of each literal that was written, whatever it
means, and nothing else is different. -/
theorem masked_laced (token : String) (h : AreSeparate first (pairs.map (·.2))) :
    masked token (laced first pairs) = token.intercalate (first :: pairs.map (·.2)) := by
  unfold masked
  rw [maskFrom_laced h (fun h => absurd h Bool.false_ne_true) rfl, String.ofList_toList]

end SqlCompiler.Sql
