import SqlCompiler.Proofs.Sql.Stripping

/-!
# Null orderings that come about by removing others

Removing the null ordering joins what stands before it and behind it, and that can be the clause
again: `ORDER ORDER BY NULL BY NULL` becomes `ORDER BY NULL`. Then the clause is torn into its three
words, and clauses that are removed stand behind the first or the second of them. This is the only
way in which a clause is left (`stripNullOrdering_again_iff`).

1. Behind a word only clauses behind blanks are removed, and no word begins behind them
   (`exists_clauses`).
2. So the words of a clause that is left stand in the text as they are, and only clauses are between
   them (`hasTornOrdering_of_stripped`).
3. A clause that is removed does not reach into a torn one, and those inside of it are removed
   (`strippedFrom_append`, `hasNullOrdering_of_torn`).
-/

namespace SqlCompiler.Sql

variable {previous : Option Char} {s rest : List Char}

/-! ## Step by step -/

/-- What is left of a text behind a character. -/
def strippedFrom (previous : Option Char) (s : List Char) : List Char :=
  stripNullOrderingFrom s.length previous s

theorem strippedFrom_none_eq (s : List Char) : strippedFrom none s = stripped s :=
  rfl

theorem strippedFrom_kept {c : Char} {tail : List Char}
    (h : nullOrderingRest? previous (c :: tail) = none) :
    strippedFrom previous (c :: tail) = c :: strippedFrom (some c) tail := by
  rw [strippedFrom, List.length_cons, stripNullOrderingFrom, h]
  rfl

theorem length_lt_of_nullOrderingRest? (h : nullOrderingRest? previous s = some rest) :
    rest.length < s.length := by
  have hlength := congrArg List.length (nullOrderingRest?_eq_some h)
  have hclause : nullOrdering.length = 13 := rfl
  rw [List.length_append, List.length_append] at hlength
  omega

theorem strippedFrom_removed (h : nullOrderingRest? previous s = some rest) :
    strippedFrom previous s = strippedFrom nullOrdering.getLast? rest := by
  have hlength := length_lt_of_nullOrderingRest? h
  cases s with
  | nil => simp at hlength
  | cons c tail =>
    rw [strippedFrom, List.length_cons, stripNullOrderingFrom, h]
    exact stripNullOrderingFrom_congr (Nat.le_of_lt_succ hlength) (Nat.le_refl _) rfl

/-- A property of texts behind a character, one kept character or one removed clause at a time. -/
theorem strippedFrom_induction {motive : Option Char → List Char → Prop}
    (nil : ∀ previous, motive previous [])
    (kept : ∀ previous c tail, nullOrderingRest? previous (c :: tail) = none →
      motive (some c) tail → motive previous (c :: tail))
    (removed : ∀ previous s rest, nullOrderingRest? previous s = some rest →
      motive nullOrdering.getLast? rest → motive previous s)
    (previous : Option Char) (s : List Char) : motive previous s := by
  induction hn : s.length using Nat.strongRecOn generalizing previous s with
  | ind n ih =>
    cases s with
    | nil => exact nil previous
    | cons c tail =>
      rcases h : nullOrderingRest? previous (c :: tail) with _ | rest
      · refine kept previous c tail h (ih tail.length ?_ (some c) tail rfl)
        rw [← hn, List.length_cons]
        exact Nat.lt_succ_self _
      · refine removed previous (c :: tail) rest h (ih rest.length ?_ _ rest rfl)
        rw [← hn]
        exact length_lt_of_nullOrderingRest? h

theorem isBoundary_getLast?_nullOrdering : isBoundary nullOrdering.getLast? = false := by
  decide +kernel

/-- What is needed for a clause to be removed. -/
theorem nullOrderingRest?_eq_some_iff :
    nullOrderingRest? previous s = some rest ↔
      ∃ blanks, s = blanks ++ (nullOrdering ++ rest) ∧ (∀ c ∈ blanks, Text.isBlank c = true) ∧
        (blanks ≠ [] ∨ isBoundary previous = true) ∧ isBoundary rest.head? = true := by
  constructor
  · intro h
    refine ⟨s.takeWhile Text.isBlank, ?_, fun c => List.all_eq_true.mp List.all_takeWhile c, ?_⟩
    · rw [← List.append_assoc]
      exact nullOrderingRest?_eq_some h
    · unfold nullOrderingRest? at h
      simp only [Option.ite_none_right_eq_some, Bool.and_eq_true, Bool.or_eq_true,
        decide_eq_true_eq, Option.some.injEq] at h
      obtain ⟨⟨⟨_, hprevious⟩, hrest⟩, rfl⟩ := h
      refine ⟨hprevious.imp_left fun hlt hnil => ?_, hrest⟩
      have hsplit := congrArg List.length
        (List.takeWhile_append_dropWhile (p := Text.isBlank) (l := s))
      rw [hnil, List.nil_append] at hsplit
      omega
  · rintro ⟨blanks, rfl, hblanks, hprevious, hrest⟩
    have hbody : (blanks ++ (nullOrdering ++ rest)).dropWhile Text.isBlank =
        nullOrdering ++ rest := by
      rw [List.dropWhile_append_of_pos hblanks]
      rfl
    have hclause : nullOrdering.isPrefixOf (nullOrdering ++ rest) = true :=
      List.isPrefixOf_iff_prefix.mpr (List.prefix_append _ _)
    have hlength : (nullOrdering ++ rest).length < (blanks ++ (nullOrdering ++ rest)).length ∨
        isBoundary previous = true := by
      refine hprevious.imp_left fun hne => ?_
      have hpos := List.length_pos_iff.mpr hne
      simp only [List.length_append]
      omega
    unfold nullOrderingRest?
    rw [hbody]
    dsimp only
    rw [List.drop_left, hclause, hrest, Bool.true_and, Bool.and_true, if_pos]
    rw [Bool.or_eq_true, decide_eq_true_eq]
    exact hlength

/-! ## Clauses that are removed -/

/-- Clauses, each of them behind blanks. -/
inductive Clauses : List Char → Prop
  | nil : Clauses []
  | cons {blanks rest : List Char} : blanks ≠ [] → (∀ c ∈ blanks, Text.isBlank c = true) →
      Clauses rest → Clauses (blanks ++ (nullOrdering ++ rest))

theorem isBoundary_of_isBlank {c : Char} (h : Text.isBlank c = true) :
    isBoundary (some c) = true := by
  rw [isBoundary, Text.isWord_eq_false_of_isBlank h]
  rfl

/-- No word is touched by clauses before which there is a blank. -/
theorem Clauses.head?_append {gone : List Char} (h : Clauses gone) {t : List Char}
    (ht : isBoundary t.head? = true) : isBoundary (gone ++ t).head? = true := by
  cases h with
  | nil => exact ht
  | cons hne hblanks _ =>
    obtain ⟨b, blanks, rfl⟩ := List.exists_cons_of_ne_nil hne
    exact isBoundary_of_isBlank (hblanks b List.mem_cons_self)

/-- Clauses in front of a place where no word begins are removed. -/
theorem Clauses.strippedFrom_append {gone : List Char} (h : Clauses gone) {t : List Char}
    (ht : isBoundary t.head? = true) (previous : Option Char) :
    ∃ last, strippedFrom previous (gone ++ t) = strippedFrom last t := by
  induction h generalizing previous with
  | nil => exact ⟨previous, rfl⟩
  | @cons blanks rest hne hblanks hrest ih =>
    obtain ⟨last, hlast⟩ := ih nullOrdering.getLast?
    refine ⟨last, ?_⟩
    rw [List.append_assoc, List.append_assoc, ← hlast]
    exact strippedFrom_removed (nullOrderingRest?_eq_some_iff.mpr
      ⟨blanks, rfl, hblanks, .inl hne, hrest.head?_append ht⟩)

/-- Behind a word clauses are removed, and then a character is kept with which no word begins, or
nothing is left. If none is removed, the next character is kept. -/
theorem exists_clauses (hprevious : isBoundary previous = false) (s : List Char) :
    ∃ gone kept, s = gone ++ kept ∧ Clauses gone ∧
      strippedFrom previous s = kept.take 1 ++ strippedFrom kept.head? (kept.drop 1) ∧
      (gone ≠ [] → isBoundary kept.head? = true) := by
  induction previous, s using strippedFrom_induction with
  | nil previous => exact ⟨[], [], rfl, .nil, rfl, fun _ => rfl⟩
  | kept previous c tail h _ =>
    exact ⟨[], c :: tail, rfl, .nil, strippedFrom_kept h, fun h => absurd rfl h⟩
  | removed previous s rest h ih =>
    obtain ⟨gone, kept, rfl, hgone, hstrip, hhead⟩ := ih isBoundary_getLast?_nullOrdering
    obtain ⟨blanks, rfl, hblanks, hne, hrest⟩ := nullOrderingRest?_eq_some_iff.mp h
    have hne : blanks ≠ [] := hne.resolve_right (by rw [hprevious]; decide)
    refine ⟨blanks ++ (nullOrdering ++ gone), kept, by simp, .cons hne hblanks hgone, ?_, ?_⟩
    · rw [strippedFrom_removed h, hstrip]
    · intro _
      by_cases hnil : gone = []
      · rw [hnil] at hrest
        exact hrest
      · exact hhead hnil

/-- A word begins behind another word in what is left exactly if one does in the text. -/
theorem isBoundary_head?_strippedFrom (hprevious : isBoundary previous = false) (s : List Char) :
    isBoundary (strippedFrom previous s).head? = isBoundary s.head? := by
  obtain ⟨gone, kept, rfl, hgone, hstrip, hhead⟩ := exists_clauses hprevious s
  have hleft : (strippedFrom previous (gone ++ kept)).head? = kept.head? := by
    rw [hstrip]
    cases kept <;> rfl
  rw [hleft]
  by_cases hnil : gone = []
  · rw [hnil]
    rfl
  · rw [hhead hnil, hgone.head?_append (hhead hnil)]

/-! ## Words that are left -/

/-- A character that is left and is part of a word is the first of the text. -/
theorem exists_of_strippedFrom_eq_cons {c : Char} {t : List Char} (hc : Text.isWord c = true)
    (h : strippedFrom previous s = c :: t) :
    ∃ tail, s = c :: tail ∧ strippedFrom (some c) tail = t := by
  cases s with
  | nil => cases h
  | cons d tail =>
    rcases hrest : nullOrderingRest? previous (d :: tail) with _ | rest
    · rw [strippedFrom_kept hrest] at h
      obtain ⟨rfl, rfl⟩ := List.cons.inj h
      exact ⟨tail, rfl, rfl⟩
    · -- No word begins behind a clause that is removed.
      obtain ⟨_, _, _, _, hhead⟩ := nullOrderingRest?_eq_some_iff.mp hrest
      have hleft := isBoundary_head?_strippedFrom isBoundary_getLast?_nullOrdering rest
      rw [strippedFrom_removed hrest] at h
      rw [h, hhead, List.head?_cons, isBoundary, hc] at hleft
      cases hleft

theorem getLast?_cons_or {c : Char} (word : List Char) (p : Option Char) :
    (c :: word).getLast?.or p = word.getLast?.or (some c) := by
  rw [List.getLast?_cons]
  cases word.getLast? <;> rfl

/-- A word that is left stands in the text as it is. -/
theorem exists_of_strippedFrom_eq_append {word t : List Char}
    (hword : word.all Text.isWord = true) (h : strippedFrom previous s = word ++ t) :
    ∃ tail, s = word ++ tail ∧ strippedFrom (word.getLast?.or previous) tail = t := by
  induction word generalizing previous s with
  | nil => exact ⟨s, rfl, h⟩
  | cons c word ih =>
    rw [List.all_cons, Bool.and_eq_true_iff] at hword
    obtain ⟨hc, hword⟩ := hword
    obtain ⟨tail, rfl, htail⟩ := exists_of_strippedFrom_eq_cons hc h
    obtain ⟨behind, rfl, hbehind⟩ := ih hword htail
    refine ⟨behind, rfl, ?_⟩
    rw [getLast?_cons_or]
    exact hbehind

/-- Behind a word, a character with which no word begins is left behind clauses that are removed. -/
theorem exists_clauses_of_strippedFrom_eq_cons {c : Char} {t : List Char}
    (hprevious : isBoundary previous = false) (h : strippedFrom previous s = c :: t) :
    ∃ gone tail, s = gone ++ c :: tail ∧ Clauses gone ∧ strippedFrom (some c) tail = t := by
  obtain ⟨gone, kept, rfl, hgone, hstrip, -⟩ := exists_clauses hprevious s
  rw [hstrip] at h
  cases kept with
  | nil => cases h
  | cons d kept =>
    obtain ⟨rfl, rfl⟩ := List.cons.inj h
    exact ⟨gone, kept, rfl, hgone, rfl⟩

/-- What is left can be cut anywhere, and then so can the text. -/
theorem exists_split_of_strippedFrom {before after : List Char}
    (h : strippedFrom previous s = before ++ after) :
    ∃ first last, s = first ++ last ∧ first.getLast?.or previous = before.getLast?.or previous ∧
      strippedFrom (before.getLast?.or previous) last = after := by
  induction previous, s using strippedFrom_induction generalizing before with
  | nil previous =>
    obtain ⟨rfl, rfl⟩ := List.nil_eq_append_iff.mp h
    exact ⟨[], [], rfl, rfl, rfl⟩
  | kept previous c tail hnone ih =>
    cases before with
    | nil => exact ⟨[], c :: tail, rfl, rfl, h⟩
    | cons d before =>
      rw [strippedFrom_kept hnone, List.cons_append] at h
      obtain ⟨rfl, htail⟩ := List.cons.inj h
      obtain ⟨first, last, rfl, hlast, hleft⟩ := ih htail
      refine ⟨c :: first, last, rfl, ?_, ?_⟩
      · rw [getLast?_cons_or, getLast?_cons_or, hlast]
      · rw [getLast?_cons_or, hleft]
  | removed previous s rest hsome ih =>
    cases before with
    | nil => exact ⟨[], s, rfl, rfl, h⟩
    | cons d before =>
      rw [strippedFrom_removed hsome] at h
      obtain ⟨first, last, rfl, hlast, hleft⟩ := ih h
      obtain ⟨blanks, rfl, -⟩ := nullOrderingRest?_eq_some_iff.mp hsome
      rw [getLast?_cons_or] at hlast hleft ⊢
      refine ⟨blanks ++ (nullOrdering ++ first), last, by simp, ?_, hleft⟩
      rw [← hlast, List.getLast?_append, List.getLast?_append]
      cases first.getLast? <;> rfl

/-! ## Torn clauses -/

/-- The clause with something behind its first and its second word. -/
def torn (first second rest : List Char) : List Char :=
  ['O', 'R', 'D', 'E', 'R'] ++ (first ++ ([' ', 'B', 'Y'] ++ (second ++
    ([' ', 'N', 'U', 'L', 'L'] ++ rest))))

/-- The clause stands somewhere as whole words, and other clauses stand between its words. -/
def HasTornOrdering (s : List Char) : Prop :=
  ∃ before first second rest, s = before ++ torn first second rest ∧
    Clauses first ∧ Clauses second ∧ ¬ (first = [] ∧ second = []) ∧
    isBoundary before.getLast? = true ∧ isBoundary rest.head? = true

theorem nullOrdering_append (rest : List Char) :
    nullOrdering ++ rest =
      ['O', 'R', 'D', 'E', 'R'] ++ (' ' :: (['B', 'Y'] ++ (' ' :: (['N', 'U', 'L', 'L'] ++ rest)))) :=
  rfl

/-- A clause that is left is torn in the text. -/
theorem hasTornOrdering_of_stripped (h : HasNullOrdering (stripped s)) : HasTornOrdering s := by
  obtain ⟨before, rest, hs, hbefore, hrest⟩ := h
  rw [← strippedFrom_none_eq] at hs
  obtain ⟨front, s₀, rfl, hfront, h₀⟩ := exists_split_of_strippedFrom hs
  rw [Option.or_none, Option.or_none] at hfront
  rw [Option.or_none] at h₀
  have hwords := h₀
  rw [nullOrdering_append] at hwords
  -- The three words are left one after the other.
  obtain ⟨s₁, rfl, h₁⟩ := exists_of_strippedFrom_eq_append (by decide +kernel) hwords
  obtain ⟨first, s₂, rfl, hfirst, h₂⟩ := exists_clauses_of_strippedFrom_eq_cons
    (by decide +kernel : isBoundary (some 'R') = false) h₁
  obtain ⟨s₃, rfl, h₃⟩ := exists_of_strippedFrom_eq_append (by decide +kernel) h₂
  obtain ⟨second, s₄, rfl, hsecond, h₄⟩ := exists_clauses_of_strippedFrom_eq_cons
    (by decide +kernel : isBoundary (some 'Y') = false) h₃
  obtain ⟨tail, rfl, htail⟩ := exists_of_strippedFrom_eq_append (by decide +kernel) h₄
  replace htail : strippedFrom nullOrdering.getLast? tail = rest := htail
  have hhead : isBoundary tail.head? = true := by
    rw [← isBoundary_head?_strippedFrom isBoundary_getLast?_nullOrdering tail, htail]
    exact hrest
  refine ⟨front, first, second, tail, rfl, hfirst, hsecond, ?_, hfront ▸ hbefore, hhead⟩
  rintro ⟨rfl, rfl⟩
  -- An unbroken clause would have been removed.
  have hremoved := strippedFrom_removed (nullOrderingRest?_of_boundary hbefore hhead)
  rw [htail] at hremoved
  have hlength := congrArg List.length (hremoved.symm.trans h₀)
  have hclause : nullOrdering.length = 13 := rfl
  rw [List.length_append] at hlength
  omega

/-! ## Torn clauses are left -/

/-- Behind the first blank of clauses there is another one or the `O` of a clause. -/
theorem Clauses.not_isPrefix {gone : List Char} (h : Clauses gone) (hne : gone ≠ []) {c : Char}
    (hc : c ≠ 'O') (hblank : Text.isBlank c = false) (t : List Char) :
    ¬ [' ', c] <+: gone ++ t := by
  cases h with
  | nil => exact absurd rfl hne
  | @cons blanks rest hblanks hall _ =>
    rintro ⟨more, hmore⟩
    match blanks with
    | [] => exact hblanks rfl
    | [b] => exact hc (List.cons.inj (List.cons.inj hmore).2).1
    | b :: d :: blanks =>
      have hd := hall d (by simp)
      rw [← (List.cons.inj (List.cons.inj hmore).2).1, hblank] at hd
      cases hd

variable {first second : List Char}

theorem not_isPrefix_torn (hfirst : Clauses first) (hsecond : Clauses second)
    (hne : ¬ (first = [] ∧ second = [])) (rest : List Char) :
    ¬ nullOrdering <+: torn first second rest := by
  intro h
  by_cases hnil : first = []
  · have hsecond' : second ≠ [] := fun h => hne ⟨hnil, h⟩
    rw [hnil, torn, ← List.append_assoc, ← List.append_assoc, List.append_nil] at h
    have hrest : [' ', 'N', 'U', 'L', 'L'] <+: second ++ ([' ', 'N', 'U', 'L', 'L'] ++ rest) :=
      (List.prefix_append_right_inj ['O', 'R', 'D', 'E', 'R', ' ', 'B', 'Y']).mp h
    exact hsecond.not_isPrefix hsecond' (by decide) (by decide) _
      ((List.prefix_append [' ', 'N'] _).trans hrest)
  · have hrest : [' ', 'B', 'Y', ' ', 'N', 'U', 'L', 'L'] <+: first ++ ([' ', 'B', 'Y'] ++
        (second ++ ([' ', 'N', 'U', 'L', 'L'] ++ rest))) :=
      (List.prefix_append_right_inj ['O', 'R', 'D', 'E', 'R']).mp h
    exact hfirst.not_isPrefix hnil (by decide) (by decide) _
      ((List.prefix_append [' ', 'B'] _).trans hrest)

/-- Where something else than the clause stands behind blanks, nothing is removed. -/
theorem nullOrderingRest?_eq_none {pad tail : List Char} {c : Char}
    (hpad : ∀ b ∈ pad, Text.isBlank b = true) (hc : Text.isBlank c = false)
    (h : ¬ nullOrdering <+: c :: tail) : nullOrderingRest? previous (pad ++ c :: tail) = none := by
  rw [Option.eq_none_iff_forall_ne_some]
  intro rest hsome
  obtain ⟨blanks, hsplit, hblanks, -⟩ := nullOrderingRest?_eq_some_iff.mp hsome
  have hdrop := congrArg (List.dropWhile Text.isBlank) hsplit
  rw [List.dropWhile_append_of_pos hpad, List.dropWhile_append_of_pos hblanks,
    List.dropWhile_cons_of_neg (by rw [hc]; decide)] at hdrop
  refine h ⟨rest, ?_⟩
  rw [hdrop]
  rfl

theorem not_isPrefix_of_ne {c : Char} (hc : c ≠ 'O') (tail : List Char) :
    ¬ nullOrdering <+: c :: tail := by
  rintro ⟨more, hmore⟩
  exact hc (List.cons.inj hmore).1.symm

/-- Neither blank nor what a clause begins with. -/
def isInner (c : Char) : Bool :=
  c ≠ 'O' && !Text.isBlank c

theorem isInner_iff {c : Char} : isInner c = true ↔ c ≠ 'O' ∧ Text.isBlank c = false := by
  simp [isInner]

/-- Letters of the clause behind its first one are kept. -/
theorem strippedFrom_letters {letters : List Char} (h : letters.all isInner = true)
    (previous : Option Char) (t : List Char) :
    strippedFrom previous (letters ++ t) =
      letters ++ strippedFrom (letters.getLast?.or previous) t := by
  induction letters generalizing previous with
  | nil => rfl
  | cons c letters ih =>
    rw [List.all_cons, Bool.and_eq_true_iff] at h
    obtain ⟨hc, hblank⟩ := isInner_iff.mp h.1
    rw [getLast?_cons_or, List.cons_append, List.cons_append, ← ih h.2]
    exact strippedFrom_kept
      (nullOrderingRest?_eq_none (List.forall_mem_nil _) hblank (not_isPrefix_of_ne hc _))

/-- So are letters with a space before them. -/
theorem strippedFrom_space {c : Char} {letters : List Char}
    (h : (c :: letters).all isInner = true) (previous : Option Char) (t : List Char) :
    strippedFrom previous (' ' :: ((c :: letters) ++ t)) =
      ' ' :: ((c :: letters) ++ strippedFrom ((c :: letters).getLast?.or (some ' ')) t) := by
  obtain ⟨hc, hblank⟩ := isInner_iff.mp (List.all_eq_true.mp h c List.mem_cons_self)
  rw [← strippedFrom_letters h]
  refine strippedFrom_kept (@nullOrderingRest?_eq_none previous [' '] (letters ++ t) c ?_ hblank
    (not_isPrefix_of_ne hc _))
  intro b hb
  rw [List.mem_singleton.mp hb]
  decide

/-- Of a torn clause the clause is left. -/
theorem strippedFrom_torn (hfirst : Clauses first) (hsecond : Clauses second)
    (hne : ¬ (first = [] ∧ second = [])) (previous : Option Char) (rest : List Char) :
    strippedFrom previous (torn first second rest) =
      nullOrdering ++ strippedFrom nullOrdering.getLast? rest := by
  have hkept : nullOrderingRest? previous (torn first second rest) = none :=
    nullOrderingRest?_eq_none (List.forall_mem_nil _) (by decide)
      (not_isPrefix_torn hfirst hsecond hne rest)
  have hspace : isBoundary (some ' ') = true := by decide +kernel
  obtain ⟨p, hp⟩ := hfirst.strippedFrom_append (t := [' ', 'B', 'Y'] ++ (second ++
    ([' ', 'N', 'U', 'L', 'L'] ++ rest))) hspace (some 'R')
  obtain ⟨q, hq⟩ := hsecond.strippedFrom_append (t := [' ', 'N', 'U', 'L', 'L'] ++ rest)
    hspace (some 'Y')
  calc strippedFrom previous (torn first second rest)
    _ = 'O' :: strippedFrom (some 'O') (['R', 'D', 'E', 'R'] ++ (first ++ ([' ', 'B', 'Y'] ++
        (second ++ ([' ', 'N', 'U', 'L', 'L'] ++ rest))))) := strippedFrom_kept hkept
    _ = ['O', 'R', 'D', 'E', 'R'] ++ strippedFrom (some 'R') (first ++ ([' ', 'B', 'Y'] ++
        (second ++ ([' ', 'N', 'U', 'L', 'L'] ++ rest)))) := by
      rw [strippedFrom_letters (by decide)]
      rfl
    _ = ['O', 'R', 'D', 'E', 'R'] ++ ([' ', 'B', 'Y'] ++ strippedFrom (some 'Y')
        (second ++ ([' ', 'N', 'U', 'L', 'L'] ++ rest))) := by
      rw [hp]
      exact congrArg _ (@strippedFrom_space 'B' ['Y'] (by decide) p _)
    _ = ['O', 'R', 'D', 'E', 'R'] ++ ([' ', 'B', 'Y'] ++ ([' ', 'N', 'U', 'L', 'L'] ++
        strippedFrom (some 'L') rest)) := by
      rw [hq]
      exact congrArg _ (congrArg _ (@strippedFrom_space 'N' ['U', 'L', 'L'] (by decide) q rest))

/-- No clause that is removed begins before a place and goes on behind it, where an `O` stands but
not the whole clause. -/
theorem exists_of_append_eq {before core blanks : List Char} (hhead : core.head? = some 'O')
    (hcore : ¬ nullOrdering <+: core) (hblanks : ∀ c ∈ blanks, Text.isBlank c = true)
    (h : before ++ core = blanks ++ (nullOrdering ++ rest)) :
    ∃ more, before = blanks ++ (nullOrdering ++ more) ∧ rest = more ++ core := by
  obtain ⟨tail, rfl⟩ : ∃ tail, core = 'O' :: tail := by
    cases core with
    | nil => cases hhead
    | cons c tail => exact ⟨tail, congrArg (· :: tail) (Option.some.inj hhead)⟩
  rcases List.append_eq_append_iff.mp h with ⟨more, rfl, hmore⟩ | ⟨more, rfl, hmore⟩
  · -- The place is among the blanks or behind them.
    cases more with
    | nil => exact absurd ⟨rest, hmore.symm⟩ hcore
    | cons b more =>
      obtain ⟨rfl, -⟩ := List.cons.inj hmore
      exact absurd (hblanks 'O' (by simp)) (by decide)
  · rcases List.append_eq_append_iff.mp hmore with ⟨more', rfl, hrest⟩ | ⟨more', hclause, hrest⟩
    · exact ⟨more', rfl, hrest⟩
    · -- The clause has no `O` but its first letter.
      cases more with
      | nil => exact absurd ⟨rest, by rw [hclause]; exact hrest.symm⟩ hcore
      | cons c more =>
        cases more' with
        | nil =>
          refine ⟨[], ?_, hrest.symm⟩
          rw [hclause, List.append_nil, List.append_nil]
        | cons d more' =>
          have hd : d = 'O' := (List.cons.inj hrest).1.symm
          have hc : c = 'O' := (List.cons.inj hclause).1.symm
          have hcount := congrArg (List.count 'O') hclause
          rw [hd, hc, List.count_append, List.count_cons_self, List.count_cons_self] at hcount
          have hone : nullOrdering.count 'O' = 1 := by decide
          omega

/-- What stands before a torn clause is stripped on its own, and its last character is kept if it is
part of no word. -/
theorem strippedFrom_append {core : List Char} (hhead : core.head? = some 'O')
    (hcore : ¬ nullOrdering <+: core) (previous : Option Char) (before : List Char) :
    ∃ left, strippedFrom previous (before ++ core) =
        left ++ strippedFrom (before.getLast?.or previous) core ∧
      (isBoundary before.getLast? = true → left.getLast? = before.getLast?) := by
  generalize hs : before ++ core = s
  induction previous, s using strippedFrom_induction generalizing before with
  | nil previous =>
    rw [(List.append_eq_nil_iff.mp hs).2] at hhead
    cases hhead
  | kept previous c tail hnone ih =>
    cases before with
    | nil => exact ⟨[], congrArg _ hs.symm, fun _ => rfl⟩
    | cons d before =>
      obtain ⟨rfl, htail⟩ := List.cons.inj hs
      obtain ⟨left, hleft, hlast⟩ := ih before htail
      refine ⟨d :: left, ?_, fun hboundary => ?_⟩
      · rw [strippedFrom_kept hnone, hleft, getLast?_cons_or]
        rfl
      · have hbefore : isBoundary before.getLast? = true := by
          cases before with
          | nil => rfl
          | cons e before => rwa [List.getLast?_cons_cons] at hboundary
        rw [List.getLast?_cons, List.getLast?_cons, hlast hbefore]
  | removed previous s rest hsome ih =>
    obtain ⟨blanks, rfl, hblanks, -⟩ := nullOrderingRest?_eq_some_iff.mp hsome
    obtain ⟨more, rfl, rfl⟩ := exists_of_append_eq hhead hcore hblanks hs
    obtain ⟨left, hleft, hlast⟩ := ih more rfl
    have hend : (blanks ++ (nullOrdering ++ more)).getLast? =
        more.getLast?.or nullOrdering.getLast? := by
      rw [List.getLast?_append, List.getLast?_append]
      cases more.getLast? <;> rfl
    refine ⟨left, ?_, fun hboundary => ?_⟩
    · rw [strippedFrom_removed hsome, hleft, hend]
      cases more.getLast? <;> rfl
    · rw [hend] at hboundary ⊢
      rcases hmore : more.getLast? with _ | c
      · rw [hmore, Option.none_or, isBoundary_getLast?_nullOrdering] at hboundary
        cases hboundary
      · rw [hmore] at hboundary hlast
        exact hlast hboundary

theorem hasNullOrdering_of_torn (h : HasTornOrdering s) : HasNullOrdering (stripped s) := by
  obtain ⟨before, first, second, rest, rfl, hfirst, hsecond, hne, hbefore, hrest⟩ := h
  obtain ⟨left, hleft, hlast⟩ := strippedFrom_append rfl
    (not_isPrefix_torn hfirst hsecond hne rest) none before
  refine ⟨left, strippedFrom nullOrdering.getLast? rest, ?_, ?_, ?_⟩
  · rw [← strippedFrom_none_eq, hleft, strippedFrom_torn hfirst hsecond hne]
  · rw [hlast hbefore]
    exact hbefore
  · rw [isBoundary_head?_strippedFrom isBoundary_getLast?_nullOrdering]
    exact hrest

/-- **Removing the null ordering again.** It removes nothing more exactly if no clause of the text is
torn by others, and a clause is left exactly if one is. -/
theorem stripNullOrdering_again_iff (s : String) :
    (stripNullOrdering (stripNullOrdering s) = stripNullOrdering s ↔
        ¬ HasTornOrdering s.toList) ∧
      (HasNullOrdering (stripNullOrdering s).toList ↔ HasTornOrdering s.toList) := by
  have hleft : HasNullOrdering (stripNullOrdering s).toList ↔ HasTornOrdering s.toList := by
    rw [toList_stripNullOrdering]
    exact ⟨hasTornOrdering_of_stripped, hasNullOrdering_of_torn⟩
  exact ⟨stripNullOrdering_eq_iff.trans (not_congr hleft), hleft⟩

/-- What is left of a clause inside of another one is the other one. -/
theorem stripNullOrdering_torn :
    stripNullOrdering "ORDER ORDER BY NULL BY NULL" = "ORDER BY NULL" ∧
      stripNullOrdering (stripNullOrdering "ORDER ORDER BY NULL BY NULL") ≠
        stripNullOrdering "ORDER ORDER BY NULL BY NULL" := by
  decide +kernel

end SqlCompiler.Sql
