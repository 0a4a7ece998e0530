import SqlCompiler.Dialect.Profile
import SqlCompiler.Proofs.Sql.Filling
import SqlCompiler.Sql.Inline

/-!
# Arguments in the places of a statement

Arguments are written in place of whatever looks like a mark: a question mark, or a dollar sign with
digits behind it. These are the places of the statement, and nothing else, if the marks are alone
(`MarksAlone`): no question mark stands inside of a literal, no other dollar sign stands before a
digit, and no digit goes on a number. Just then the arguments come into their places, whatever they
are (`inlineMarks_eq_iff`).
-/

namespace SqlCompiler.Sql

open Text

variable {style : PlaceholderStyle} {arguments : List Value} {before s : List Char}

/-! ## Marks and arguments -/

/-- The mark of the place behind `k` others, if numbers start with `next`. -/
def markText (style : PlaceholderStyle) (next k : Nat) : List Char :=
  match style with
  | .question => ['?']
  | .numbered => numberText next k

/-- The literal of the argument for the place behind `k` others. -/
def argumentText (arguments : List Value) (k : Nat) : List Char :=
  nextLiteral (arguments.drop k)

theorem markText_comp_succ (style : PlaceholderStyle) (next : Nat) :
    markText style next ∘ Nat.succ = markText style (next + 1) := by
  cases style with
  | question => rfl
  | numbered => exact numberText_comp_succ next

theorem argumentText_comp_succ (arguments : List Value) :
    argumentText arguments ∘ Nat.succ = argumentText arguments.tail := by
  funext k
  show nextLiteral (arguments.drop (k + 1)) = nextLiteral (arguments.tail.drop k)
  rw [List.drop_tail]

theorem isOneLine_markText (style : PlaceholderStyle) (next k : Nat) :
    IsOneLine (markText style next k) := by
  cases style with
  | question =>
    have hblank : ['?'].all (!isBlank ·) = true := by decide
    exact isOneLine_of_all (List.cons_ne_nil _ _) hblank
  | numbered => exact isOneLine_numberText next k

theorem isOneLine_argumentText (h : ∀ v ∈ arguments, IsOneLine (literal v).toList) (k : Nat) :
    IsOneLine (argumentText arguments k) := by
  unfold argumentText
  cases hdrop : arguments.drop k with
  | nil => exact isOneLine_of_all (by decide +kernel) (by decide +kernel)
  | cons v rest =>
    have hmem : v ∈ arguments.drop k := hdrop ▸ List.mem_cons_self
    exact h v (List.mem_of_mem_drop hmem)

/-- Question marks are put where they are. -/
theorem fillOutside_question (next : Nat) (before s : List Char) :
    fillOutside (markText .question next) before s = s := by
  induction s generalizing next before with
  | nil => rfl
  | cons c s ih =>
    unfold fillOutside
    rw [markText_comp_succ, ih, ih]
    split
    · rename_i hmark
      rw [hmark.1]
      rfl
    · rfl

/-- A mark begins with no digit. -/
theorem first_fillOutside_markText (next : Nat) (before s : List Char) :
    (fillOutside (markText style next) before s).head?.any isDecimalDigit =
      s.head?.any isDecimalDigit := by
  cases s with
  | nil => rfl
  | cons c s =>
    unfold fillOutside
    split
    · rename_i hmark
      rw [hmark.1]
      have hsame : isDecimalDigit '$' = isDecimalDigit '?' := by decide +kernel
      cases style with
      | question => rfl
      | numbered => exact hsame
    · rfl

/-! ## What counts as a mark -/

theorem isDecimalDigit_of_isDigit {c : Char} (h : c.isDigit = true) : isDecimalDigit c = true := by
  have hrange := toNat_of_isDigit h
  have hzero : 48 ∈ digitZeros := by decide +kernel
  unfold isDecimalDigit decimalDigit?
  rw [List.findSome?_isSome_iff]
  refine ⟨48, hzero, ?_⟩
  rw [if_pos (by simp; omega)]
  rfl

theorem inlineMarks_mark (arguments : List Value) (s : List Char) :
    inlineMarks arguments ('?' :: s) =
      nextLiteral arguments ++ inlineMarks arguments.tail s := by
  rw [inlineMarks, if_pos rfl]

theorem inlineMarks_dollar (arguments : List Value) (h : s.head?.any isDecimalDigit = true) :
    inlineMarks arguments ('$' :: s) =
      nextLiteral arguments ++ inlineMarks arguments.tail (s.dropWhile isDecimalDigit) := by
  rw [inlineMarks, if_neg (by decide), if_pos ⟨rfl, h⟩]

theorem inlineMarks_copied {c : Char} (hmark : c ≠ '?')
    (hdollar : c = '$' → s.head?.any isDecimalDigit = false) (arguments : List Value) :
    inlineMarks arguments (c :: s) = c :: inlineMarks arguments s := by
  have hnone : ¬ (c = '$' ∧ s.head?.any isDecimalDigit = true) := fun h =>
    Bool.false_ne_true ((hdollar h.1).symm.trans h.2)
  rw [inlineMarks, if_neg hmark, if_neg hnone]

theorem dropWhile_of_first {p : Char → Bool} (h : s.head?.any p = false) : s.dropWhile p = s := by
  cases s with
  | nil => rfl
  | cons c s => exact List.dropWhile_cons_of_neg (Bool.eq_false_iff.mp h)

theorem first_dropWhile (p : Char → Bool) (s : List Char) :
    (s.dropWhile p).head?.any p = false := by
  induction s with
  | nil => rfl
  | cons c s ih =>
    cases hc : p c with
    | true => rw [List.dropWhile_cons_of_pos hc, ih]
    | false =>
      rw [List.dropWhile_cons_of_neg (Bool.eq_false_iff.mp hc)]
      exact hc

/-- What is left behind a mark. The digits behind a number count as digits of it. -/
def behindMark (style : PlaceholderStyle) (s : List Char) : List Char :=
  match style with
  | .question => s
  | .numbered => s.dropWhile isDecimalDigit

theorem behindMark_fillOutside (next : Nat) (before : List Char)
    (h : style = .numbered → s.head?.any isDecimalDigit = false) :
    behindMark style (fillOutside (markText style next) before s) =
      fillOutside (markText style next) before s := by
  cases style with
  | question => rfl
  | numbered => exact dropWhile_of_first ((first_fillOutside_markText next before s).trans (h rfl))

/-- A mark counts as one. -/
theorem inlineMarks_markText (arguments : List Value) (next k : Nat) (s : List Char) :
    inlineMarks arguments (markText style next k ++ s) =
      nextLiteral arguments ++ inlineMarks arguments.tail (behindMark style s) := by
  cases style with
  | question => exact inlineMarks_mark arguments s
  | numbered =>
    have hdigits : ∀ c ∈ digitsOn 10 (next + k) [], isDecimalDigit c = true := by
      intro c hc
      rw [digitsOn_eq (by decide), List.append_nil] at hc
      exact isDecimalDigit_of_isDigit (Nat.isDigit_of_mem_toDigits (by decide) (by decide) hc)
    have hne : digitsOn 10 (next + k) [] ≠ [] := by
      rw [digitsOn_eq (by decide), List.append_nil]
      exact Nat.toDigits_ne_nil
    obtain ⟨d, rest, hcons⟩ := List.exists_cons_of_ne_nil hne
    have hfirst : (digitsOn 10 (next + k) [] ++ s).head?.any isDecimalDigit = true := by
      rw [hcons] at hdigits ⊢
      exact hdigits d List.mem_cons_self
    show inlineMarks arguments ('$' :: (digitsOn 10 (next + k) [] ++ s)) = _
    rw [inlineMarks_dollar arguments hfirst, List.dropWhile_append_of_pos hdigits]
    rfl

/-! ## Marks alone -/

/-- What looks like a mark in the part of a statement behind `before` is one: no question mark is
inside of a literal, there are no numbers of its own, and no number is gone on by a digit. -/
structure MarksAlone (style : PlaceholderStyle) (before s : List Char) : Prop where
  outside : ∀ first last, s = first ++ '?' :: last → ¬ InLiteral (before ++ first) last
  numberless : ∀ c, isDecimalDigit c = true → ¬ ['$', c] <:+: s
  apart : style = .numbered → ∀ c, isDecimalDigit c = true → ¬ ['?', c] <:+: s

theorem marksAlone_nil : MarksAlone style before [] where
  outside first last h := by simp at h
  numberless c _ h := by simp at h
  apart _ c _ h := by simp at h

theorem pair_infix_cons_iff {a b c : Char} :
    [a, b] <:+: c :: s ↔ (c = a ∧ s.head? = some b) ∨ [a, b] <:+: s := by
  rw [List.infix_cons_iff, List.cons_prefix_cons]
  cases s with
  | nil => simp
  | cons d s => simp [List.cons_prefix_cons, eq_comm]

theorem forall_mark_cons_iff {c : Char} :
    (∀ first last, c :: s = first ++ '?' :: last → ¬ InLiteral (before ++ first) last) ↔
      (c = '?' → ¬ InLiteral before s) ∧
      ∀ first last, s = first ++ '?' :: last → ¬ InLiteral (before ++ [c] ++ first) last := by
  constructor
  · refine fun h => ⟨?_, ?_⟩
    · rintro rfl
      have hhere := h [] s rfl
      rwa [List.append_nil] at hhere
    · rintro first last rfl
      have hlater := h (c :: first) last rfl
      rwa [List.append_cons] at hlater
  · rintro ⟨hhere, hlater⟩ first last hsplit
    cases first with
    | nil =>
      obtain ⟨rfl, rfl⟩ := List.cons.inj hsplit
      rw [List.append_nil]
      exact hhere rfl
    | cons d first =>
      obtain ⟨rfl, rfl⟩ := List.cons.inj hsplit
      rw [List.append_cons]
      exact hlater first last rfl

theorem forall_digit_cons_iff {c mark : Char} :
    (∀ d, isDecimalDigit d = true → ¬ [mark, d] <:+: c :: s) ↔
      (c = mark → s.head?.any isDecimalDigit = false) ∧
      ∀ d, isDecimalDigit d = true → ¬ [mark, d] <:+: s := by
  constructor
  · refine fun h => ⟨fun hc => Bool.eq_false_iff.mpr fun hdigit => ?_, fun d hd hmem => ?_⟩
    · obtain ⟨d, rest, rfl, hd⟩ := exists_cons_of_first hdigit
      exact h d hd (pair_infix_cons_iff.mpr (.inl ⟨hc, rfl⟩))
    · exact h d hd (pair_infix_cons_iff.mpr (.inr hmem))
  · rintro ⟨hhere, hlater⟩ d hd hmem
    rcases pair_infix_cons_iff.mp hmem with ⟨hc, hhead⟩ | hmem
    · have hnone := hhere hc
      rw [hhead] at hnone
      exact Bool.false_ne_true (hnone.symm.trans hd)
    · exact hlater d hd hmem

theorem marksAlone_cons_iff {c : Char} :
    MarksAlone style before (c :: s) ↔
      (c = '?' → ¬ InLiteral before s) ∧
      (c = '$' ∨ style = .numbered ∧ c = '?' → s.head?.any isDecimalDigit = false) ∧
      MarksAlone style (before ++ [c]) s := by
  constructor
  · intro h
    obtain ⟨hhere, houtside⟩ := forall_mark_cons_iff.mp h.outside
    obtain ⟨hdollar, hnumberless⟩ := forall_digit_cons_iff.mp h.numberless
    have hapart := fun hstyle => forall_digit_cons_iff.mp (h.apart hstyle)
    refine ⟨hhere, ?_, houtside, hnumberless, fun hstyle => (hapart hstyle).2⟩
    rintro (hc | ⟨hstyle, hc⟩)
    · exact hdollar hc
    · exact (hapart hstyle).1 hc
  · rintro ⟨hhere, hdigit, hrest⟩
    constructor
    case outside => exact forall_mark_cons_iff.mpr ⟨hhere, hrest.outside⟩
    case numberless =>
      exact forall_digit_cons_iff.mpr ⟨fun hc => hdigit (.inl hc), hrest.numberless⟩
    case apart =>
      intro hstyle
      exact forall_digit_cons_iff.mpr ⟨fun hc => hdigit (.inr ⟨hstyle, hc⟩), hrest.apart hstyle⟩

instance decidableMarksAlone (style : PlaceholderStyle) :
    (before s : List Char) → Decidable (MarksAlone style before s)
  | _, [] => isTrue marksAlone_nil
  | before, c :: s =>
    have := decidableMarksAlone style (before ++ [c]) s
    decidable_of_iff' _ marksAlone_cons_iff

/-- If the marks are alone, the arguments come into the places. -/
theorem inlineMarks_eq_fillOutside (h : MarksAlone style before s) (arguments : List Value)
    (next : Nat) :
    inlineMarks arguments (fillOutside (markText style next) before s) =
      fillOutside (argumentText arguments) before s := by
  induction s generalizing before arguments next with
  | nil => rw [fillOutside, inlineMarks]; rfl
  | cons c s ih =>
    obtain ⟨hout, hdigit, hrest⟩ := marksAlone_cons_iff.mp h
    by_cases hc : c = '?'
    · subst hc
      rw [fillOutside_mark (hout rfl), fillOutside_mark (hout rfl), markText_comp_succ,
        inlineMarks_markText, behindMark_fillOutside _ _ fun hstyle => hdigit (.inr ⟨hstyle, rfl⟩),
        argumentText_comp_succ, ih hrest]
      rfl
    · have hdollar : c = '$' → (fillOutside (markText style next) (before ++ [c]) s).head?.any
          isDecimalDigit = false := fun h => by
        rw [first_fillOutside_markText, hdigit (.inl h)]
      rw [fillOutside_of_ne hc, fillOutside_of_ne hc, inlineMarks_copied hc hdollar, ih hrest]

/-! ## Arguments out of place -/

/-- The literal of null, or that of a question mark where nothing is left. -/
theorem nextLiteral_replicate_null (n : Nat) :
    nextLiteral (List.replicate n .null) = "NULL".toList ∨
      nextLiteral (List.replicate n .null) = "'?'".toList := by
  cases n with
  | zero => exact .inr (by decide +kernel)
  | succ n => exact .inl rfl

/-- What stands in place of a mark begins like none, and with no digit. -/
theorem first_nextLiteral_append (n : Nat) (u : List Char) :
    ∃ c rest, nextLiteral (List.replicate n .null) ++ u = c :: rest ∧
      c ≠ '?' ∧ c ≠ '$' ∧ isDecimalDigit c = false := by
  rcases nextLiteral_replicate_null n with h | h
  · exact ⟨'N', "ULL".toList ++ u, by rw [h]; rfl, by decide, by decide, by decide +kernel⟩
  · exact ⟨'\'', "?'".toList ++ u, by rw [h]; rfl, by decide, by decide, by decide +kernel⟩

theorem first_inlineMarks_replicate_null (n : Nat) (h : s.head?.any isDecimalDigit = false) :
    (inlineMarks (List.replicate n .null) s).head?.any isDecimalDigit = false := by
  cases s with
  | nil => rw [inlineMarks]; rfl
  | cons c s =>
    rw [inlineMarks]
    split
    · obtain ⟨d, rest, hhead, -, -, hd⟩ := first_nextLiteral_append n
        (inlineMarks (List.replicate n .null).tail s)
      rw [hhead]
      exact hd
    · split
      · obtain ⟨d, rest, hhead, -, -, hd⟩ := first_nextLiteral_append n
          (inlineMarks (List.replicate n .null).tail (s.dropWhile isDecimalDigit))
        rw [hhead]
        exact hd
      · exact h

/-- Behind the digits of a number stands no digit, and nothing that begins with one comes there. -/
theorem first_of_inlineMarks_dropWhile {texts : Nat → List Char} {n : Nat} {later : List Char}
    (h : inlineMarks (List.replicate n .null) (later.dropWhile isDecimalDigit) =
      fillOutside texts before s) : s.head?.any isDecimalDigit = false := by
  refine Bool.eq_false_iff.mpr fun hdigit => ?_
  obtain ⟨d, rest, rfl, hd⟩ := exists_cons_of_first hdigit
  have hmark : d ≠ '?' := by
    rintro rfl
    exact absurd hd (by decide +kernel)
  have hfirst := first_inlineMarks_replicate_null n (first_dropWhile isDecimalDigit later)
  rw [h, fillOutside_of_ne hmark] at hfirst
  exact Bool.false_ne_true (hfirst.symm.trans hd)

/-- A character that stays in front is no mark. -/
theorem copied_of_inlineMarks_eq_cons {n : Nat} {c : Char} {t : List Char}
    (h : inlineMarks (List.replicate n .null) (c :: s) = c :: t) :
    c ≠ '?' ∧ (c = '$' → s.head?.any isDecimalDigit = false) := by
  constructor
  · rintro rfl
    obtain ⟨d, rest, hhead, hd, -⟩ := first_nextLiteral_append n _
    rw [inlineMarks_mark, hhead] at h
    exact hd (List.cons.inj h).1
  · rintro rfl
    refine Bool.eq_false_iff.mpr fun hdigit => ?_
    obtain ⟨d, rest, hhead, -, hd, -⟩ := first_nextLiteral_append n _
    rw [inlineMarks_dollar _ hdigit, hhead] at h
    exact hd (List.cons.inj h).1

/-- If nulls come into the places and nothing else changes, the marks are alone. -/
theorem marksAlone_of_inlineMarks {n next : Nat} (hcount : n = openMarks before s)
    (h : inlineMarks (List.replicate n .null) (fillOutside (markText style next) before s) =
      fillOutside (argumentText (List.replicate n .null)) before s) :
    MarksAlone style before s := by
  induction s generalizing before n next with
  | nil => exact marksAlone_nil
  | cons c s ih =>
    by_cases hplace : c = '?' ∧ ¬ InLiteral before s
    · obtain ⟨rfl, hout⟩ := hplace
      rw [openMarks_mark hout] at hcount
      rw [hcount, List.replicate_succ, fillOutside_mark hout, fillOutside_mark hout,
        markText_comp_succ, inlineMarks_markText, argumentText_comp_succ, List.tail_cons] at h
      have hbehind : inlineMarks (List.replicate _ .null) (behindMark style
          (fillOutside (markText style (next + 1)) (before ++ ['?']) s)) =
            fillOutside (argumentText (List.replicate _ .null)) (before ++ ['?']) s :=
        List.append_cancel_left h
      have hdigit : style = .numbered → s.head?.any isDecimalDigit = false := by
        rintro rfl
        exact first_of_inlineMarks_dropWhile hbehind
      rw [behindMark_fillOutside _ _ hdigit] at hbehind
      refine marksAlone_cons_iff.mpr ⟨fun _ => hout, ?_, ih rfl hbehind⟩
      rintro (hdollar | ⟨hstyle, -⟩)
      · exact absurd hdollar (by decide)
      · exact hdigit hstyle
    · rw [openMarks_copied hplace] at hcount
      rw [fillOutside_copied hplace, fillOutside_copied hplace] at h
      obtain ⟨hmark, hdollar⟩ := copied_of_inlineMarks_eq_cons h
      rw [inlineMarks_copied hmark hdollar] at h
      refine marksAlone_cons_iff.mpr ⟨fun hc => absurd hc hmark, ?_, ih hcount (List.cons.inj h).2⟩
      rintro (hc | ⟨-, hc⟩)
      · rw [← first_fillOutside_markText, hdollar hc]
      · exact absurd hc hmark

/-- **Marks and places.** The arguments come into the places of a statement, whatever they are,
exactly if its marks are alone. -/
theorem inlineMarks_eq_iff (style : PlaceholderStyle) (s : List Char) :
    (∀ arguments : List Value, arguments.length = openMarks [] s →
      inlineMarks arguments (fillOutside (markText style 1) [] s) =
        fillOutside (argumentText arguments) [] s) ↔ MarksAlone style [] s := by
  constructor
  · intro h
    exact marksAlone_of_inlineMarks rfl (h _ List.length_replicate)
  · intro h arguments _
    exact inlineMarks_eq_fillOutside h arguments 1

end SqlCompiler.Sql
