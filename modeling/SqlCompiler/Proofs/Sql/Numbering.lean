import SqlCompiler.Proofs.Sql.Literals
import SqlCompiler.Proofs.Sql.NullOrdering
import SqlCompiler.Proofs.Sql.Supply

/-!
# Numbering the placeholders of a fragment

The text of a fragment no longer tells a placeholder from a question mark of a name or of a
literal. `Fragment.cells` does: it is the text with each placeholder as a cell of its own, and
`Fragment.numbered` is what numbering ought to give. Numbering is a scan of the text instead. It
gives the same exactly when no null ordering is removed and the scan tells the question marks
apart: the placeholders are outside of literals, and all other question marks inside
(`numberMarks_render_eq_iff`).
-/

namespace SqlCompiler

/-! ## Digits -/

namespace Text

theorem digitsOn_append (base n : Nat) (s t : List Char) :
    digitsOn base n s ++ t = digitsOn base n (s ++ t) := by
  fun_induction digitsOn base n s with
  | case1 n s h => rw [digitsOn, dif_pos h]; rfl
  | case2 n s h ih => rw [ih, digitsOn.eq_def base n, dif_neg h]; rfl

theorem digitsOn_inj {base n : Nat} {s t : List Char} :
    digitsOn base n s = digitsOn base n t ↔ s = t := by
  rw [← List.nil_append s, ← List.nil_append t, ← digitsOn_append, ← digitsOn_append,
    List.append_cancel_left_eq, List.nil_append, List.nil_append]

/-- A number has no letter among its decimal digits. -/
theorem count_digitsOn {c : Char} (hc : ∀ d < 10, Nat.digitChar d ≠ c) (n : Nat) (s : List Char) :
    (digitsOn 10 n s).count c = s.count c := by
  fun_induction digitsOn 10 n s with
  | case1 n s h => rw [List.count_cons_of_ne (hc n (by omega))]
  | case2 n s h ih => rw [ih, List.count_cons_of_ne (hc (n % 10) (by omega))]

end Text

namespace Sql

/-! ## Cells -/

/-- A place of a statement's text: a character that is just text, or a placeholder. -/
inductive Cell
  | plain (c : Char)
  | placeholder
deriving DecidableEq

/-- The character of a cell. -/
def Cell.char : Cell → Char
  | plain c => c
  | placeholder => '?'

/-- The text of cells. -/
def cellText (cells : List Cell) : List Char :=
  cells.map Cell.char

/-- The text of cells with the placeholders numbered from `next` on. -/
def numberCells (next : Nat) : List Cell → List Char
  | [] => []
  | .placeholder :: rest => '$' :: Text.digitsOn 10 next (numberCells (next + 1) rest)
  | .plain c :: rest => c :: numberCells next rest

/-- Whether literals tell question marks apart: every question mark is a placeholder exactly if it
is outside of literals. The cells stand behind `text`. -/
def MarksAgree (text : List Char) (cells : List Cell) : Prop :=
  ∀ before cell after, cells = before ++ cell :: after → cell.char = '?' →
    (cell = .placeholder ↔ ¬ InLiteral (text ++ cellText before) (cellText after))

theorem marksAgree_nil (text : List Char) : MarksAgree text [] := by
  intro before cell after h
  simp at h

theorem marksAgree_cons {text : List Char} {cell : Cell} {cells : List Cell} :
    MarksAgree text (cell :: cells) ↔
      (cell.char = '?' → (cell = .placeholder ↔ ¬ InLiteral text (cellText cells))) ∧
        MarksAgree (text ++ [cell.char]) cells := by
  constructor
  · intro h
    refine ⟨fun hcell => ?_, fun before cell' after heq hcell => ?_⟩
    · have hfirst := h [] cell cells rfl hcell
      rwa [cellText, List.map_nil, List.append_nil] at hfirst
    · have hrest := h (cell :: before) cell' after (congrArg (cell :: ·) heq) hcell
      rwa [cellText, List.map_cons, ← List.singleton_append, ← List.append_assoc] at hrest
  · rintro ⟨hfirst, hrest⟩ before cell' after heq hcell
    cases before with
    | nil =>
      cases heq
      rw [cellText, List.map_nil, List.append_nil]
      exact hfirst hcell
    | cons b before =>
      cases heq
      rw [cellText, List.map_cons, ← List.singleton_append, ← List.append_assoc]
      exact hrest before cell' after rfl hcell

/-- Numbering by the rule for literals numbers the placeholders exactly if literals tell question
marks apart. -/
theorem numberOutside_cellText_eq_iff (cells : List Cell) (next : Nat) (text : List Char) :
    numberOutside next text (cellText cells) = numberCells next cells ↔ MarksAgree text cells := by
  induction cells generalizing next text with
  | nil => exact iff_of_true rfl (marksAgree_nil text)
  | cons cell cells ih =>
    rw [marksAgree_cons]
    show numberOutside next text (cell.char :: cellText cells) = _ ↔ _
    by_cases hmark : cell.char = '?'
    · rw [hmark]
      -- A question mark taken otherwise shows: one text has it, the other a dollar sign.
      by_cases hin : InLiteral text (cellText cells)
      · rw [numberOutside_mark_of_inLiteral hin]
        cases cell with
        | placeholder => simp [numberCells, hin]
        | plain c =>
          obtain rfl : c = '?' := hmark
          rw [numberCells, List.cons.injEq, ih]
          simp [hin]
      · rw [numberOutside_mark_of_not_inLiteral hin]
        cases cell with
        | placeholder =>
          rw [numberCells, List.cons.injEq, Text.digitsOn_inj, ih]
          simp [hin]
        | plain c =>
          obtain rfl : c = '?' := hmark
          simp [numberCells, hin]
    · rw [numberOutside_of_not_mark hmark]
      cases cell with
      | placeholder => exact absurd rfl hmark
      | plain c =>
        rw [numberCells]
        show c :: _ = _ ↔ _
        rw [List.cons.injEq, ih]
        simp [hmark]

/-! ## Cells without surprises -/

/-- Runs over cells, from a place inside of a literal or outside: no question mark may be just text,
and no placeholder inside of a literal. The result tells where the cells end. -/
def runCells : Bool → List Cell → Option Bool
  | inside, [] => some inside
  | inside, .plain c :: rest =>
    if c = '?' then none else runCells (if c = '\'' then !inside else inside) rest
  | inside, .placeholder :: rest => if inside then none else runCells false rest

theorem runCells_append (inside : Bool) (cells more : List Cell) :
    runCells inside (cells ++ more) = (runCells inside cells).bind (runCells · more) := by
  induction cells generalizing inside with
  | nil => rfl
  | cons cell cells ih =>
    cases cell with
    | plain c =>
      rw [List.cons_append, runCells, runCells]
      split
      · rfl
      · exact ih _
    | placeholder =>
      rw [List.cons_append, runCells, runCells]
      split
      · rfl
      · exact ih _

/-- Where a run tells that a literal is open, an odd number of apostrophes stands before. -/
theorem marksAgree_of_runCells {inside last : Bool} {text : List Char} {cells : List Cell}
    (h : runCells inside cells = some last)
    (htext : text.count '\'' % 2 = if inside then 1 else 0) : MarksAgree text cells := by
  induction cells generalizing inside text with
  | nil => exact marksAgree_nil text
  | cons cell cells ih =>
    rw [marksAgree_cons]
    cases cell with
    | plain c =>
      unfold runCells at h
      by_cases hmark : c = '?'
      · rw [if_pos hmark] at h
        cases h
      · rw [if_neg hmark] at h
        refine ⟨fun hc => absurd hc hmark, ih h ?_⟩
        show (text ++ [c]).count '\'' % 2 = _
        rw [List.count_append, List.count_singleton]
        by_cases hquote : c = '\''
        · rw [if_pos hquote, if_pos (by simpa using hquote)]
          cases inside <;> simp only [Bool.not_true, Bool.not_false, if_true, Bool.false_eq_true,
            if_false] at htext ⊢ <;> omega
        · rw [if_neg hquote, if_neg (by simpa using hquote)]
          exact htext
    | placeholder =>
      unfold runCells at h
      cases inside with
      | true => cases h
      | false =>
        rw [if_neg Bool.false_ne_true] at h htext
        refine ⟨fun _ => iff_of_true rfl (not_inLiteral_of_even htext _), ih h ?_⟩
        rw [if_neg Bool.false_ne_true, List.count_append]
        exact htext

/-- A text of whole literals and without question marks. -/
def IsCalm (s : List Char) : Prop :=
  '?' ∉ s ∧ s.count '\'' % 2 = 0

instance (s : List Char) : Decidable (IsCalm s) :=
  inferInstanceAs (Decidable (_ ∧ _))

theorem runCells_map_plain {s : List Char} (hs : '?' ∉ s) (inside : Bool) :
    runCells inside (s.map .plain) = some (inside ^^ decide (s.count '\'' % 2 = 1)) := by
  induction s generalizing inside with
  | nil => simp [runCells]
  | cons c s ih =>
    rw [List.mem_cons, not_or] at hs
    rw [List.map_cons, runCells, if_neg (Ne.symm hs.1), ih hs.2]
    by_cases hquote : c = '\''
    · rw [if_pos hquote, hquote, List.count_cons_self]
      rcases Nat.mod_two_eq_zero_or_one (s.count '\'') with h | h <;>
        cases inside <;> simp [h, Nat.add_mod]
    · rw [if_neg hquote, List.count_cons_of_ne hquote]

theorem runCells_of_isCalm {s : List Char} (hs : IsCalm s) :
    runCells false (s.map .plain) = some false := by
  rw [runCells_map_plain hs.1, hs.2]
  rfl

/-! ## The letter of the null ordering -/

theorem digitChar_ne_O : ∀ d < 10, Nat.digitChar d ≠ 'O' := by decide

theorem count_numberOutside (next : Nat) (before s : List Char) :
    (numberOutside next before s).count 'O' = s.count 'O' := by
  induction s generalizing next before with
  | nil => rfl
  | cons c s ih =>
    rw [numberOutside]
    split
    · rename_i h
      rw [h.1, List.count_cons_of_ne (by decide), Text.count_digitsOn digitChar_ne_O, ih,
        List.count_cons_of_ne (by decide)]
    · simp only [List.count_cons, ih]

theorem count_numberCells (next : Nat) (cells : List Cell) :
    (numberCells next cells).count 'O' = (cellText cells).count 'O' := by
  induction cells generalizing next with
  | nil => rfl
  | cons cell cells ih =>
    show _ = (cell.char :: cellText cells).count 'O'
    cases cell with
    | plain c =>
      show (c :: numberCells next cells).count 'O' = (c :: cellText cells).count 'O'
      simp only [List.count_cons, ih]
    | placeholder =>
      rw [numberCells, List.count_cons_of_ne (by decide), Text.count_digitsOn digitChar_ne_O, ih]
      exact (List.count_cons_of_ne (by decide)).symm

/-! ## The cells of a fragment -/

namespace Fragment

variable {quote : String}

mutual

/-- The cells of a fragment. -/
def cells (quote : String) : Fragment → List Cell
  | placeholder => [.placeholder]
  | sequence parts => cellsOfAll quote parts
  | f => (f.render quote).toList.map .plain

/-- The cells of fragments, one behind the other. -/
def cellsOfAll (quote : String) : List Fragment → List Cell
  | [] => []
  | part :: rest => cells quote part ++ cellsOfAll quote rest

end

/-- The text of a fragment with its placeholders numbered from one on. -/
def numbered (quote : String) (f : Fragment) : String :=
  String.ofList (numberCells 1 (f.cells quote))

theorem cellText_map_plain (s : List Char) : cellText (s.map .plain) = s := by
  unfold cellText
  rw [List.map_map]
  exact List.map_id s

theorem count_placeholder_map_plain (s : List Char) : (s.map Cell.plain).count .placeholder = 0 := by
  rw [List.count_eq_zero, List.mem_map]
  rintro ⟨c, _, hc⟩
  cases hc

mutual

theorem cellText_cells : ∀ f : Fragment, cellText (f.cells quote) = (f.render quote).toList
  | verbatim _ | identifier _ | literal _ => by
    unfold cells
    exact cellText_map_plain _
  | placeholder => by
    show cellText [.placeholder] = "?".toList
    decide
  | sequence parts => by
    unfold cells render
    exact cellText_cellsOfAll parts

theorem cellText_cellsOfAll : ∀ parts : List Fragment,
    cellText (cellsOfAll quote parts) = (renderAll quote parts).toList
  | [] => rfl
  | part :: rest => by
    unfold cellsOfAll renderAll
    rw [String.toList_append, ← cellText_cells part, ← cellText_cellsOfAll rest]
    exact List.map_append

end

mutual

theorem count_cells : ∀ f : Fragment, (f.cells quote).count .placeholder = f.placeholders
  | verbatim _ | identifier _ | literal _ => by
    unfold cells placeholders
    exact count_placeholder_map_plain _
  | placeholder => rfl
  | sequence parts => by
    unfold cells placeholders
    exact count_cellsOfAll parts

theorem count_cellsOfAll : ∀ parts : List Fragment,
    (cellsOfAll quote parts).count .placeholder = placeholdersIn parts
  | [] => rfl
  | part :: rest => by
    unfold cellsOfAll placeholdersIn
    rw [List.count_append, count_cells part, count_cellsOfAll rest]

end

/-- Numbering the text of a fragment that keeps all its text. -/
theorem numberMarks_render_of_strip {f : Fragment}
    (h : stripNullOrdering (f.render quote) = f.render quote) :
    numberMarks (f.render quote) = f.numbered quote ↔ MarksAgree [] (f.cells quote) := by
  unfold numberMarks numbered
  rw [h, String.ofList_inj, numberTokens_markedTokens _ 1 [] rfl, ← cellText_cells]
  exact numberOutside_cellText_eq_iff _ 1 []

/-- **Numbering a fragment.** The scan of a fragment's text numbers its placeholders and leaves the
rest alone exactly if there is no null ordering to remove and literals tell its question marks
apart. -/
theorem numberMarks_render_eq_iff {f : Fragment} :
    numberMarks (f.render quote) = f.numbered quote ↔
      stripNullOrdering (f.render quote) = f.render quote ∧ MarksAgree [] (f.cells quote) := by
  constructor
  · intro h
    -- Numbering writes no letters, so a clause that was removed is missing from the result.
    have hstrip : stripNullOrdering (f.render quote) = f.render quote := by
      refine stripNullOrdering_eq_of_count ?_
      have hcount := congrArg (fun s => s.toList.count 'O') h
      unfold numberMarks numbered at hcount
      rwa [String.toList_ofList, String.toList_ofList,
        numberTokens_markedTokens _ 1 [] rfl, count_numberOutside, count_numberCells,
        cellText_cells] at hcount
    exact ⟨hstrip, (numberMarks_render_of_strip hstrip).mp h⟩
  · rintro ⟨hstrip, hmarks⟩
    exact (numberMarks_render_of_strip hstrip).mpr hmarks

mutual

/-- A fragment all of whose texts are calm. -/
def IsCalm (quote : String) : Fragment → Prop
  | placeholder => True
  | sequence parts => AreCalm quote parts
  | f => Sql.IsCalm (f.render quote).toList

/-- Fragments all of whose texts are calm. -/
def AreCalm (quote : String) : List Fragment → Prop
  | [] => True
  | part :: rest => IsCalm quote part ∧ AreCalm quote rest

end

theorem areCalm_interleave {s : Fragment} {fs : List Fragment} (hs : s.IsCalm quote)
    (h : AreCalm quote fs) : AreCalm quote (interleave s fs) := by
  induction fs with
  | nil => exact trivial
  | cons f fs ih =>
    cases fs with
    | nil => exact h
    | cons g fs => exact ⟨h.1, hs, ih h.2⟩

theorem areCalm_map {α : Type} {f : α → Fragment} {xs : List α}
    (h : ∀ x ∈ xs, (f x).IsCalm quote) : AreCalm quote (xs.map f) := by
  induction xs with
  | nil => exact trivial
  | cons x xs ih =>
    obtain ⟨hx, hxs⟩ := List.forall_mem_cons.mp h
    exact ⟨hx, ih hxs⟩

mutual

theorem runCells_cells : ∀ {f : Fragment}, f.IsCalm quote →
    runCells false (f.cells quote) = some false
  | verbatim _, h | identifier _, h | literal _, h => by
    unfold cells
    unfold IsCalm at h
    exact runCells_of_isCalm h
  | placeholder, _ => rfl
  | sequence parts, h => by
    unfold cells
    unfold IsCalm at h
    exact runCells_cellsOfAll h

theorem runCells_cellsOfAll : ∀ {parts : List Fragment}, AreCalm quote parts →
    runCells false (cellsOfAll quote parts) = some false
  | [], _ => rfl
  | part :: rest, h => by
    unfold cellsOfAll
    rw [runCells_append, runCells_cells h.1]
    exact runCells_cellsOfAll h.2

end

/-- Literals tell the question marks of a calm fragment apart. -/
theorem IsCalm.marksAgree {f : Fragment} (h : f.IsCalm quote) : MarksAgree [] (f.cells quote) :=
  marksAgree_of_runCells (runCells_cells h) rfl

end Fragment

end Sql

end SqlCompiler
