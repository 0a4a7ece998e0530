import SqlCompiler.Proofs.Sql.Literals

/-!
# Cutting a text into pieces

A scan cuts a text from left to right, each step taking a piece and leaving a rest (`Scan`). A scan
that takes literals whole, and else whatever it likes without an apostrophe (`PieceStep`), may take
other pieces than another one. Still all of them take the same literals
(`Scan.literalSpans_eq`), and what lies in these is told by counting apostrophes
(`Scan.inSpan_iff`).
-/

namespace SqlCompiler.Sql

variable {α β : Type}

/-! ## Scans -/

/-- The parts that a scan cuts a text into. `Step s t rest` says that the scan takes the part `t`
from the front of `s` and leaves `rest`. -/
inductive Scan (Step : List Char → α → List Char → Prop) : List Char → List α → Prop
  | done : Scan Step [] []
  | step {s rest : List Char} {t : α} {ts : List α} :
      Step s t rest → Scan Step rest ts → Scan Step s (t :: ts)

theorem Scan.map {Step : List Char → α → List Char → Prop}
    {Step' : List Char → β → List Char → Prop} {f : α → β}
    (hf : ∀ {s t rest}, Step s t rest → Step' s (f t) rest) {s : List Char} {ts : List α}
    (h : Scan Step s ts) : Scan Step' s (ts.map f) := by
  induction h with
  | done => exact .done
  | step hstep _ ih => exact .step (hf hstep) ih

/-- A part begins behind `before`. -/
def Begins (source : α → List Char) (parts : List α) (before : List Char) (t : α) : Prop :=
  ∃ earlier later, parts = earlier ++ t :: later ∧ earlier.flatMap source = before

/-- A part begins at the front, or behind the first part. -/
theorem begins_cons {source : α → List Char} {t u : α} {ts : List α} {before : List Char} :
    Begins source (t :: ts) before u ↔
      (before = [] ∧ t = u) ∨ ∃ rest, before = source t ++ rest ∧ Begins source ts rest u := by
  constructor
  · rintro ⟨earlier, later, h, rfl⟩
    cases earlier with
    | nil =>
      cases h
      exact .inl ⟨rfl, rfl⟩
    | cons e earlier =>
      cases h
      exact .inr ⟨earlier.flatMap source, List.flatMap_cons, earlier, later, rfl, rfl⟩
  · rintro (⟨rfl, rfl⟩ | ⟨rest, rfl, earlier, later, rfl, rfl⟩)
    · exact ⟨[], ts, rfl, rfl⟩
    · exact ⟨t :: earlier, later, rfl, List.flatMap_cons⟩

/-- Behind a part that is not empty, what begins is what begins in the rest. -/
theorem begins_cons_append {source : α → List Char} {t u : α} {ts : List α} {rest : List Char}
    (ht : source t ≠ []) :
    Begins source (t :: ts) (source t ++ rest) u ↔ Begins source ts rest u := by
  rw [begins_cons]
  constructor
  · rintro (⟨h, _⟩ | ⟨rest', h, hbegins⟩)
    · exact absurd (List.append_eq_nil_iff.mp h).1 ht
    · rwa [List.append_cancel_left h]
  · intro h
    exact .inr ⟨rest, rfl, h⟩

/-- Inside the first part nothing begins, but at its front. -/
theorem begins_cons_inside {source : α → List Char} {t u : α} {ts : List α}
    {before tail : List Char} {c : Char} (ht : source t = before ++ c :: tail) :
    Begins source (t :: ts) before u ↔ before = [] ∧ t = u := by
  rw [begins_cons, or_iff_left]
  rintro ⟨rest, h, _⟩
  have hlength := congrArg List.length h
  rw [ht] at hlength
  simp only [List.length_append, List.length_cons] at hlength
  omega

/-- A place behind the first piece, or in it. -/
theorem split_place {piece rest before after : List α} {c : α}
    (h : piece ++ rest = before ++ c :: after) :
    (∃ before', before = piece ++ before' ∧ rest = before' ++ c :: after) ∨
      ∃ tail, piece = before ++ c :: tail ∧ after = tail ++ rest := by
  rcases List.append_eq_append_iff.mp h with ⟨before', rfl, hrest⟩ | ⟨tail, rfl, hafter⟩
  · exact .inl ⟨before', rfl, hrest⟩
  · cases tail with
    | nil => exact .inl ⟨[], by simp, hafter.symm⟩
    | cons d tail =>
      cases hafter
      exact .inr ⟨tail, rfl, rfl⟩

/-! ## Scans that take literals whole -/

/-- A step that takes a literal from its first apostrophe to its last, or an apostrophe that no
other one follows, or characters that are no apostrophes. -/
inductive PieceStep : List Char → List Char → List Char → Prop
  | literal {rest body tail : List Char} :
      literalTail? rest = some (body, tail) → PieceStep ('\'' :: rest) ('\'' :: body) tail
  | unclosed {rest : List Char} : '\'' ∉ rest → PieceStep ('\'' :: rest) ['\''] rest
  | plain {piece rest : List Char} :
    piece ≠ [] → '\'' ∉ piece → PieceStep (piece ++ rest) piece rest

namespace PieceStep

variable {s piece rest text : List Char}

theorem append (h : PieceStep s piece rest) : piece ++ rest = s := by
  cases h with
  | literal htail => exact congrArg ('\'' :: ·) (literalTail?_append htail)
  | unclosed _ => rfl
  | plain _ _ => rfl

/-- A scan that starts outside of a literal goes on outside. -/
theorem outside (h : PieceStep s piece rest) (hout : ¬ InLiteral text s) :
    ¬ InLiteral (text ++ piece) rest := by
  rintro ⟨hodd, hmem⟩
  rw [List.count_append] at hodd
  cases h with
  | literal htail =>
    have heven : ¬ text.count '\'' % 2 = 1 := fun h => hout ⟨h, List.mem_cons_self⟩
    have hbody := count_of_literalTail? htail
    rw [List.count_cons_self] at hodd
    omega
  | unclosed hrest => exact hrest hmem
  | plain _ hpiece =>
    rw [List.count_eq_zero.mpr hpiece] at hodd
    exact hout ⟨hodd, List.mem_append_right _ hmem⟩

end PieceStep

/-- Before a character of a literal that is no apostrophe there is a whole number of doubled
apostrophes, and behind it the last apostrophe. -/
theorem inside_of_literalTail? {s body rest before tail : List Char} {c : Char}
    (h : literalTail? s = some (body, rest)) (hbody : body = before ++ c :: tail) (hc : c ≠ '\'') :
    before.count '\'' % 2 = 0 ∧ '\'' ∈ tail := by
  fun_induction literalTail? s generalizing body rest before with
  | case1 => cases h
  | case2 more b r hb ih =>
    cases h
    cases before with
    | nil => exact absurd (List.cons.inj hbody).1.symm hc
    | cons d before =>
      cases before with
      | nil => exact absurd (List.cons.inj (List.cons.inj hbody).2).1.symm hc
      | cons e before =>
        simp only [List.cons_append, List.cons.injEq] at hbody
        obtain ⟨rfl, rfl, hbody⟩ := hbody
        obtain ⟨heven, hmem⟩ := ih hb hbody
        refine ⟨?_, hmem⟩
        rw [List.count_cons_self, List.count_cons_self]
        omega
  | case3 more hb ih =>
    cases h
    cases before with
    | nil => exact absurd (List.cons.inj hbody).1.symm hc
    | cons d before => simp at hbody
  | case4 more =>
    cases h
    cases before with
    | nil => exact absurd (List.cons.inj hbody).1.symm hc
    | cons d before => simp at hbody
  | case5 d more _ hd ih =>
    obtain ⟨⟨b, r⟩, hb, he⟩ := Option.map_eq_some_iff.mp h
    cases he
    cases before with
    | nil =>
      cases hbody
      have hcount := count_of_literalTail? hb
      exact ⟨rfl, List.count_pos_iff.mp (by omega)⟩
    | cons e before =>
      cases hbody
      rw [List.count_cons_of_ne hd]
      exact ih hb rfl

/-- Of the characters of a piece that are no apostrophes, those of a literal are inside of a literal
by the rule, and no others. -/
theorem PieceStep.head?_eq_some_iff {s piece rest text before tail : List Char} {c : Char}
    (h : PieceStep s piece rest) (hout : ¬ InLiteral text s) (hpiece : piece = before ++ c :: tail)
    (hc : c ≠ '\'') :
    piece.head? = some '\'' ↔ InLiteral (text ++ before) (tail ++ rest) := by
  cases h with
  | @literal _ body _ htail =>
    refine iff_of_true rfl ?_
    cases before with
    | nil => exact absurd (List.cons.inj hpiece).1.symm hc
    | cons d before =>
      obtain ⟨rfl, hbody⟩ := List.cons.inj hpiece
      obtain ⟨heven, hmem⟩ := inside_of_literalTail? htail hbody hc
      have htext : ¬ text.count '\'' % 2 = 1 := fun h => hout ⟨h, List.mem_cons_self⟩
      refine ⟨?_, List.mem_append_left _ hmem⟩
      rw [List.count_append, List.count_cons_self]
      omega
  | unclosed _ =>
    cases before with
    | nil => exact absurd (List.cons.inj hpiece).1.symm hc
    | cons d before => simp at hpiece
  | plain _ hplain =>
    refine iff_of_false (fun hhead => hplain (List.mem_of_mem_head? hhead)) ?_
    rintro ⟨hodd, hmem⟩
    rw [hpiece, List.mem_append, List.mem_cons, not_or, not_or] at hplain
    rw [List.count_append, List.count_eq_zero.mpr hplain.1] at hodd
    have hrest : '\'' ∈ rest := (List.mem_append.mp hmem).resolve_left hplain.2.2
    exact hout ⟨hodd, List.mem_append_right _ hrest⟩

/-! ## The literals of a text -/

/-- The literals among the pieces of a text, each with the place where it begins. The pieces stand
behind `offset` characters. -/
def literalSpans (offset : Nat) : List (List Char) → List (Nat × List Char)
  | [] => []
  | piece :: rest =>
    if piece.head? = some '\'' then (offset, piece) :: literalSpans (offset + piece.length) rest
    else literalSpans (offset + piece.length) rest

/-- A place that lies in one of the spans. -/
def InSpan (spans : List (Nat × List Char)) (place : Nat) : Prop :=
  ∃ span ∈ spans, span.1 ≤ place ∧ place < span.1 + span.2.length

theorem offset_le_of_mem_literalSpans {offset : Nat} {pieces : List (List Char)}
    {span : Nat × List Char} (h : span ∈ literalSpans offset pieces) : offset ≤ span.1 := by
  induction pieces generalizing offset with
  | nil => cases h
  | cons piece rest ih =>
    unfold literalSpans at h
    split at h
    · rcases List.mem_cons.mp h with rfl | h
      · exact Nat.le_refl _
      · have := ih h
        omega
    · have := ih h
      omega

theorem literalSpans_cons_literal {offset : Nat} {piece : List Char} {rest : List (List Char)}
    (h : piece.head? = some '\'') : literalSpans offset (piece :: rest) =
      (offset, piece) :: literalSpans (offset + piece.length) rest := by
  rw [literalSpans, if_pos h]

theorem literalSpans_cons_plain {offset : Nat} {piece : List Char} {rest : List (List Char)}
    (h : piece.head? ≠ some '\'') :
    literalSpans offset (piece :: rest) = literalSpans (offset + piece.length) rest := by
  rw [literalSpans, if_neg h]

theorem inSpan_cons_of_lt {offset place : Nat} {piece : List Char} {rest : List (List Char)}
    (hle : offset ≤ place) (hlt : place < offset + piece.length) :
    InSpan (literalSpans offset (piece :: rest)) place ↔ piece.head? = some '\'' := by
  by_cases hhead : piece.head? = some '\''
  · rw [literalSpans_cons_literal hhead]
    exact iff_of_true ⟨_, List.mem_cons_self, hle, hlt⟩ hhead
  · rw [literalSpans_cons_plain hhead]
    refine iff_of_false ?_ hhead
    rintro ⟨span, hspan, hfirst, _⟩
    have := offset_le_of_mem_literalSpans hspan
    omega

theorem inSpan_cons_of_le {offset place : Nat} {piece : List Char} {rest : List (List Char)}
    (hle : offset + piece.length ≤ place) :
    InSpan (literalSpans offset (piece :: rest)) place ↔
      InSpan (literalSpans (offset + piece.length) rest) place := by
  by_cases hhead : piece.head? = some '\''
  · rw [literalSpans_cons_literal hhead]
    constructor
    · rintro ⟨span, hspan, hfirst, hlast⟩
      rcases List.mem_cons.mp hspan with rfl | hspan
      · dsimp only at hlast
        omega
      · exact ⟨span, hspan, hfirst, hlast⟩
    · rintro ⟨span, hspan, h⟩
      exact ⟨span, List.mem_cons_of_mem _ hspan, h⟩
  · rw [literalSpans_cons_plain hhead]

/-- **Literals by counting.** A character that is no apostrophe lies in a literal that the scan
takes exactly if an odd number of apostrophes stands before it and another one behind it. -/
theorem Scan.inSpan_iff {s : List Char} {pieces : List (List Char)} (h : Scan PieceStep s pieces)
    {text before after : List Char} {c : Char} (hout : ¬ InLiteral text s)
    (hs : s = before ++ c :: after) (hc : c ≠ '\'') (offset : Nat) :
    InSpan (literalSpans offset pieces) (offset + before.length) ↔
      InLiteral (text ++ before) after := by
  induction h generalizing text before offset with
  | done => simp at hs
  | @step s rest piece pieces hstep _ ih =>
    rw [← hstep.append] at hs
    rcases split_place hs with ⟨before', rfl, hrest⟩ | ⟨tail, hpiece, rfl⟩
    · rw [inSpan_cons_of_le (by simp), ← List.append_assoc, ← ih (hstep.outside hout) hrest,
        List.length_append, Nat.add_assoc]
    · rw [inSpan_cons_of_lt (by omega) (by rw [hpiece]; simp)]
      exact hstep.head?_eq_some_iff hout hpiece hc

/-! ## The same literals for all -/

/-- The text that a part was cut from. -/
def MarkedToken.source : MarkedToken → List Char
  | copied s => s
  | mark => ['?']

/-- What the scan for question marks takes is a single character, unless it is a literal. -/
theorem sources_markedTokens_of_ne {c : Char} (hc : c ≠ '\'') (rest : List Char) :
    (markedTokens (c :: rest)).map MarkedToken.source =
      [c] :: (markedTokens rest).map MarkedToken.source := by
  by_cases hm : c = '?'
  · rw [hm, markedTokens_mark]
    rfl
  · rw [markedTokens_of_ne hc hm]
    rfl

theorem literalSpans_markedTokens_append {piece : List Char} (hpiece : '\'' ∉ piece)
    (rest : List Char) (offset : Nat) :
    literalSpans offset ((markedTokens (piece ++ rest)).map MarkedToken.source) =
      literalSpans (offset + piece.length) ((markedTokens rest).map MarkedToken.source) := by
  induction piece generalizing offset with
  | nil => rfl
  | cons c piece ih =>
    rw [List.mem_cons, not_or] at hpiece
    have hhead : ([c] : List Char).head? ≠ some '\'' := fun h => hpiece.1 (Option.some.inj h).symm
    rw [List.cons_append, sources_markedTokens_of_ne (Ne.symm hpiece.1),
      literalSpans_cons_plain hhead, ih hpiece.2, List.length_singleton, List.length_cons,
      Nat.add_assoc, Nat.add_comm 1]

/-- **The same literals.** Whatever else a scan takes together, it takes the literals that the scan
for question marks takes. -/
theorem Scan.literalSpans_eq {s : List Char} {pieces : List (List Char)}
    (h : Scan PieceStep s pieces) (offset : Nat) :
    literalSpans offset pieces =
      literalSpans offset ((markedTokens s).map MarkedToken.source) := by
  induction h generalizing offset with
  | done => rw [markedTokens]; rfl
  | step hstep _ ih =>
    cases hstep with
    | literal htail =>
      rw [markedTokens_of_literal htail, List.map_cons, literalSpans_cons_literal rfl, ih]
      exact (literalSpans_cons_literal rfl).symm
    | unclosed hrest =>
      rw [markedTokens_of_unclosed (literalTail?_eq_none_iff.mpr hrest), List.map_cons,
        literalSpans_cons_literal rfl, ih]
      exact (literalSpans_cons_literal rfl).symm
    | plain _ hpiece =>
      rw [literalSpans_markedTokens_append hpiece,
        literalSpans_cons_plain fun hhead => hpiece (List.mem_of_mem_head? hhead), ih]

end SqlCompiler.Sql
