import Mathlib.Data.List.DropRight
import SqlCompiler.Text.Blank

/-!
# Texts on one line

Putting a text on one line makes each run of blanks a space and takes the blanks at its ends away,
and it keeps everything else (`filter_collapseBlanks`, `filter_trimBoth`). A text can be cut behind
a character that is no blank, and its parts be put on one line on their own
(`collapseBlanks_append`). What comes out are the pieces of the text that have no blanks, with one
space between each two (`trimBoth_collapseBlanks`).
-/

namespace SqlCompiler.Text

/-! ## Runs of blanks -/

/-- A text that is on one line, whatever it stands between: no blank is at its ends, and those
inside of it are single spaces. -/
structure IsOneLine (s : List Char) : Prop where
  first : s.head?.any (!isBlank ·) = true
  last : s.getLast?.any (!isBlank ·) = true
  collapsed : collapseBlanks s = s

/-- A space in front, unless there is one. -/
def spaced : List Char → List Char
  | ' ' :: rest => ' ' :: rest
  | s => ' ' :: s

theorem exists_cons_of_first {p : Char → Bool} {s : List Char} (h : s.head?.any p = true) :
    ∃ c rest, s = c :: rest ∧ p c = true := by
  cases s with
  | nil => cases h
  | cons c rest => exact ⟨c, rest, rfl, h⟩

theorem exists_concat_of_last {p : Char → Bool} {s : List Char} (h : s.getLast?.any p = true) :
    ∃ front c, s = front ++ [c] ∧ p c = true := by
  rcases List.eq_nil_or_concat s with rfl | ⟨front, c, rfl⟩
  · cases h
  · exact ⟨front, c, List.concat_eq_append, by simpa using h⟩

theorem spaced_of_head?_ne {s : List Char} (h : s.head? ≠ some ' ') : spaced s = ' ' :: s := by
  unfold spaced
  split
  · exact absurd rfl h
  · rfl

theorem spaced_append {s : List Char} (h : s ≠ []) (t : List Char) :
    spaced (s ++ t) = spaced s ++ t := by
  obtain ⟨c, s, rfl⟩ := List.exists_cons_of_ne_nil h
  by_cases hc : c = ' '
  · rw [hc]
    rfl
  · have hhead : (c :: s).head? ≠ some ' ' := by simpa using hc
    rw [spaced_of_head?_ne hhead, List.cons_append, spaced_of_head?_ne (by simpa using hc),
      List.cons_append, List.cons_append]

theorem collapseBlanks_of_blank {c : Char} (hc : isBlank c = true) (s : List Char) :
    collapseBlanks (c :: s) = spaced (collapseBlanks s) := by
  rw [collapseBlanks, if_pos hc]
  rfl

theorem collapseBlanks_of_not_blank {c : Char} (hc : isBlank c = false) (s : List Char) :
    collapseBlanks (c :: s) = c :: collapseBlanks s := by
  rw [collapseBlanks, if_neg (Bool.eq_false_iff.mp hc)]

theorem collapseBlanks_ne_nil {s : List Char} (h : s ≠ []) : collapseBlanks s ≠ [] := by
  obtain ⟨c, s, rfl⟩ := List.exists_cons_of_ne_nil h
  cases hc : isBlank c with
  | true =>
    rw [collapseBlanks_of_blank hc]
    unfold spaced
    split <;> exact List.cons_ne_nil _ _
  | false =>
    rw [collapseBlanks_of_not_blank hc]
    exact List.cons_ne_nil _ _

/-- Behind a character that is no blank a text can be cut. -/
theorem collapseBlanks_append {s : List Char} (h : s.getLast?.any (!isBlank ·) = true)
    (t : List Char) : collapseBlanks (s ++ t) = collapseBlanks s ++ collapseBlanks t := by
  induction s with
  | nil => cases h
  | cons c s ih =>
    by_cases hs : s = []
    · subst hs
      have hc : isBlank c = false := by simpa using h
      rw [List.singleton_append, collapseBlanks_of_not_blank hc, collapseBlanks_of_not_blank hc]
      rfl
    · rw [List.getLast?_cons_of_ne_nil hs] at h
      cases hc : isBlank c with
      | true =>
        rw [List.cons_append, collapseBlanks_of_blank hc, collapseBlanks_of_blank hc, ih h,
          spaced_append (collapseBlanks_ne_nil hs)]
      | false =>
        rw [List.cons_append, collapseBlanks_of_not_blank hc, collapseBlanks_of_not_blank hc, ih h,
          List.cons_append]

theorem collapseBlanks_of_forall {s : List Char} (h : ∀ c ∈ s, isBlank c = false) :
    collapseBlanks s = s := by
  induction s with
  | nil => rfl
  | cons c s ih =>
    rw [List.forall_mem_cons] at h
    rw [collapseBlanks_of_not_blank h.1, ih h.2]

/-- A text without blanks is on one line. -/
theorem isOneLine_of_forall {s : List Char} (hne : s ≠ []) (h : ∀ c ∈ s, isBlank c = false) :
    IsOneLine s where
  first := by
    obtain ⟨c, s, rfl⟩ := List.exists_cons_of_ne_nil hne
    simpa using h c List.mem_cons_self
  last := by
    rw [List.getLast?_eq_getLast_of_ne_nil hne]
    simpa using h _ (List.getLast_mem hne)
  collapsed := collapseBlanks_of_forall h

theorem isOneLine_of_all {s : List Char} (hne : s ≠ []) (h : s.all (!isBlank ·) = true) :
    IsOneLine s :=
  isOneLine_of_forall hne (by simpa using h)

/-- Runs of blanks are all that becomes shorter. -/
theorem filter_collapseBlanks {kind : Char → Bool} (hkind : ∀ c, isBlank c = true → kind c = false)
    (s : List Char) : (collapseBlanks s).filter kind = s.filter kind := by
  have hspaced : ∀ s, (spaced s).filter kind = s.filter kind := by
    intro s
    unfold spaced
    split
    · rfl
    · rw [List.filter_cons_of_neg (by simp [hkind ' ' (by decide)])]
  induction s with
  | nil => rfl
  | cons c s ih =>
    cases hc : isBlank c with
    | true =>
      rw [collapseBlanks_of_blank hc, hspaced, ih,
        List.filter_cons_of_neg (by simp [hkind c hc])]
    | false => rw [collapseBlanks_of_not_blank hc, List.filter_cons, List.filter_cons, ih]

/-! ## Blanks at the ends -/

theorem trimBoth_eq (p : Char → Bool) (s : List Char) :
    trimBoth p s = (s.dropWhile p).rdropWhile p := rfl

/-- Nothing is left of a text of blanks. -/
theorem trimBoth_of_forall {p : Char → Bool} {s : List Char} (h : ∀ c ∈ s, p c = true) :
    trimBoth p s = [] := by
  unfold trimBoth
  rw [List.dropWhile_eq_nil_iff.mpr h]
  rfl

theorem dropWhile_pad {p : Char → Bool} {pad s : List Char} (hpad : ∀ c ∈ pad, p c = true)
    (hfirst : ∀ c ∈ s.head?, p c = false) : (pad ++ s).dropWhile p = s := by
  rw [List.dropWhile_append_of_pos hpad]
  cases s with
  | nil => rfl
  | cons c s => exact List.dropWhile_cons_of_neg (by simp [hfirst c rfl])

/-- The blanks around a text that does not begin or end with one are dropped. -/
theorem trimBoth_pad {p : Char → Bool} {before s after : List Char} (hne : s ≠ [])
    (hbefore : ∀ c ∈ before, p c = true) (hafter : ∀ c ∈ after, p c = true)
    (hfirst : ∀ c ∈ s.head?, p c = false) (hlast : ∀ c ∈ s.getLast?, p c = false) :
    trimBoth p (before ++ s ++ after) = s := by
  have hhead : (s ++ after).head? = s.head? := List.head?_append_of_ne_nil s hne
  unfold trimBoth
  rw [List.append_assoc, dropWhile_pad hbefore (hhead ▸ hfirst), List.reverse_append,
    dropWhile_pad (by simpa using hafter) (by simpa using hlast), List.reverse_reverse]

theorem filter_dropWhile {kind p : Char → Bool} (hkind : ∀ c, p c = true → kind c = false)
    (s : List Char) : (s.dropWhile p).filter kind = s.filter kind := by
  induction s with
  | nil => rfl
  | cons c s ih =>
    by_cases hc : p c = true
    · rw [List.dropWhile_cons_of_pos hc, ih, List.filter_cons_of_neg (by simp [hkind c hc])]
    · rw [List.dropWhile_cons_of_neg hc]

theorem filter_trimBoth {kind p : Char → Bool} (hkind : ∀ c, p c = true → kind c = false)
    (s : List Char) : (trimBoth p s).filter kind = s.filter kind := by
  unfold trimBoth
  rw [List.filter_reverse, filter_dropWhile hkind, List.filter_reverse, List.reverse_reverse,
    filter_dropWhile hkind]

/-! ## Pieces without blanks -/

/-- The longest pieces of a text that have no blanks. -/
def pieces (s : List Char) : List (List Char) :=
  (s.splitOnP isBlank).filter (!·.isEmpty)

/-- The pieces of a text that have no blanks, with one space between each two. -/
def oneLine (s : List Char) : List Char :=
  [' '].intercalate (pieces s)

theorem pieces_of_blank {c : Char} (hc : isBlank c = true) (s : List Char) :
    pieces (c :: s) = pieces s := by
  unfold pieces
  rw [List.splitOnP_cons_eq_if_modifyHead, if_pos hc]
  rfl

/-- A piece of its own in front of a blank, or of nothing. -/
theorem pieces_of_gap {c : Char} (hc : isBlank c = false) {s : List Char}
    (hs : ∀ d ∈ s.head?, isBlank d = true) : pieces (c :: s) = [c] :: pieces s := by
  unfold pieces
  rw [List.splitOnP_cons_eq_if_modifyHead, if_neg (Bool.eq_false_iff.mp hc)]
  cases s with
  | nil => rfl
  | cons d s =>
    rw [List.splitOnP_cons_eq_if_modifyHead, if_pos (hs d rfl)]
    rfl

/-- One more character of the piece that follows. -/
theorem exists_pieces_of_no_gap {c d : Char} (hc : isBlank c = false) (hd : isBlank d = false)
    (s : List Char) : ∃ piece rest, pieces (d :: s) = piece :: rest ∧
      pieces (c :: d :: s) = (c :: piece) :: rest := by
  obtain ⟨first, rest, hsplit⟩ := List.exists_cons_of_ne_nil (List.splitOnP_ne_nil isBlank s)
  have hsplit' : (d :: s).splitOnP isBlank = (d :: first) :: rest := by
    rw [List.splitOnP_cons_eq_if_modifyHead, if_neg (Bool.eq_false_iff.mp hd), hsplit]
    rfl
  refine ⟨d :: first, rest.filter (!·.isEmpty), ?_, ?_⟩
  · unfold pieces
    rw [hsplit']
    rfl
  · unfold pieces
    rw [List.splitOnP_cons_eq_if_modifyHead, if_neg (Bool.eq_false_iff.mp hc), hsplit']
    rfl

theorem oneLine_of_blank {c : Char} (hc : isBlank c = true) (s : List Char) :
    oneLine (c :: s) = oneLine s := by
  unfold oneLine
  rw [pieces_of_blank hc]

theorem ne_nil_of_mem_pieces {s piece : List Char} (h : piece ∈ pieces s) : piece ≠ [] := by
  have hne := (List.mem_filter.mp h).2
  rintro rfl
  cases hne

/-- A text has as little left as it has pieces. -/
theorem oneLine_eq_nil_iff {s : List Char} : oneLine s = [] ↔ pieces s = [] := by
  unfold oneLine
  refine ⟨fun h => ?_, fun h => by rw [h, List.intercalate_nil]⟩
  cases hpieces : pieces s with
  | nil => rfl
  | cons piece rest =>
    have hpiece := ne_nil_of_mem_pieces (hpieces ▸ List.mem_cons_self : piece ∈ pieces s)
    obtain ⟨c, piece, rfl⟩ := List.exists_cons_of_ne_nil hpiece
    rw [hpieces, List.intercalate_cons_cons_left] at h
    cases h

/-- A space in front of what is left of the text, if a blank begins it and anything is left. -/
def gapped (s t : List Char) : List Char :=
  if s.head?.any isBlank ∧ t ≠ [] then ' ' :: t else t

theorem oneLine_of_not_blank {c : Char} (hc : isBlank c = false) (s : List Char) :
    oneLine (c :: s) = c :: gapped s (oneLine s) := by
  cases s with
  | nil =>
    unfold oneLine
    rw [pieces_of_gap hc (by simp)]
    rfl
  | cons d s =>
    unfold gapped
    cases hd : isBlank d with
    | true =>
      -- The character is a piece of its own.
      by_cases hs : oneLine (d :: s) = []
      · rw [if_neg (by simp [hs]), hs]
        unfold oneLine
        rw [pieces_of_gap hc (by simpa using hd), oneLine_eq_nil_iff.mp hs,
          List.intercalate_singleton]
      · rw [if_pos ⟨hd, hs⟩]
        unfold oneLine
        rw [pieces_of_gap hc (by simpa using hd),
          List.intercalate_cons_of_ne_nil (mt oneLine_eq_nil_iff.mpr hs)]
        rfl
    | false =>
      obtain ⟨piece, rest, hpieces, hlonger⟩ := exists_pieces_of_no_gap hc hd s
      rw [if_neg (by simp [hd])]
      unfold oneLine
      rw [hlonger, List.intercalate_cons_cons_left, hpieces]

/-! ## What is left on one line -/

/-- The blanks that begin a text become one space. -/
theorem exists_collapseBlanks_of_blank {c : Char} (hc : isBlank c = true) (s : List Char) :
    ∃ t, collapseBlanks (c :: s) = ' ' :: t ∧ ∀ d ∈ t.head?, isBlank d = false := by
  induction s generalizing c with
  | nil =>
    rw [collapseBlanks_of_blank hc]
    exact ⟨[], rfl, nofun⟩
  | cons d s ih =>
    rw [collapseBlanks_of_blank hc]
    cases hd : isBlank d with
    | true =>
      obtain ⟨t, ht, hhead⟩ := ih hd
      rw [ht]
      exact ⟨t, rfl, hhead⟩
    | false =>
      rw [collapseBlanks_of_not_blank hd, spaced_of_head?_ne (by rintro ⟨⟩; cases hd)]
      exact ⟨_, rfl, by simpa using hd⟩

theorem trimBoth_spaced (s : List Char) : trimBoth isBlank (spaced s) = trimBoth isBlank s := by
  unfold spaced
  split <;> rfl

theorem rdropWhile_cons {p : Char → Bool} (c : Char) (s : List Char) :
    (c :: s).rdropWhile p =
      if s.rdropWhile p = [] ∧ p c = true then [] else c :: s.rdropWhile p := by
  have hempty : (s.reverse.dropWhile p).isEmpty = true ↔ s.rdropWhile p = [] := by
    simp [List.rdropWhile]
  rw [List.rdropWhile, List.reverse_cons, List.dropWhile_append]
  by_cases hs : s.rdropWhile p = []
  · rw [if_pos (hempty.mpr hs), hs]
    by_cases hc : p c = true
    · rw [List.dropWhile_cons_of_pos hc, if_pos ⟨rfl, hc⟩]
      rfl
    · rw [List.dropWhile_cons_of_neg hc, if_neg (fun h => hc h.2)]
      rfl
  · rw [if_neg (mt hempty.mp hs), if_neg (fun h => hs h.1), List.reverse_append]
    rfl

/-- The blanks at the end go, and of those at the beginning one space stays. -/
theorem rdropWhile_collapseBlanks (s : List Char) :
    (collapseBlanks s).rdropWhile isBlank = gapped s (trimBoth isBlank (collapseBlanks s)) := by
  cases s with
  | nil => rfl
  | cons c s =>
    unfold gapped
    rw [List.head?_cons, Option.any_some]
    cases hc : isBlank c with
    | true =>
      obtain ⟨t, ht, hhead⟩ := exists_collapseBlanks_of_blank hc s
      have htrim : trimBoth isBlank (' ' :: t) = t.rdropWhile isBlank := by
        rw [trimBoth_eq, List.dropWhile_cons_of_pos (by decide),
          ← List.nil_append t, dropWhile_pad (List.forall_mem_nil _) hhead]
        rfl
      rw [ht, htrim, rdropWhile_cons]
      by_cases hnil : t.rdropWhile isBlank = []
      · rw [if_pos ⟨hnil, by decide⟩, if_neg (fun h => h.2 hnil), hnil]
      · rw [if_neg (fun h => hnil h.1), if_pos ⟨rfl, hnil⟩]
    | false =>
      rw [collapseBlanks_of_not_blank hc, if_neg (by simp), trimBoth_eq,
        List.dropWhile_cons_of_neg (by simp [hc])]

/-- **A text on one line is its pieces.** What is left when each run of blanks is a space and those
at the ends are gone are the longest pieces of the text that have no blanks, in their order, with
one space between each two. -/
theorem trimBoth_collapseBlanks (s : List Char) :
    trimBoth isBlank (collapseBlanks s) = oneLine s := by
  induction s with
  | nil => rfl
  | cons c s ih =>
    cases hc : isBlank c with
    | true => rw [collapseBlanks_of_blank hc, trimBoth_spaced, ih, oneLine_of_blank hc]
    | false =>
      rw [collapseBlanks_of_not_blank hc, trimBoth_eq, List.dropWhile_cons_of_neg (by simp [hc]),
        rdropWhile_cons, if_neg (by simp [hc]), rdropWhile_collapseBlanks, ih,
        oneLine_of_not_blank hc]

end SqlCompiler.Text
