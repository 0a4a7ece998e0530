import SqlCompiler.Text.Split

/-!
# Cut and joined texts

Cutting a text, joining texts and writing marks twice bring in no characters but those of the texts
and of the marks. The parts of a text have all its characters but the marks between them.
-/

namespace SqlCompiler.Text

theorem mem_of_mem_splitAt {mark c : Char} {s part : List Char} (hpart : part ∈ splitAt mark s)
    (hc : c ∈ part) : c ∈ s := by
  fun_induction splitAt mark s generalizing part with
  | case1 =>
    rw [List.mem_singleton] at hpart
    rwa [hpart] at hc
  | case2 rest ih =>
    rcases List.mem_cons.mp hpart with rfl | hpart
    · cases hc
    · exact List.mem_cons_of_mem _ (ih hpart hc)
  | case3 d rest hd first parts heq ih =>
    rw [heq] at ih
    rcases List.mem_cons.mp hpart with rfl | hpart
    · rcases List.mem_cons.mp hc with rfl | hc
      · exact List.mem_cons_self
      · exact List.mem_cons_of_mem _ (ih List.mem_cons_self hc)
    · exact List.mem_cons_of_mem _ (ih (List.mem_cons_of_mem _ hpart) hc)
  | case4 d rest hd heq ih =>
    rw [List.mem_singleton] at hpart
    rw [hpart, List.mem_singleton] at hc
    rw [hc]
    exact List.mem_cons_self

theorem mem_of_mem_split {mark c : Char} {s part : String} (hpart : part ∈ split mark s)
    (hc : c ∈ part.toList) : c ∈ s.toList := by
  obtain ⟨chars, hchars, rfl⟩ := List.mem_map.mp hpart
  rw [String.toList_ofList] at hc
  exact mem_of_mem_splitAt hchars hc

theorem mem_of_mem_doubleMark {mark s : List Char} {c : Char} (h : c ∈ doubleMark mark s) :
    c ∈ mark ∨ c ∈ s := by
  fun_induction doubleMark mark s with
  | case1 => cases h
  | case2 d rest hmark ih =>
    rcases List.mem_append.mp h with h | h
    · rw [List.mem_append, or_self] at h
      exact .inl h
    · exact (ih h).imp_right fun h => List.mem_cons_of_mem _ (List.mem_of_mem_drop h)
  | case3 d rest hmark ih =>
    rcases List.mem_cons.mp h with rfl | h
    · exact .inr List.mem_cons_self
    · exact (ih h).imp_right (List.mem_cons_of_mem _)

theorem doubleMark_singleton_cons (c d : Char) (s : List Char) :
    doubleMark [c] (d :: s) =
      if d = c then c :: c :: doubleMark [c] s else d :: doubleMark [c] s := by
  by_cases h : d = c
  · simp [doubleMark, h]
  · simp [doubleMark, h, Ne.symm h]

theorem doubleMark_singleton_append (c : Char) (s t : List Char) :
    doubleMark [c] (s ++ t) = doubleMark [c] s ++ doubleMark [c] t := by
  induction s with
  | nil => simp [doubleMark]
  | cons d s ih =>
    rw [List.cons_append, doubleMark_singleton_cons, doubleMark_singleton_cons, ih]
    split <;> rfl

/-- A text without the mark stays as it is. -/
theorem doubleMark_singleton_of_not_mem {c : Char} {s : List Char} (h : c ∉ s) :
    doubleMark [c] s = s := by
  induction s with
  | nil => rw [doubleMark]
  | cons d s ih =>
    rw [List.mem_cons, not_or] at h
    rw [doubleMark_singleton_cons, if_neg (Ne.symm h.1), ih h.2]

theorem mem_of_mem_enclose {mark s : String} {c : Char} (h : c ∈ (enclose mark s).toList) :
    c ∈ mark.toList ∨ c ∈ s.toList := by
  unfold enclose at h
  rw [String.toList_append, String.toList_append, String.toList_ofList, List.mem_append,
    List.mem_append] at h
  rcases h with (h | h) | h
  · exact .inl h
  · exact mem_of_mem_doubleMark h
  · exact .inl h

theorem mem_of_mem_intercalate {separator : String} {parts : List String} {c : Char}
    (h : c ∈ (separator.intercalate parts).toList) :
    c ∈ separator.toList ∨ ∃ part ∈ parts, c ∈ part.toList := by
  induction parts with
  | nil => simp at h
  | cons part parts ih =>
    cases parts with
    | nil =>
      rw [String.intercalate_singleton] at h
      exact .inr ⟨part, List.mem_cons_self, h⟩
    | cons next parts =>
      rw [String.intercalate_cons_cons, String.toList_append, String.toList_append,
        List.mem_append, List.mem_append] at h
      rcases h with (h | h) | h
      · exact .inr ⟨part, List.mem_cons_self, h⟩
      · exact .inl h
      · exact (ih h).imp_right fun ⟨other, hother, hc⟩ =>
          ⟨other, List.mem_cons_of_mem _ hother, hc⟩

theorem mem_intercalate_of_mem {separator part : String} {parts : List String} {c : Char}
    (hpart : part ∈ parts) (hc : c ∈ part.toList) :
    c ∈ (separator.intercalate parts).toList := by
  induction parts with
  | nil => cases hpart
  | cons next parts ih =>
    by_cases hnil : parts = []
    · rw [hnil, List.mem_singleton] at hpart
      rw [hnil, String.intercalate_singleton, ← hpart]
      exact hc
    · rw [String.intercalate_cons_of_ne_nil hnil, String.toList_append, List.mem_append]
      rcases List.mem_cons.mp hpart with rfl | hpart
      · rw [String.toList_append, List.mem_append]
        exact .inl (.inl hc)
      · exact .inr (ih hpart)

/-! ## Parts -/

theorem splitAt_of_not_mem {mark : Char} {s : List Char} (h : mark ∉ s) :
    splitAt mark s = [s] := by
  induction s with
  | nil => rfl
  | cons c s ih =>
    rw [List.mem_cons, not_or] at h
    rw [splitAt, if_neg (Ne.symm h.1), ih h.2]

theorem splitAt_append_cons {mark : Char} {s : List Char} (h : mark ∉ s) (rest : List Char) :
    splitAt mark (s ++ mark :: rest) = s :: splitAt mark rest := by
  induction s with
  | nil => rw [List.nil_append, splitAt, if_pos rfl]
  | cons c s ih =>
    rw [List.mem_cons, not_or] at h
    rw [List.cons_append, splitAt, if_neg (Ne.symm h.1), ih h.2]

/-- Joined texts are split into the texts where none of them has the mark in it. -/
theorem splitAt_intercalate {mark : Char} {separator : String} (hmark : separator.toList = [mark])
    {parts : List String} (hne : parts ≠ []) (h : ∀ part ∈ parts, mark ∉ part.toList) :
    splitAt mark (separator.intercalate parts).toList = parts.map String.toList := by
  induction parts with
  | nil => exact absurd rfl hne
  | cons part parts ih =>
    obtain ⟨hpart, hparts⟩ := List.forall_mem_cons.mp h
    by_cases hnil : parts = []
    · rw [hnil, String.intercalate_singleton, splitAt_of_not_mem hpart]
      rfl
    · rw [String.intercalate_cons_of_ne_nil hnil, String.toList_append, String.toList_append,
        hmark, List.append_assoc, List.singleton_append, splitAt_append_cons hpart,
        ih hnil hparts, List.map_cons]

/-- A character in front of all other parts is one of the first part. -/
theorem splitAt_cons_of_ne {mark c : Char} (h : c ≠ mark) (s : List Char) :
    ∃ part parts, splitAt mark s = part :: parts ∧
      splitAt mark (c :: s) = (c :: part) :: parts := by
  have hne : splitAt mark s ≠ [] := by
    cases s with
    | nil => exact List.cons_ne_nil _ _
    | cons d s =>
      rw [splitAt]
      split
      · exact List.cons_ne_nil _ _
      · split
        · exact List.cons_ne_nil _ _
        · exact List.cons_ne_nil _ _
  obtain ⟨part, parts, hparts⟩ := List.exists_cons_of_ne_nil hne
  refine ⟨part, parts, hparts, ?_⟩
  rw [splitAt, if_neg h, hparts]

theorem not_mem_of_mem_splitAt {mark : Char} {s part : List Char} (h : part ∈ splitAt mark s) :
    mark ∉ part := by
  induction s generalizing part with
  | nil =>
    rw [splitAt, List.mem_singleton] at h
    rw [h]
    exact List.not_mem_nil
  | cons c s ih =>
    by_cases hc : c = mark
    · rw [splitAt, if_pos hc, List.mem_cons] at h
      rcases h with rfl | h
      · exact List.not_mem_nil
      · exact ih h
    · obtain ⟨first, parts, hparts, hsplit⟩ := splitAt_cons_of_ne hc s
      rw [hsplit, List.mem_cons] at h
      rw [hparts] at ih
      rcases h with rfl | h
      · rw [List.mem_cons, not_or]
        exact ⟨Ne.symm hc, ih List.mem_cons_self⟩
      · exact ih (List.mem_cons_of_mem _ h)

theorem exists_mem_splitAt {mark c : Char} {s : List Char} (h : c ∈ s) (hc : c ≠ mark) :
    ∃ part ∈ splitAt mark s, c ∈ part := by
  induction s with
  | nil => cases h
  | cons d s ih =>
    by_cases hd : d = mark
    · rw [splitAt, if_pos hd]
      rcases List.mem_cons.mp h with rfl | h
      · exact absurd hd hc
      · obtain ⟨part, hpart, hmem⟩ := ih h
        exact ⟨part, List.mem_cons_of_mem _ hpart, hmem⟩
    · obtain ⟨first, parts, hparts, hsplit⟩ := splitAt_cons_of_ne hd s
      rw [hsplit]
      rw [hparts] at ih
      rcases List.mem_cons.mp h with rfl | h
      · exact ⟨_, List.mem_cons_self, List.mem_cons_self⟩
      · obtain ⟨part, hpart, hmem⟩ := ih h
        rcases List.mem_cons.mp hpart with rfl | hpart
        · exact ⟨_, List.mem_cons_self, List.mem_cons_of_mem _ hmem⟩
        · exact ⟨part, List.mem_cons_of_mem _ hpart, hmem⟩

end SqlCompiler.Text
