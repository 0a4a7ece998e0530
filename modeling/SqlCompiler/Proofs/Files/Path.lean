import SqlCompiler.Files.Path
import SqlCompiler.Proofs.Text.Split

/-!
# Paths and their texts

A path that was read from a text is read from its own text again (`ofText_text`). That text has the
characters of the one it was read from, but for slashes and dots (`mem_text_ofText_iff`).
-/

namespace SqlCompiler.Path

/-- What every path that was read from a text is like: its names are names of directories and files.
-/
def Normal (p : Path) : Prop :=
  ∀ name ∈ p.names, (name ≠ "" ∧ name ≠ ".") ∧ '/' ∉ name.toList

theorem mem_names_ofText {s name : String} :
    name ∈ (ofText s).names ↔ name ∈ Text.split '/' s ∧ name ≠ "" ∧ name ≠ "." := by
  unfold ofText
  rw [List.mem_filter, Bool.and_eq_true, bne_iff_ne, bne_iff_ne]

theorem normal_ofText (s : String) : (ofText s).Normal := by
  intro name hname
  obtain ⟨hmem, hne⟩ := mem_names_ofText.mp hname
  obtain ⟨part, hpart, rfl⟩ := List.mem_map.mp hmem
  rw [String.toList_ofList]
  exact ⟨hne, Text.not_mem_of_mem_splitAt hpart⟩

variable {names : List String}

/-- Names with slashes between do not start with a slash. -/
theorem head?_intercalate (h : ∀ name ∈ names, (name ≠ "" ∧ name ≠ ".") ∧ '/' ∉ name.toList) :
    ("/".intercalate names).toList.head? ≠ some '/' ∧
      (names ≠ [] → ("/".intercalate names).toList ≠ []) := by
  cases names with
  | nil => exact ⟨by simp, fun hne => absurd rfl hne⟩
  | cons name names =>
    obtain ⟨⟨⟨hempty, _⟩, hslash⟩, _⟩ := List.forall_mem_cons.mp h
    obtain ⟨c, rest, hname⟩ : ∃ c rest, name.toList = c :: rest := by
      refine List.exists_cons_of_ne_nil fun hnil => hempty ?_
      exact String.toList_inj.mp hnil
    obtain ⟨tail, htail⟩ : ∃ tail, ("/".intercalate (name :: names)).toList = c :: tail := by
      by_cases hnil : names = []
      · rw [hnil, String.intercalate_singleton]
        exact ⟨rest, hname⟩
      · rw [String.intercalate_cons_of_ne_nil hnil, String.toList_append, String.toList_append,
          hname]
        exact ⟨_, rfl⟩
    rw [htail]
    refine ⟨fun heq => hslash ?_, fun _ => List.cons_ne_nil _ _⟩
    rw [hname, ← Option.some.inj heq]
    exact List.mem_cons_self

theorem startOf_startText {start : PathRoot} {s : List Char} (h : s.head? ≠ some '/')
    (hne : start = .current → s ≠ []) : startOf ((startText start).toList ++ s) = start := by
  cases s with
  | nil =>
    cases start with
    | current => exact absurd rfl (hne rfl)
    | root => rfl
    | doubleRoot => rfl
  | cons c s =>
    have hc : c ≠ '/' := fun heq => h (congrArg some heq)
    cases start with
    | current => simp [startText, startOf, hc]
    | root => simp [startText, startOf, hc]
    | doubleRoot => simp [startText, startOf, hc]

/-- Slashes in front give empty parts, and so does a text without names. -/
theorem exists_split_eq (start : PathRoot) (h : ∀ name ∈ names, '/' ∉ name.toList) :
    ∃ empty : List String, (∀ name ∈ empty, name = "") ∧
      Text.split '/' (startText start ++ "/".intercalate names) = empty ++ names := by
  have hslash : ∀ s, Text.split '/' ("/" ++ s) = "" :: Text.split '/' s := by
    intro s
    have hlist : "/".toList = ['/'] := by decide
    unfold Text.split
    rw [String.toList_append, hlist, List.singleton_append, Text.splitAt, if_pos rfl]
    rfl
  obtain ⟨empty, hempty, hnames⟩ : ∃ empty : List String, (∀ name ∈ empty, name = "") ∧
      Text.split '/' ("/".intercalate names) = empty ++ names := by
    by_cases hnil : names = []
    · rw [hnil]
      exact ⟨[""], List.forall_mem_singleton.mpr rfl, by decide⟩
    · refine ⟨[], List.forall_mem_nil _, ?_⟩
      unfold Text.split
      rw [Text.splitAt_intercalate (by decide) hnil h, List.map_map]
      simp
  cases start with
  | current => exact ⟨empty, hempty, by rw [startText, String.empty_append, hnames]⟩
  | root =>
    refine ⟨"" :: empty, List.forall_mem_cons.mpr ⟨rfl, hempty⟩, ?_⟩
    rw [startText, hslash, hnames, List.cons_append]
  | doubleRoot =>
    have hslashes : "//" = "/" ++ "/" := by decide
    refine ⟨"" :: "" :: empty, ?_, ?_⟩
    · exact List.forall_mem_cons.mpr ⟨rfl, List.forall_mem_cons.mpr ⟨rfl, hempty⟩⟩
    · rw [startText, hslashes, String.append_assoc, hslash, hslash, hnames, List.cons_append,
        List.cons_append]

theorem text_eq {p : Path} (h : ¬ (p.start = .current ∧ p.names = [])) :
    p.text = startText p.start ++ "/".intercalate p.names := by
  unfold text
  rw [if_neg (by simpa using h)]

/-- **Paths and their texts.** -/
theorem ofText_text {p : Path} (h : p.Normal) : ofText p.text = p := by
  obtain ⟨start, names⟩ := p
  by_cases hempty : start = .current ∧ names = []
  · obtain ⟨rfl, rfl⟩ := hempty
    decide
  · obtain ⟨hhead, hne⟩ := head?_intercalate h
    have hstart : startOf (startText start ++ "/".intercalate names).toList = start := by
      rw [String.toList_append]
      exact startOf_startText hhead fun hcurrent => hne fun hnil => hempty ⟨hcurrent, hnil⟩
    obtain ⟨empty, hall, hsplit⟩ := exists_split_eq start fun name hname => (h name hname).2
    have hdropped : empty.filter (fun name => name != "" && name != ".") = [] := by
      refine List.filter_eq_nil_iff.mpr fun name hname => ?_
      rw [hall name hname]
      decide
    have hkept : names.filter (fun name => name != "" && name != ".") = names := by
      refine List.filter_eq_self.mpr fun name hname => ?_
      rw [Bool.and_eq_true, bne_iff_ne, bne_iff_ne]
      exact (h name hname).1
    rw [text_eq hempty]
    unfold ofText
    rw [hstart, hsplit, List.filter_append, hdropped, hkept, List.nil_append]

theorem exists_mem_names_ofText {c : Char} (hslash : c ≠ '/') (hdot : c ≠ '.') {s : String}
    (hc : c ∈ s.toList) : ∃ name ∈ (ofText s).names, c ∈ name.toList := by
  obtain ⟨part, hpart, hmem⟩ := Text.exists_mem_splitAt hc hslash
  refine ⟨String.ofList part, mem_names_ofText.mpr ⟨List.mem_map_of_mem hpart, ?_, ?_⟩, ?_⟩
  · intro heq
    rw [← String.toList_inj, String.toList_ofList] at heq
    rw [heq] at hmem
    cases hmem
  · intro heq
    rw [← String.toList_inj, String.toList_ofList] at heq
    rw [heq] at hmem
    exact hdot (by simpa using hmem)
  · rwa [String.toList_ofList]

/-- The text of a path has the characters of the text that it was read from, but for slashes and
dots. -/
theorem mem_text_ofText_iff {c : Char} (hslash : c ≠ '/') (hdot : c ≠ '.') (s : String) :
    c ∈ (ofText s).text.toList ↔ c ∈ s.toList := by
  constructor
  · intro hc
    by_cases hempty : (ofText s).start = .current ∧ (ofText s).names = []
    · unfold text at hc
      rw [if_pos (by simpa using hempty)] at hc
      exact absurd (by simpa using hc) hdot
    · rw [text_eq hempty, String.toList_append, List.mem_append] at hc
      rcases hc with hc | hc
      · refine absurd hc ?_
        cases (ofText s).start <;> simp [startText, hslash]
      · rcases Text.mem_of_mem_intercalate hc with hc | ⟨name, hname, hc⟩
        · exact absurd (by simpa using hc) hslash
        · exact Text.mem_of_mem_split (mem_names_ofText.mp hname).1 hc
  · intro hc
    obtain ⟨name, hname, hmem⟩ := exists_mem_names_ofText hslash hdot hc
    have hempty : ¬ ((ofText s).start = .current ∧ (ofText s).names = []) := by
      rintro ⟨_, hnil⟩
      rw [hnil] at hname
      cases hname
    rw [text_eq hempty, String.toList_append, List.mem_append]
    exact .inr (Text.mem_intercalate_of_mem hname hmem)

end SqlCompiler.Path
