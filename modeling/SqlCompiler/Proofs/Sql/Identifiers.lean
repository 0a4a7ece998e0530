import Mathlib.Data.List.TakeWhile
import SqlCompiler.Proofs.Sql.Spelling

/-!
# Reading identifiers

An identifier is read segment by segment, with a dot between any two: a segment is a bare word, or a
text between quotes in which each quote is doubled (`ReadsAs`). What is written for a path of names
is read as that path and as nothing else, unless a name is a bare word and a line break behind it.
Such a name is written without quotes although it is no bare word, and then nothing is read at all
(`render_readsAs_iff`). Different paths are written differently in any case.
-/

namespace SqlCompiler.Sql

open Text (doubleMark doubleMark_singleton_cons)

/-! ## The form of identifiers -/

/-- A word that stands for itself: a letter or low line of ASCII first, and then letters, digits,
low lines and dollar signs. -/
def IsBareWord (s : List Char) : Prop :=
  s.head?.any isNameStart = true ∧ s.all isNameChar = true

instance (s : List Char) : Decidable (IsBareWord s) :=
  inferInstanceAs (Decidable (_ ∧ _))

/-- What stands between quotes, and what it means: each quote is written twice. -/
inductive Doubled (quote : Char) : List Char → List Char → Prop
  | nil : Doubled quote [] []
  | quote {written name : List Char} :
      Doubled quote written name → Doubled quote (quote :: quote :: written) (quote :: name)
  | other {c : Char} {written name : List Char} :
      c ≠ quote → Doubled quote written name → Doubled quote (c :: written) (c :: name)

/-- A segment of an identifier, and the name it is read as. -/
inductive Segment (quote : Char) : List Char → List Char → Prop
  | bare {word : List Char} : IsBareWord word → Segment quote word word
  | quoted {written name : List Char} :
      Doubled quote written name → Segment quote (quote :: (written ++ [quote])) name

/-- A text of segments with dots between, and their names. `Form` tells what a segment may be. -/
inductive Dotted (Form : List Char → List Char → Prop) : List Char → List String → Prop
  | last {segment : List Char} {name : String} :
      Form segment name.toList → Dotted Form segment [name]
  | more {segment rest : List Char} {name : String} {names : List String} :
      Form segment name.toList → Dotted Form rest names →
        Dotted Form (segment ++ '.' :: rest) (name :: names)

/-- The names that a text is read as, if it is an identifier. -/
def ReadsAs (quote : Char) (s : List Char) (names : List String) : Prop :=
  Dotted (Segment quote) s names

/-- A bare word with a line break behind it. -/
def IsBrokenWord (name : List Char) : Prop :=
  ∃ word, IsBareWord word ∧ name = word ++ ['\n']

/-! ## Bare words -/

theorem isNameChar_of_isNameStart {c : Char} (h : isNameStart c = true) : isNameChar c = true := by
  unfold isNameStart at h
  unfold isNameChar Char.isAlphanum
  simp only [Bool.or_eq_true] at h ⊢
  rcases h with h | h
  · exact .inl (.inl (.inl h))
  · exact .inl (.inr h)

theorem IsBareWord.ne_nil {word : List Char} (h : IsBareWord word) : word ≠ [] := by
  rintro rfl
  exact absurd h.1 (by decide)

/-- The characters of names at the front of a text are those of a bare word in front of it. -/
theorem IsBareWord.takeWhile_append {word : List Char} (h : IsBareWord word) {rest : List Char}
    (hrest : rest.head?.all (!isNameChar ·) = true) :
    (word ++ rest).takeWhile isNameChar = word := by
  have hword : ∀ c ∈ word, isNameChar c = true := List.all_eq_true.mp h.2
  rw [List.takeWhile_append_of_pos hword]
  cases rest with
  | nil => exact List.append_nil word
  | cons c rest =>
    have hc : ¬ isNameChar c = true := by simpa using hrest
    rw [List.takeWhile_cons_of_neg hc, List.append_nil]

/-- The test for names without quotes lets bare words pass, and one line break behind them. -/
theorem isPlainWord_iff {s : List Char} :
    isPlainWord s = true ↔ IsBareWord s ∨ IsBrokenWord s := by
  cases s with
  | nil =>
    refine iff_of_false Bool.false_ne_true ?_
    rintro (h | ⟨word, hword, h⟩)
    · exact h.ne_nil rfl
    · simp at h
  | cons c rest =>
    have hsplit := List.takeWhile_append_dropWhile (p := isNameChar) (l := rest)
    have hall : (rest.takeWhile isNameChar).all isNameChar = true := List.all_takeWhile
    simp only [isPlainWord, Bool.and_eq_true, Bool.or_eq_true, beq_iff_eq]
    constructor
    · rintro ⟨hc, hend | hend⟩
      · rw [hend, List.append_nil] at hsplit
        rw [hsplit] at hall
        exact .inl ⟨hc, by simp [isNameChar_of_isNameStart hc, hall]⟩
      · rw [hend] at hsplit
        refine .inr ⟨c :: rest.takeWhile isNameChar, ⟨hc, ?_⟩, congrArg (c :: ·) hsplit.symm⟩
        simp [isNameChar_of_isNameStart hc, hall]
    · rintro (⟨hc, hword⟩ | ⟨word, ⟨hc, hword⟩, h⟩)
      · refine ⟨hc, .inl (List.dropWhile_eq_nil_iff.mpr fun d hd => ?_)⟩
        exact List.all_eq_true.mp hword d (List.mem_cons_of_mem _ hd)
      · cases word with
        | nil => exact absurd hc (by decide)
        | cons d word =>
          obtain ⟨rfl, hrest⟩ := List.cons.inj h
          have hchars : ∀ d ∈ word, isNameChar d = true := fun d hd =>
            List.all_eq_true.mp hword d (List.mem_cons_of_mem _ hd)
          refine ⟨hc, .inr ?_⟩
          rw [show rest = word ++ ['\n'] from hrest, List.dropWhile_append_of_pos hchars]
          decide

theorem not_isBareWord_of_isBrokenWord {s : List Char} (h : IsBrokenWord s) : ¬ IsBareWord s := by
  obtain ⟨word, _, rfl⟩ := h
  intro hbare
  have hbreak := List.all_eq_true.mp hbare.2 '\n' (List.mem_append_right _ List.mem_cons_self)
  exact absurd hbreak (by decide)

/-! ## One reading -/

/-- A text behind a segment: nothing, or a dot and more. -/
def EndsSegment (rest : List Char) : Prop :=
  rest = [] ∨ ∃ more, rest = '.' :: more

theorem EndsSegment.head?_all {rest : List Char} (h : EndsSegment rest) :
    rest.head?.all (!isNameChar ·) = true := by
  rcases h with rfl | ⟨more, rfl⟩
  · rfl
  · exact (by decide : (!isNameChar '.') = true)

section OneReading

variable {quote : Char}

theorem doubled_iff {written name : List Char} :
    Doubled quote written name ↔ written = doubleMark [quote] name := by
  constructor
  · intro h
    induction h with
    | nil => rw [doubleMark]
    | quote _ ih => rw [doubleMark_singleton_cons, if_pos rfl, ih]
    | other hc _ ih => rw [doubleMark_singleton_cons, if_neg hc, ih]
  · rintro rfl
    induction name with
    | nil => rw [doubleMark]; exact .nil
    | cons c name ih =>
      rw [doubleMark_singleton_cons]
      split
      case isTrue hc => rw [hc]; exact .quote ih
      case isFalse hc => exact .other hc ih

/-- What stands between quotes ends before the first quote that is not doubled. -/
theorem Doubled.append_inj {written written' name name' rest rest' : List Char}
    (h : Doubled quote written name) (h' : Doubled quote written' name')
    (hrest : rest.head? ≠ some quote) (hrest' : rest'.head? ≠ some quote)
    (heq : written ++ quote :: rest = written' ++ quote :: rest') :
    written = written' ∧ name = name' := by
  induction h generalizing written' name' with
  | nil =>
    cases h' with
    | nil => exact ⟨rfl, rfl⟩
    | quote _ => cases heq; exact absurd rfl hrest
    | other hc _ => exact absurd (List.cons.inj heq).1.symm hc
  | quote _ ih =>
    cases h' with
    | nil => cases heq; exact absurd rfl hrest'
    | quote h' =>
      simp only [List.cons_append, List.cons.injEq, true_and] at heq
      obtain ⟨rfl, rfl⟩ := ih h' heq
      exact ⟨rfl, rfl⟩
    | other hc _ => exact absurd (List.cons.inj heq).1.symm hc
  | other hc _ ih =>
    cases h' with
    | nil => exact absurd (List.cons.inj heq).1 hc
    | quote _ => exact absurd (List.cons.inj heq).1 hc
    | other _ h' =>
      simp only [List.cons_append, List.cons.injEq] at heq
      obtain ⟨rfl, heq⟩ := heq
      obtain ⟨rfl, rfl⟩ := ih h' heq
      exact ⟨rfl, rfl⟩

/-- A segment, or a broken word that stands without quotes. -/
def IsWritten (quote : Char) (segment name : List Char) : Prop :=
  Segment quote segment name ∨ segment = name ∧ IsBrokenWord name

/-- A written segment is a bare word, a broken one or a quoted text, and its first character tells
words from quoted texts. -/
theorem IsWritten.cases_of {segment name : List Char} (h : IsWritten quote segment name) :
    (∃ word tail, IsBareWord word ∧ (tail = [] ∨ tail = ['\n']) ∧ segment = word ++ tail ∧
      name = segment) ∨
      ∃ written, Doubled quote written name ∧ segment = quote :: (written ++ [quote]) := by
  rcases h with h | ⟨rfl, word, hword, rfl⟩
  · cases h with
    | bare hword => exact .inl ⟨segment, [], hword, .inl rfl, (List.append_nil _).symm, rfl⟩
    | quoted hwritten => exact .inr ⟨_, hwritten, rfl⟩
  · exact .inl ⟨word, ['\n'], hword, .inr rfl, rfl, rfl⟩

/-- A word that a line break may follow can be told from a text that it stands in front of. -/
theorem IsBareWord.append_inj {word word' tail tail' rest rest' : List Char}
    (hword : IsBareWord word) (hword' : IsBareWord word') (htail : tail = [] ∨ tail = ['\n'])
    (htail' : tail' = [] ∨ tail' = ['\n']) (hrest : EndsSegment rest) (hrest' : EndsSegment rest')
    (heq : word ++ tail ++ rest = word' ++ tail' ++ rest') : word = word' ∧ tail = tail' := by
  have hbehind : ∀ {tail rest : List Char}, tail = [] ∨ tail = ['\n'] → EndsSegment rest →
      (tail ++ rest).head?.all (!isNameChar ·) = true := by
    rintro tail rest (rfl | rfl) hends
    · exact hends.head?_all
    · exact (by decide : (!isNameChar '\n') = true)
  rw [List.append_assoc, List.append_assoc] at heq
  have hsame : word = word' := by
    rw [← hword.takeWhile_append (hbehind htail hrest), heq,
      hword'.takeWhile_append (hbehind htail' hrest')]
  rw [hsame] at heq
  replace heq := List.append_cancel_left heq
  refine ⟨hsame, ?_⟩
  rcases htail with rfl | rfl <;> rcases htail' with rfl | rfl
  · rfl
  · rcases hrest with rfl | ⟨more, rfl⟩ <;> simp at heq
  · rcases hrest' with rfl | ⟨more, rfl⟩ <;> simp at heq
  · rfl

variable (hquote : isNameChar quote = false) (hdot : quote ≠ '.')

include hquote in
theorem word_append_ne {word tail rest : List Char} (hword : IsBareWord word) :
    word ++ tail ≠ quote :: rest := by
  obtain ⟨hhead, hall⟩ := hword
  cases word with
  | nil => exact absurd hhead (by decide)
  | cons c word =>
    intro h
    rw [(List.cons.inj h).1] at hall
    simp [hquote] at hall

include hdot in
theorem EndsSegment.head?_ne {rest : List Char} (h : EndsSegment rest) :
    rest.head? ≠ some quote := by
  rcases h with rfl | ⟨more, rfl⟩
  · exact nofun
  · exact fun hhead => hdot (Option.some.inj hhead).symm

include hquote hdot in
/-- The first segment of a text can be told from the text. -/
theorem IsWritten.append_inj {segment segment' name name' rest rest' : List Char}
    (h : IsWritten quote segment name) (h' : IsWritten quote segment' name')
    (hrest : EndsSegment rest) (hrest' : EndsSegment rest')
    (heq : segment ++ rest = segment' ++ rest') : segment = segment' ∧ name = name' := by
  rcases h.cases_of with ⟨word, tail, hword, htail, rfl, rfl⟩ | ⟨written, hwritten, rfl⟩ <;>
    rcases h'.cases_of with ⟨word', tail', hword', htail', rfl, rfl⟩ | ⟨written', hwritten', rfl⟩
  · obtain ⟨rfl, rfl⟩ := hword.append_inj hword' htail htail' hrest hrest' heq
    exact ⟨rfl, rfl⟩
  · rw [List.append_assoc] at heq
    exact absurd heq (word_append_ne hquote hword)
  · rw [List.append_assoc] at heq
    exact absurd heq.symm (word_append_ne hquote hword')
  · simp only [List.cons_append, List.append_assoc, List.cons.injEq, true_and,
      List.nil_append] at heq
    obtain ⟨rfl, rfl⟩ := hwritten.append_inj hwritten' (hrest.head?_ne hdot) (hrest'.head?_ne hdot)
      heq
    exact ⟨rfl, rfl⟩

variable {Form Form' : List Char → List Char → Prop}

/-- Segments may be formed otherwise if those of the names in the text may. -/
theorem Dotted.imp {s : List Char} {names : List String} (h : Dotted Form s names)
    (hform : ∀ segment, ∀ name ∈ names, Form segment name.toList → Form' segment name.toList) :
    Dotted Form' s names := by
  induction h with
  | last h => exact .last (hform _ _ List.mem_cons_self h)
  | more h _ ih =>
    exact .more (hform _ _ List.mem_cons_self h)
      (ih fun segment name hname => hform segment name (List.mem_cons_of_mem _ hname))

/-- What the form of segments says of their names. -/
theorem Dotted.forall_names {P : List Char → Prop} {s : List Char} {names : List String}
    (h : Dotted Form s names) (hform : ∀ {segment name}, Form segment name → P name) :
    ∀ name ∈ names, P name.toList := by
  induction h with
  | last h => exact List.forall_mem_cons.mpr ⟨hform h, nofun⟩
  | more h _ ih => exact List.forall_mem_cons.mpr ⟨hform h, ih⟩

/-- The first segment of a text of segments, its name, and what follows. -/
theorem Dotted.exists_segment {s : List Char} {names : List String} (h : Dotted Form s names) :
    ∃ segment rest name others, s = segment ++ rest ∧ names = name :: others ∧
      Form segment name.toList ∧
      (rest = [] ∧ others = [] ∨ ∃ more, rest = '.' :: more ∧ Dotted Form more others) := by
  cases h with
  | last h => exact ⟨s, [], _, [], (List.append_nil s).symm, rfl, h, .inl ⟨rfl, rfl⟩⟩
  | more h hmore => exact ⟨_, _, _, _, rfl, rfl, h, .inr ⟨_, rfl, hmore⟩⟩

include hquote hdot in
/-- **One reading.** However the segments of a text are formed, they and their names can be told
from the text: two ways to form it are the same way. -/
theorem Dotted.unique (hform : ∀ {segment name}, Form segment name → IsWritten quote segment name)
    (hform' : ∀ {segment name}, Form' segment name → IsWritten quote segment name) {s : List Char}
    {names names' : List String} (h : Dotted Form s names) (h' : Dotted Form' s names') :
    names = names' ∧
      Dotted (fun segment name => Form segment name ∧ Form' segment name) s names := by
  induction h generalizing names' with
  | @last segment name hsegment =>
    obtain ⟨segment', rest', name', others', heq, rfl, hsegment', hrest'⟩ := h'.exists_segment
    have hends : EndsSegment rest' := hrest'.imp (fun h => h.1) fun h => h.imp fun _ h => h.1
    obtain ⟨rfl, hname⟩ := (hform hsegment).append_inj hquote hdot (hform' hsegment') (.inl rfl)
      hends ((List.append_nil _).trans heq)
    obtain rfl : rest' = [] := List.append_right_eq_self.mp heq.symm
    obtain ⟨_, rfl⟩ := hrest'.resolve_right fun ⟨_, hmore, _⟩ => nomatch hmore
    rw [String.toList_inj.mp hname] at hsegment ⊢
    exact ⟨rfl, .last ⟨hsegment, hsegment'⟩⟩
  | @more segment rest name names hsegment _ ih =>
    obtain ⟨segment', rest', name', others', heq, rfl, hsegment', hrest'⟩ := h'.exists_segment
    have hends : EndsSegment rest' := hrest'.imp (fun h => h.1) fun h => h.imp fun _ h => h.1
    obtain ⟨rfl, hname⟩ := (hform hsegment).append_inj hquote hdot (hform' hsegment')
      (.inr ⟨_, rfl⟩) hends heq
    obtain rfl : '.' :: rest = rest' := List.append_cancel_left heq
    obtain ⟨more, hmore, hothers⟩ := hrest'.resolve_left fun h => nomatch h.1
    obtain rfl : rest = more := (List.cons.inj hmore).2
    obtain ⟨rfl, hboth⟩ := ih hothers
    rw [String.toList_inj.mp hname] at hsegment ⊢
    exact ⟨rfl, .more ⟨hsegment, hsegment'⟩ hboth⟩

end OneReading

/-! ## Written names -/

section Written

variable {quote : String} {mark : Char}

/-- How a name is written. -/
def WritesAs (quote : String) (segment name : List Char) : Prop :=
  segment = (quoteIdentifier quote (String.ofList name)).toList

/-- A name is written as a segment that is read as the name, or it is a broken word and stands for
itself. -/
theorem segment_or_of_writesAs (hmark : quote.toList = [mark]) {segment name : List Char}
    (h : WritesAs quote segment name) :
    Segment mark segment name ∧ ¬ IsBrokenWord name ∨ segment = name ∧ IsBrokenWord name := by
  have h : segment = (quoteIdentifier quote (String.ofList name)).toList := h
  unfold quoteIdentifier at h
  rw [String.toList_ofList] at h
  split at h
  case isTrue hplain =>
    rw [String.toList_ofList] at h
    subst h
    rcases isPlainWord_iff.mp hplain with hbare | hbroken
    · exact .inl ⟨.bare hbare, fun hbroken => not_isBareWord_of_isBrokenWord hbroken hbare⟩
    · exact .inr ⟨rfl, hbroken⟩
  case isFalse hplain =>
    refine .inl ⟨?_, fun hbroken => hplain (isPlainWord_iff.mpr (.inr hbroken))⟩
    rw [toList_enclose hmark, String.toList_ofList] at h
    rw [h]
    exact .quoted (doubled_iff.mpr rfl)

theorem isWritten_of_writesAs (hmark : quote.toList = [mark]) {segment name : List Char}
    (h : WritesAs quote segment name) : IsWritten mark segment name :=
  (segment_or_of_writesAs hmark h).imp (·.1) id

/-- A path is written name by name, with dots between. -/
theorem dotted_render (quote : String) {path : List String} (hpath : path ≠ []) :
    Dotted (WritesAs quote) ((Fragment.identifier path).render quote).toList path := by
  have hname : ∀ name : String,
      WritesAs quote (quoteIdentifier quote name).toList name.toList := by
    intro name
    unfold WritesAs
    rw [String.ofList_toList]
  have hdot : ".".toList = ['.'] := by decide
  unfold Fragment.render
  induction path with
  | nil => exact absurd rfl hpath
  | cons name rest ih =>
    cases rest with
    | nil =>
      rw [List.map_singleton, String.intercalate_singleton]
      exact .last (hname name)
    | cons next rest =>
      rw [List.map_cons, List.map_cons, String.intercalate_cons_cons, String.toList_append,
        String.toList_append, hdot, List.append_assoc, List.singleton_append]
      exact .more (hname name) (ih (List.cons_ne_nil _ _))

/-- A broken word is no segment, so a segment that is written for a name shows that it is none. -/
theorem not_isBrokenWord_of_segment (hmark : quote.toList = [mark])
    (hname : isNameChar mark = false) {segment name : List Char} (h : Segment mark segment name)
    (hwrites : WritesAs quote segment name) : ¬ IsBrokenWord name := by
  intro hbroken
  rcases segment_or_of_writesAs hmark hwrites with ⟨_, hnot⟩ | ⟨rfl, _⟩
  · exact hnot hbroken
  · cases h with
    | bare hbare => exact not_isBareWord_of_isBrokenWord hbroken hbare
    | quoted _ =>
      obtain ⟨word, hword, heq⟩ := hbroken
      exact word_append_ne hname hword heq.symm

/-- What is written for a path is read as the path, name by name, if no name is a broken word, and
else not at all. -/
theorem readsAs_render_iff (hmark : quote.toList = [mark]) (hname : isNameChar mark = false)
    (hdot : mark ≠ '.') {path : List String} (hpath : path ≠ []) {names : List String} :
    ReadsAs mark ((Fragment.identifier path).render quote).toList names ↔
      names = path ∧ ∀ name ∈ path, ¬ IsBrokenWord name.toList := by
  have hwritten := dotted_render quote hpath
  constructor
  · intro h
    obtain ⟨rfl, hboth⟩ :=
      Dotted.unique hname hdot .inl (isWritten_of_writesAs hmark) h hwritten
    exact ⟨rfl, hboth.forall_names fun h => not_isBrokenWord_of_segment hmark hname h.1 h.2⟩
  · rintro ⟨rfl, hwhole⟩
    refine hwritten.imp fun segment name hmem hwrites => ?_
    exact ((segment_or_of_writesAs hmark hwrites).resolve_right fun h => hwhole name hmem h.2).1

theorem render_eq_of_render? {f : Fragment} {text : String} (h : f.render? quote = .ok text) :
    f.render quote = text := by
  unfold Fragment.render? at h
  split at h
  · cases h
  · exact Except.ok.inj h

/-- Different paths are written differently. -/
theorem render_identifier_inj (hmark : quote.toList = [mark]) (hname : isNameChar mark = false)
    (hdot : mark ≠ '.') {path other : List String} (hpath : path ≠ []) (hother : other ≠ [])
    (h : (Fragment.identifier path).render quote = (Fragment.identifier other).render quote) :
    path = other := by
  have hwritten := dotted_render quote hpath
  rw [h] at hwritten
  exact (Dotted.unique hname hdot (isWritten_of_writesAs hmark) (isWritten_of_writesAs hmark)
    hwritten (dotted_render quote hother)).1

theorem render?_identifier (quote : String) {path : List String} (hpath : path ≠ [])
    (hnames : "" ∉ path) : (Fragment.identifier path).render? quote =
      .ok ((Fragment.identifier path).render quote) := by
  have herror : (Fragment.identifier path).nameError? = none := by
    cases path with
    | nil => exact absurd rfl hpath
    | cons name rest =>
      unfold Fragment.nameError?
      rw [if_neg (by simpa using hnames)]
  unfold Fragment.render?
  rw [herror]

end Written

/-- The quote of a dialect is a character of no name, and no dot. -/
theorem exists_quote (d : Dialect) :
    ∃ mark, d.profile.identifierQuote.toList = [mark] ∧ isNameChar mark = false ∧ mark ≠ '.' := by
  cases d with
  | mysql => exact ⟨'\x60', by decide, by decide, by decide⟩
  | postgres | sqlite => exact ⟨'"', by decide, by decide, by decide⟩

/-- **Identifiers are read as their names.** For every dialect a path of names that are not empty
has a text. With the quote of the dialect this is read as the names of the path and as no others,
unless one of them is a bare word and a line break: then it is not read at all. Two paths with the
same text are the same. -/
theorem render_readsAs_iff (d : Dialect) {path : List String} (hpath : path ≠ [])
    (hnames : "" ∉ path) :
    ∃ mark text, d.profile.identifierQuote.toList = [mark] ∧
      (Fragment.identifier path).render? d.profile.identifierQuote = .ok text ∧
      (∀ names, ReadsAs mark text.toList names ↔
        names = path ∧ ∀ name ∈ path, ¬ IsBrokenWord name.toList) ∧
      ∀ other, (Fragment.identifier other).render? d.profile.identifierQuote = .ok text →
        other = path := by
  obtain ⟨mark, hmark, hname, hdot⟩ := exists_quote d
  refine ⟨mark, _, hmark, render?_identifier _ hpath hnames,
    fun names => readsAs_render_iff hmark hname hdot hpath, fun other hother => ?_⟩
  have hnonempty : other ≠ [] := by
    rintro rfl
    cases hother
  exact render_identifier_inj hmark hname hdot hnonempty hpath (render_eq_of_render? hother)

/-- A path whose names have a dot, quotes of both kinds and a line break in them. -/
theorem render_readsAs_iff_odd :
    ["a.b", "\"\x60", "c\nd", "e"] ≠ [] ∧ "" ∉ ["a.b", "\"\x60", "c\nd", "e"] ∧
      ∃ mark text, Dialect.mysql.profile.identifierQuote.toList = [mark] ∧
        (Fragment.identifier ["a.b", "\"\x60", "c\nd", "e"]).render?
          Dialect.mysql.profile.identifierQuote = .ok text ∧
        (∀ names, ReadsAs mark text.toList names ↔ names = ["a.b", "\"\x60", "c\nd", "e"] ∧
          ∀ name ∈ ["a.b", "\"\x60", "c\nd", "e"], ¬ IsBrokenWord name.toList) ∧
        ∀ other, (Fragment.identifier other).render?
          Dialect.mysql.profile.identifierQuote = .ok text →
            other = ["a.b", "\"\x60", "c\nd", "e"] :=
  ⟨by decide, by decide, render_readsAs_iff .mysql (by decide) (by decide)⟩

/-- A word with a line break behind it is written as it is, which is not read as an identifier. -/
theorem render_brokenWord :
    (Fragment.identifier ["id\n"]).render? Dialect.postgres.profile.identifierQuote = .ok "id\n" ∧
      ¬ ∃ names, ReadsAs '"' "id\n".toList names := by
  have htext : (Fragment.identifier ["id\n"]).render Dialect.postgres.profile.identifierQuote =
      "id\n" := by
    decide
  refine ⟨by rw [← htext]; exact render?_identifier _ (by decide) (by decide), ?_⟩
  rintro ⟨names, hnames⟩
  rw [← htext, readsAs_render_iff (by decide) (by decide) (by decide) (by decide)] at hnames
  exact hnames.2 "id\n" List.mem_cons_self ⟨['i', 'd'], by decide, by decide⟩

end SqlCompiler.Sql
