import SqlCompiler.Proofs.Sql.Keywords
import SqlCompiler.Sql.Fragment

/-!
# Names in respelled statements

The keywords of a fragment are respelled when it is text already. If no word of the text runs from
one part of the fragment into the next, this comes to the same as writing the fragment with
respelled parts: its names are then written by one function, wherever they stand (`IsRespelled`).
Quotes divide words, so the words of a quoted name are those of the name, and respelling does not
change how a name is quoted.
-/

namespace SqlCompiler.Sql

open Text

variable {spellings : List (String × String)}

/-! ## Cut texts -/

theorem mapWords_append {f : List Char → List Char} {s t : List Char}
    (h : isBoundary s.getLast? = true ∨ isBoundary t.head? = true) :
    mapWords f (s ++ t) = mapWords f s ++ mapWords f t := by
  rcases h with h | h
  · rcases List.eq_nil_or_concat s with rfl | ⟨init, c, rfl⟩
    · rfl
    · have hc : isWord c = false := by simpa [isBoundary] using h
      rw [List.concat_eq_append, List.append_assoc, List.singleton_append, mapWords_append_cons hc,
        mapWords_append_cons hc, List.append_assoc]
      rfl
  · cases t with
    | nil => simp [mapWords, mapWordsFrom]
    | cons c t =>
      have hc : isWord c = false := by simpa [isBoundary] using h
      rw [mapWords_append_cons hc, mapWords_cons hc]

/-- A text that is cut beside a character of no word is respelled part by part. -/
theorem respellWords_append {a b : String}
    (h : isBoundary a.toList.getLast? = true ∨ isBoundary b.toList.head? = true) :
    respellWords spellings (a ++ b) = respellWords spellings a ++ respellWords spellings b := by
  rw [← String.toList_inj, String.toList_append]
  simp only [toList_respellWords]
  rw [String.toList_append, mapWords_append h]

theorem respellWords_empty (spellings : List (String × String)) :
    respellWords spellings "" = "" := by
  rw [← String.toList_inj, toList_respellWords]
  rfl

/-! ## Fragments -/

/-- A name that is quoted where it needs it, with its keywords respelled. -/
def respellName (spellings : List (String × String)) (quote name : String) : String :=
  respellWords spellings (quoteIdentifier quote name)

/-- The characters that set the words of clauses apart. -/
def separators : List Char := [' ', ',', '(', ')', ';', '|']

theorem isWord_of_mem_separators : ∀ c ∈ separators, isWord c = false := by
  unfold separators
  simp only [List.forall_mem_cons]
  exact ⟨by decide +kernel, by decide +kernel, by decide +kernel, by decide +kernel,
    by decide +kernel, by decide +kernel, nofun⟩

/-- A text that begins with a separator. -/
def BeginsApart (text : String) : Prop :=
  text.toList.head?.any (separators.contains ·) = true

/-- A text that is empty or ends with a separator. -/
def EndsApart (text : String) : Prop :=
  text.toList.getLast?.all (separators.contains ·) = true

instance (text : String) : Decidable (BeginsApart text) :=
  inferInstanceAs (Decidable (_ = _))

instance (text : String) : Decidable (EndsApart text) :=
  inferInstanceAs (Decidable (_ = _))

theorem isBoundary_of_all {c? : Option Char} (h : c?.all (separators.contains ·) = true) :
    isBoundary c? = true := by
  cases c? with
  | none => rfl
  | some c => simp [isBoundary, isWord_of_mem_separators c (List.contains_iff_mem.mp h)]

theorem BeginsApart.isBoundary {text : String} (h : BeginsApart text) :
    isBoundary text.toList.head? = true := by
  refine isBoundary_of_all ?_
  unfold BeginsApart at h
  cases hfirst : text.toList.head? with
  | none => rfl
  | some c => rwa [hfirst] at h

theorem EndsApart.isBoundary {text : String} (h : EndsApart text) :
    isBoundary text.toList.getLast? = true :=
  isBoundary_of_all h

theorem beginsApart_append {a : String} (h : BeginsApart a) (b : String) :
    BeginsApart (a ++ b) := by
  unfold BeginsApart at *
  rw [String.toList_append, List.head?_append]
  cases hfirst : a.toList.head? with
  | none => simp [hfirst] at h
  | some c => rwa [hfirst] at h

theorem endsApart_append (a : String) {b : String} (hne : b.toList ≠ []) (h : EndsApart b) :
    EndsApart (a ++ b) := by
  unfold EndsApart at *
  rw [String.toList_append, List.getLast?_append_of_ne_nil _ hne]
  exact h

namespace Fragment

mutual

/-- The text of a fragment whose names are written by one function, and whose other texts by
another. -/
def spelledBy (name word : String → String) : Fragment → String
  | verbatim text => word text
  | identifier path => ".".intercalate (path.map name)
  | literal value => word (Sql.literal value)
  | placeholder => "?"
  | sequence parts => spelledAll name word parts

/-- The texts of fragments, one behind the other. -/
def spelledAll (name word : String → String) : List Fragment → String
  | [] => ""
  | part :: rest => spelledBy name word part ++ spelledAll name word rest

end

mutual

/-- A fragment that is only rendered has its names quoted and nothing changed. -/
theorem render_eq_spelledBy (quote : String) : ∀ f : Fragment,
    f.render quote = f.spelledBy (quoteIdentifier quote) id
  | verbatim _ => rfl
  | identifier _ => rfl
  | literal _ => rfl
  | placeholder => rfl
  | sequence parts => renderAll_eq_spelledAll quote parts

theorem renderAll_eq_spelledAll (quote : String) : ∀ parts : List Fragment,
    renderAll quote parts = spelledAll (quoteIdentifier quote) id parts
  | [] => rfl
  | part :: rest =>
    congrArg₂ (· ++ ·) (render_eq_spelledBy quote part) (renderAll_eq_spelledAll quote rest)

end

theorem spelledBy_name (name word : String → String) (n : String) :
    (Fragment.name n).spelledBy name word = name n := by
  show ".".intercalate [name n] = name n
  exact String.intercalate_singleton

theorem spelledAll_append (name word : String → String) (parts more : List Fragment) :
    spelledAll name word (parts ++ more) = spelledAll name word parts ++ spelledAll name word more := by
  induction parts with
  | nil => exact String.empty_append.symm
  | cons part rest ih =>
    rw [List.cons_append, spelledAll, spelledAll, ih, String.append_assoc]

theorem spelledAll_interleave (name word : String → String) (separator : String)
    (parts : List Fragment) :
    spelledAll name word (interleave (verbatim separator) parts) =
      (word separator).intercalate (parts.map (spelledBy name word)) := by
  induction parts with
  | nil => rfl
  | cons part rest ih =>
    cases rest with
    | nil => exact (String.append_empty).trans String.intercalate_singleton.symm
    | cons next rest =>
      rw [interleave, spelledAll, spelledAll, ih]
      · show spelledBy name word part ++ (word separator ++
          (word separator).intercalate (spelledBy name word next :: rest.map _)) =
            (word separator).intercalate
              (spelledBy name word part :: spelledBy name word next :: rest.map _)
        rw [String.intercalate_cons_cons, String.append_assoc]
      · exact nofun

variable {quote : String}

/-- Respelling the text of a fragment respells its parts. -/
def IsRespelled (spellings : List (String × String)) (quote : String) (f : Fragment) : Prop :=
  respellWords spellings (f.render quote) =
    f.spelledBy (respellName spellings quote) (respellWords spellings)

/-- Respelling the text of fragments, one behind the other, respells the parts of each. -/
def AreRespelled (spellings : List (String × String)) (quote : String) (parts : List Fragment) :
    Prop :=
  respellWords spellings (renderAll quote parts) =
    spelledAll (respellName spellings quote) (respellWords spellings) parts

theorem isRespelled_verbatim (text : String) : IsRespelled spellings quote (verbatim text) := rfl

theorem isRespelled_literal (value : Value) : IsRespelled spellings quote (literal value) := rfl

theorem isRespelled_name (n : String) : IsRespelled spellings quote (.name n) := by
  unfold IsRespelled
  rw [spelledBy_name]
  show respellWords spellings (".".intercalate [quoteIdentifier quote n]) = _
  rw [String.intercalate_singleton]
  rfl

theorem AreRespelled.isRespelled {parts : List Fragment} (h : AreRespelled spellings quote parts) :
    IsRespelled spellings quote (sequence parts) := h

theorem areRespelled_nil : AreRespelled spellings quote [] :=
  respellWords_empty spellings

theorem areRespelled_singleton {part : Fragment} (h : IsRespelled spellings quote part) :
    AreRespelled spellings quote [part] := by
  unfold AreRespelled
  rw [renderAll, spelledAll, renderAll, spelledAll, String.append_empty, String.append_empty]
  exact h

/-- Behind a text that does not end in a word another part may follow. -/
theorem areRespelled_verbatim_cons {text : String} {parts : List Fragment} (hends : EndsApart text)
    (h : AreRespelled spellings quote parts) :
    AreRespelled spellings quote (verbatim text :: parts) := by
  unfold AreRespelled at *
  rw [renderAll, spelledAll, ← h]
  exact respellWords_append (.inl hends.isBoundary)

/-- Behind any part a text may follow that does not begin with a word. -/
theorem areRespelled_cons_verbatim {part : Fragment} {text : String} {parts : List Fragment}
    (hpart : IsRespelled spellings quote part) (hbegins : BeginsApart text)
    (h : AreRespelled spellings quote (verbatim text :: parts)) :
    AreRespelled spellings quote (part :: verbatim text :: parts) := by
  have hfirst : isBoundary (renderAll quote (verbatim text :: parts)).toList.head? = true :=
    (beginsApart_append hbegins (renderAll quote parts)).isBoundary
  unfold AreRespelled IsRespelled at *
  rw [renderAll, spelledAll, respellWords_append (.inr hfirst), hpart, h]

/-- A part stands apart between two texts. -/
theorem areRespelled_between {before after : String} {part : Fragment} {parts : List Fragment}
    (hends : EndsApart before) (hpart : IsRespelled spellings quote part)
    (hbegins : BeginsApart after) (h : AreRespelled spellings quote (verbatim after :: parts)) :
    AreRespelled spellings quote (verbatim before :: part :: verbatim after :: parts) :=
  areRespelled_verbatim_cons hends (areRespelled_cons_verbatim hpart hbegins h)

/-- An empty text behind a part does not show. -/
theorem areRespelled_cons_empty {part : Fragment} {parts : List Fragment}
    (h : AreRespelled spellings quote (part :: parts)) :
    AreRespelled spellings quote (part :: verbatim "" :: parts) := by
  have hword :
      spelledBy (respellName spellings quote) (respellWords spellings) (verbatim "") = "" :=
    respellWords_empty spellings
  have htext : render quote (verbatim "") = "" := rfl
  unfold AreRespelled at *
  rw [renderAll, spelledAll] at h
  rw [renderAll, spelledAll, renderAll, spelledAll, htext, hword, String.empty_append,
    String.empty_append]
  exact h

theorem isRespelled_joined {separator : String} {parts : List Fragment}
    (hbegins : BeginsApart separator) (hends : EndsApart separator)
    (h : ∀ part ∈ parts, IsRespelled spellings quote part) :
    IsRespelled spellings quote (joined separator parts) := by
  refine AreRespelled.isRespelled ?_
  induction parts with
  | nil => exact areRespelled_nil
  | cons part rest ih =>
    obtain ⟨hpart, hrest⟩ := List.forall_mem_cons.mp h
    cases rest with
    | nil => exact areRespelled_singleton hpart
    | cons next rest =>
      exact areRespelled_cons_verbatim hpart hbegins (areRespelled_verbatim_cons hends (ih hrest))

end Fragment

/-! ## Quoted names -/

section Quotes

variable {quote : String} {mark : Char}

theorem hasWord_append_doubleMark (hmark : isWord mark = false) (word before s : List Char) :
    HasWord word (before ++ doubleMark [mark] s) ↔ HasWord word (before ++ s) := by
  induction s generalizing before with
  | nil => simp [doubleMark]
  | cons c s ih =>
    rw [doubleMark_singleton_cons]
    split
    · rename_i hc
      -- Between the two marks that a mark becomes there is no word.
      have hrest : HasWord word (doubleMark [mark] s) ↔ HasWord word s := ih []
      have hagain : HasWord word (mark :: doubleMark [mark] s) ↔
          HasWord word [] ∨ HasWord word (doubleMark [mark] s) := hasWord_append_cons hmark [] _
      rw [hc, hasWord_append_cons hmark, hasWord_append_cons hmark, hagain, hrest,
        or_iff_right (not_hasWord_nil word)]
    · rw [List.append_cons before c s, List.append_cons before c (doubleMark [mark] s)]
      exact ih (before ++ [c])

theorem toList_enclose (hquote : quote.toList = [mark]) (s : String) :
    (enclose quote s).toList = mark :: (doubleMark [mark] s.toList ++ [mark]) := by
  unfold enclose
  simp [String.toList_append, String.toList_ofList, hquote]

/-- The words of a name in quotes are those of the name. -/
theorem hasWord_quoteIdentifier (hquote : quote.toList = [mark]) (hmark : isWord mark = false)
    (word : List Char) (name : String) :
    HasWord word (quoteIdentifier quote name).toList ↔ HasWord word name.toList := by
  unfold quoteIdentifier
  split
  · exact Iff.rfl
  · have hbody : HasWord word (doubleMark [mark] name.toList) ↔ HasWord word name.toList :=
      hasWord_append_doubleMark hmark word [] name.toList
    have hopening : HasWord word (mark :: (doubleMark [mark] name.toList ++ [mark])) ↔
        HasWord word [] ∨ HasWord word (doubleMark [mark] name.toList ++ [mark]) :=
      hasWord_append_cons hmark [] _
    rw [toList_enclose hquote, hopening, hasWord_append_cons hmark, hbody,
      or_iff_right (not_hasWord_nil word), or_iff_left (not_hasWord_nil word)]

/-- A name in quotes is respelled inside them. -/
theorem respellWords_enclose (hquote : quote.toList = [mark]) (hmark : isWord mark = false)
    (hnew : ∀ p ∈ spellings, mark ∉ p.2.toList) (name : String) :
    respellWords spellings (enclose quote name) = enclose quote (respellWords spellings name) := by
  have hkept : ∀ w, mark ∉ w → mark ∉ respellWord spellings w := by
    intro w hw
    rcases respellWord_cases spellings w with ⟨hsame, _⟩ | ⟨p, hp, _, hspelled⟩
    · rwa [hsame]
    · rw [hspelled]
      exact hnew p hp
  have hbody : mapWords (respellWord spellings) (doubleMark [mark] name.toList) =
      doubleMark [mark] (mapWords (respellWord spellings) name.toList) :=
    (doubleMark_mapWordsFrom hmark hkept List.not_mem_nil name.toList).symm
  rw [← String.toList_inj, toList_respellWords, toList_enclose hquote, toList_enclose hquote,
    toList_respellWords, mapWords_cons hmark, mapWords_append_cons hmark, hbody]
  rfl

theorem respellName_eq_iff (hquote : quote.toList = [mark]) (hmark : isWord mark = false)
    (h : AreApart spellings) (name : String) :
    respellName spellings quote name = quoteIdentifier quote name ↔
      ∀ keyword ∈ spellings.map (·.1), ¬ HasWord keyword.toList name.toList := by
  unfold respellName
  rw [respellWords_eq_self_iff h]
  simp only [hasWord_quoteIdentifier hquote hmark]

end Quotes

/-- The quote of a dialect is one character of no word, which neither a plain name nor the new
spelling of a keyword has. -/
theorem exists_identifierQuote (d : Dialect) :
    ∃ mark, d.profile.identifierQuote.toList = [mark] ∧ isWord mark = false ∧
      (mark ≠ ' ' ∧ mark ≠ '\n' ∧ isNameChar mark = false) ∧
      ∀ p ∈ d.profile.keywordSpellings, mark ∉ p.2.toList := by
  cases d with
  | mysql => exact ⟨'\x60', by decide, by decide +kernel, by decide, by decide⟩
  | postgres | sqlite => exact ⟨'"', by decide, by decide +kernel, by decide, by decide⟩

end SqlCompiler.Sql
