import Mathlib.Data.List.Basic
import SqlCompiler.Sql.Template
import SqlCompiler.Text.Word

/-!
# Filling written templates

A template is written with its braces doubled and its slots between braces, and filling what is
written puts one fragment into each slot and leaves the texts as they are, all at once: what a
fragment renders to is never read as a template (`format_source_iff`).

1. A reader of pieces takes the text up to the first brace, and that brace is one of a doubled pair
   or opens a slot (`readPieces_plain`, `readPieces_brace`, `readPieces_slot`).
2. `WrittenFillsAs` says what a written text is read and filled as, whatever text without braces has
   been read before it. There is one lemma for each way in which a text goes on.
3. A written template is made of these ways (`writtenFillsAs_source`).
-/

namespace SqlCompiler.Sql

open Template

/-! ## Reading pieces -/

namespace Template

/-- The piece that is read from a text, none from an empty one. -/
def textPiece (s : List Char) : Template WrittenSlot :=
  if s.isEmpty then [] else [.text (String.ofList s)]

/-- A text without braces. -/
def IsPlain (s : List Char) : Prop :=
  ∀ c ∈ s, ¬ (c = '{' ∨ c = '}')

theorem isPlain_nil : IsPlain [] :=
  List.forall_mem_nil _

theorem IsPlain.concat {s : List Char} (h : IsPlain s) {c : Char} (hc : ¬ (c = '{' ∨ c = '}')) :
    IsPlain (s ++ [c]) := by
  intro d hd
  rcases List.mem_append.mp hd with hd | hd
  · exact h d hd
  · rw [List.mem_singleton.mp hd]
    exact hc

/-- No character that ends the name of a slot, or hides what comes behind it. -/
def IsLabel (s : List Char) : Prop :=
  ∀ c ∈ s, c ≠ '{' ∧ c ≠ '}' ∧ c ≠ ':' ∧ c ≠ '!' ∧ c ≠ '['

theorem readName_label {label : List Char} (h : IsLabel label) (read rest : List Char) :
    readName read (label ++ '}' :: rest) = some (read.reverse ++ label, '}', rest) := by
  induction label generalizing read with
  | nil =>
    rw [List.nil_append, readName, if_neg (by decide), if_pos (by decide), List.append_nil]
  | cons c label ih =>
    obtain ⟨⟨hopening, hclosing, hcolon, hmark, hbracket⟩, hlabel⟩ := List.forall_mem_cons.mp h
    have hstop : ¬ (c = '}' ∨ c = ':' ∨ c = '!') := by
      rintro (h | h | h)
      · exact hclosing h
      · exact hcolon h
      · exact hmark h
    rw [List.cons_append, readName, if_neg hopening, if_neg hstop, if_neg hbracket, ih hlabel,
      List.reverse_cons, List.append_assoc, List.singleton_append]

theorem readSlot_label {label : List Char} (h : IsLabel label) (rest : List Char) :
    readSlot (label ++ '}' :: rest) = some (⟨label, false⟩, rest) := by
  unfold readSlot
  rw [readName_label h]
  rfl

section Reading

variable {before : List Char} (hbefore : IsPlain before)

include hbefore

theorem takeWhile_plain (s : List Char) :
    (before ++ s).takeWhile (fun c => !decide (c = '{' ∨ c = '}')) =
      before ++ s.takeWhile (fun c => !decide (c = '{' ∨ c = '}')) :=
  List.takeWhile_append_of_pos fun c hc => by simpa using hbefore c hc

theorem dropWhile_plain (s : List Char) :
    (before ++ s).dropWhile (fun c => !decide (c = '{' ∨ c = '}')) =
      s.dropWhile (fun c => !decide (c = '{' ∨ c = '}')) :=
  List.dropWhile_append_of_pos fun c hc => by simpa using hbefore c hc

theorem readPieces_plain (bound : Nat) :
    readPieces (bound + 1) before = (textPiece before, false) := by
  have htake := takeWhile_plain hbefore []
  have hdrop := dropWhile_plain hbefore []
  rw [List.append_nil] at htake hdrop
  rw [List.takeWhile_nil, List.append_nil] at htake
  rw [List.dropWhile_nil] at hdrop
  unfold readPieces
  cases before with
  | nil => rfl
  | cons c before =>
    dsimp only
    rw [htake, hdrop]
    rfl

/-- A doubled brace ends the piece that it belongs to. -/
theorem readPieces_brace {b : Char} (hb : b = '{' ∨ b = '}') (bound : Nat) (rest : List Char) :
    readPieces (bound + 1) (before ++ b :: b :: rest) =
      (textPiece (before ++ [b]) ++ (readPieces bound rest).1, (readPieces bound rest).2) := by
  have hstop : (!decide (b = '{' ∨ b = '}')) = false := by
    rw [decide_eq_true hb]
    rfl
  have hne : (before ++ b :: b :: rest).isEmpty = false := by
    rw [List.isEmpty_eq_false_iff]
    exact List.append_ne_nil_of_right_ne_nil _ (List.cons_ne_nil _ _)
  rw [readPieces]
  dsimp only
  rw [hne, takeWhile_plain hbefore, dropWhile_plain hbefore, List.takeWhile_cons, hstop,
    List.dropWhile_cons, hstop]
  simp [textPiece]

/-- A brace that is not doubled opens a slot. -/
theorem readPieces_slot {label : List Char} (h : IsLabel label) (bound : Nat) (rest : List Char) :
    readPieces (bound + 1) (before ++ '{' :: (label ++ '}' :: rest)) =
      (textPiece before ++ .slot ⟨label, false⟩ :: (readPieces bound rest).1,
        (readPieces bound rest).2) := by
  have hne : (before ++ '{' :: (label ++ '}' :: rest)).isEmpty = false := by
    rw [List.isEmpty_eq_false_iff]
    exact List.append_ne_nil_of_right_ne_nil _ (List.cons_ne_nil _ _)
  obtain ⟨d, tail, hsplit⟩ : ∃ d tail, label ++ '}' :: rest = d :: tail :=
    List.exists_cons_of_ne_nil (by simp)
  have hd : '{' ≠ d := by
    cases label with
    | nil =>
      rw [← (List.cons.inj hsplit).1]
      decide
    | cons c label =>
      rw [← (List.cons.inj hsplit).1]
      exact (h c List.mem_cons_self).1.symm
  have hslot := readSlot_label h rest
  rw [hsplit] at hslot hne ⊢
  rw [readPieces]
  dsimp only
  rw [hne, takeWhile_plain hbefore, dropWhile_plain hbefore, List.takeWhile_cons,
    List.dropWhile_cons]
  simp [textPiece, hd, hslot]

end Reading

end Template

/-! ## Filling what is read -/

variable {args : SlotArguments} {numbering numbering' : Numbering} {fault : Bool}
  {pieces : Template WrittenSlot} {w : List Char} {text : String → List Char}
  {contents : List Fragment}

/-- What has been read is a template that can be filled, and what fills it has a text, for each quote
of identifiers, and is named as well as its contents are. -/
def FillsAs (args : SlotArguments) (numbering : Numbering) (read : Template WrittenSlot × Bool)
    (text : String → List Char) (contents : List Fragment) : Prop :=
  read.2 = false ∧ ∃ parts, fillPieces args numbering read.1 = .ok parts ∧
    (∀ quote, (Fragment.renderAll quote parts).toList = text quote) ∧
    Fragment.nameErrorIn? parts = Fragment.nameErrorIn? contents

theorem fillsAs_nil : FillsAs args numbering ([], false) (fun _ => []) [] :=
  ⟨rfl, [], rfl, fun _ => rfl, rfl⟩

/-- A text that is no slot stays. -/
theorem FillsAs.textPiece (h : FillsAs args numbering (pieces, fault) text contents)
    (s : List Char) :
    FillsAs args numbering (textPiece s ++ pieces, fault) (fun quote => s ++ text quote)
      contents := by
  cases s with
  | nil => exact h
  | cons c s =>
    obtain ⟨hfault, parts, hparts, htext, hname⟩ := h
    refine ⟨hfault, .verbatim (String.ofList (c :: s)) :: parts, ?_, fun quote => ?_, hname⟩
    · show (do return .verbatim (String.ofList (c :: s)) :: (← fillPieces args numbering pieces)) =
        Except.ok (_ :: parts)
      rw [hparts]
      rfl
    · rw [Fragment.renderAll, Fragment.render, String.toList_append, String.toList_ofList, htext]

/-- The fragment of a slot takes its place. -/
theorem FillsAs.slot (h : FillsAs args numbering' (pieces, fault) text contents)
    {label : List Char} {f : Fragment}
    (hslot : args.resolve numbering label = .ok (.fragment f, numbering')) :
    FillsAs args numbering (.slot ⟨label, false⟩ :: pieces, fault)
      (fun quote => (f.render quote).toList ++ text quote) (f :: contents) := by
  obtain ⟨hfault, parts, hparts, htext, hname⟩ := h
  refine ⟨hfault, f :: parts, ?_, fun quote => ?_, ?_⟩
  · unfold fillPieces
    rw [if_neg Bool.false_ne_true, hslot]
    show (do return f :: (← fillPieces args numbering' pieces)) = Except.ok (f :: parts)
    rw [hparts]
    rfl
  · rw [Fragment.renderAll, String.toList_append, htext]
  · rw [Fragment.nameErrorIn?, Fragment.nameErrorIn?, hname]

/-- A template that can be filled is filled, unless a fragment is given under its own name. -/
theorem FillsAs.format {template : String}
    (h : FillsAs args (some 0) (Template.read template) text contents)
    (hown : args.named.lookup ownName = none) :
    ∃ parts, Fragment.format template args = .ok (.sequence parts) ∧
      (∀ quote, ((Fragment.sequence parts).render quote).toList = text quote) ∧
      (Fragment.sequence parts).nameError? = Fragment.nameErrorIn? contents := by
  obtain ⟨hfault, parts, hparts, htext, hname⟩ := h
  refine ⟨parts, ?_, htext, hname⟩
  unfold Fragment.format
  rw [hown]
  show (do
    let parts ← fillPieces args (some 0) (Template.read template).1
    if (Template.read template).2 then .error .malformedTemplate
    else return Fragment.sequence parts) = Except.ok (.sequence parts)
  rw [hparts, hfault]
  rfl

theorem format_ownNameGiven {term : Term} (hown : args.named.lookup ownName = some term)
    (template : String) : Fragment.format template args = .error .ownNameGiven := by
  unfold Fragment.format
  rw [hown]
  rfl

/-- What a written text is read and filled as, behind any text without braces. -/
def WrittenFillsAs (args : SlotArguments) (numbering : Numbering) (w : List Char)
    (text : String → List Char) (contents : List Fragment) : Prop :=
  ∀ before bound, IsPlain before → (before ++ w).length < bound →
    FillsAs args numbering (readPieces bound (before ++ w)) (fun quote => before ++ text quote)
      contents

theorem writtenFillsAs_nil : WrittenFillsAs args numbering [] (fun _ => []) [] := by
  intro before bound hbefore hbound
  obtain ⟨bound, rfl⟩ := Nat.exists_eq_add_one_of_ne_zero (Nat.ne_zero_of_lt hbound)
  have h := (@fillsAs_nil args numbering).textPiece before
  rw [List.append_nil (Template.textPiece before), ← readPieces_plain hbefore bound] at h
  simpa only [List.append_nil] using h

/-- A character that is no brace belongs to the text before. -/
theorem WrittenFillsAs.cons (h : WrittenFillsAs args numbering w text contents) {c : Char}
    (hc : ¬ (c = '{' ∨ c = '}')) :
    WrittenFillsAs args numbering (c :: w) (fun quote => c :: text quote) contents := by
  intro before bound hbefore hbound
  have hmore := h (before ++ [c]) bound (hbefore.concat hc) (by rwa [← List.append_cons])
  simpa only [← List.append_cons] using hmore

theorem WrittenFillsAs.brace (h : WrittenFillsAs args numbering w text contents) {b : Char}
    (hb : b = '{' ∨ b = '}') :
    WrittenFillsAs args numbering (b :: b :: w) (fun quote => b :: text quote) contents := by
  intro before bound hbefore hbound
  obtain ⟨bound, rfl⟩ := Nat.exists_eq_add_one_of_ne_zero (Nat.ne_zero_of_lt hbound)
  rw [List.length_append, List.length_cons, List.length_cons] at hbound
  have hrest : FillsAs args numbering (readPieces bound w) text contents :=
    h [] bound isPlain_nil (by rw [List.nil_append]; omega)
  rw [readPieces_brace hbefore hb]
  simpa only [← List.append_cons] using hrest.textPiece (before ++ [b])

theorem WrittenFillsAs.slot (h : WrittenFillsAs args numbering' w text contents) {label : List Char}
    (hlabel : IsLabel label) {f : Fragment}
    (hslot : args.resolve numbering label = .ok (.fragment f, numbering')) :
    WrittenFillsAs args numbering ('{' :: (label ++ '}' :: w))
      (fun quote => (f.render quote).toList ++ text quote) (f :: contents) := by
  intro before bound hbefore hbound
  obtain ⟨bound, rfl⟩ := Nat.exists_eq_add_one_of_ne_zero (Nat.ne_zero_of_lt hbound)
  simp only [List.length_append, List.length_cons] at hbound
  have hrest : FillsAs args numbering' (readPieces bound w) text contents :=
    h [] bound isPlain_nil (by rw [List.nil_append]; omega)
  rw [readPieces_slot hbefore hlabel]
  exact (hrest.slot hslot).textPiece before

/-- A text whose braces are doubled is read as the text. -/
theorem WrittenFillsAs.escaped (h : WrittenFillsAs args numbering w text contents) (s : List Char) :
    WrittenFillsAs args numbering (escape s ++ w) (fun quote => s ++ text quote) contents := by
  induction s with
  | nil => exact h
  | cons c s ih =>
    by_cases hc : c = '{' ∨ c = '}'
    · have hescape : escape (c :: s) = c :: c :: escape s := by
        rw [Template.escape, List.flatMap_cons, if_pos hc]
        rfl
      rw [hescape]
      exact ih.brace hc
    · have hescape : escape (c :: s) = c :: escape s := by
        rw [Template.escape, List.flatMap_cons, if_neg hc]
        rfl
      rw [hescape]
      exact ih.cons hc

/-! ## Written templates -/

/-- A slot of a template and the fragment that goes into it. A slot without a label is counted. -/
structure FilledSlot where
  label : String
  content : Fragment

/-- The slots of a template, in order. -/
def Template.slots {σ : Type} : Template σ → List σ
  | [] => []
  | .text _ :: rest => slots rest
  | .slot s :: rest => s :: slots rest

/-- The fragments of the counted slots, in order. -/
def Template.counted : Template FilledSlot → List Fragment
  | [] => []
  | .text _ :: rest => counted rest
  | .slot s :: rest => if s.label = "" then s.content :: counted rest else counted rest

/-- The text of a template with its fragments in their slots. -/
def Template.filledText (quote : String) (t : Template FilledSlot) : String :=
  String.join (t.map fun
    | .text s => s
    | .slot s => s.content.render quote)

/-- A name that a slot can have: a word, and not all of it are digits. -/
structure IsSlotName (name : String) : Prop where
  ne_empty : name ≠ ""
  isWord : name.toList.all Text.isWord = true
  not_digits : name.toList.all Text.looksLikeDigit = false

/-- The fragments of counted slots are given in their order, those of named slots by their names.
More may be given. -/
structure Supplies (args : SlotArguments) (t : Template FilledSlot) : Prop where
  counted : (counted t).map Term.fragment <+: args.positional
  named : ∀ slot ∈ slots t, slot.label ≠ "" → IsSlotName slot.label ∧
    args.named.lookup slot.label = some (.fragment slot.content)

theorem isLabel_nil : IsLabel [] :=
  List.forall_mem_nil _

theorem IsSlotName.isLabel {name : String} (h : IsSlotName name) : IsLabel name.toList := by
  intro c hc
  have hword := List.all_eq_true.mp h.isWord c hc
  refine ⟨?_, ?_, ?_, ?_, ?_⟩ <;> rintro rfl <;> exact absurd hword (by decide +kernel)

theorem resolve_counted {n : Nat} {f : Fragment} {more : List Term}
    (h : .fragment f :: more = args.positional.drop n) :
    args.resolve (some n) [] = .ok (.fragment f, some (n + 1)) := by
  have hget : args.positional[n]? = some (.fragment f) := by
    rw [← List.head?_drop, ← h]
    rfl
  have hempty : ([] : List Char).isEmpty = true := rfl
  unfold SlotArguments.resolve
  rw [if_pos hempty]
  dsimp only
  rw [hget]

theorem resolve_named {name : String} (hname : IsSlotName name) {f : Fragment}
    (h : args.named.lookup name = some (.fragment f)) (numbering : Numbering) :
    args.resolve numbering name.toList = .ok (.fragment f, numbering) := by
  have hne : name.toList.isEmpty = false := by
    rw [List.isEmpty_eq_false_iff, Ne, String.toList_eq_nil_iff]
    exact hname.ne_empty
  unfold SlotArguments.resolve
  rw [hne, hname.not_digits, String.ofList_toList, h]
  rfl

theorem toList_source_cons {σ : Type} (label : σ → String) (p : Piece σ) (t : Template σ) :
    (source label (p :: t)).toList =
      (match p with
        | .text s => escape s.toList
        | .slot s => '{' :: ((label s).toList ++ ['}'])) ++ (source label t).toList := by
  unfold source
  rw [List.map_cons, String.join_cons, String.toList_append]
  cases p with
  | text s => rw [String.toList_ofList]
  | slot s =>
    have hopening : "\x7b".toList = ['{'] := by decide
    have hclosing : "\x7d".toList = ['}'] := by decide
    rw [String.toList_append, String.toList_append, hopening, hclosing]
    rfl

/-- A written template is read as what it was written from, counted slots from a number on. -/
theorem writtenFillsAs_source {t : Template FilledSlot} {n : Nat}
    (hcounted : (counted t).map Term.fragment <+: args.positional.drop n)
    (hnamed : ∀ slot ∈ slots t, slot.label ≠ "" → IsSlotName slot.label ∧
      args.named.lookup slot.label = some (.fragment slot.content)) :
    WrittenFillsAs args (some n) (source (·.label) t).toList
      (fun quote => (filledText quote t).toList) ((slots t).map (·.content)) := by
  induction t generalizing n with
  | nil => exact writtenFillsAs_nil
  | cons p t ih =>
    rw [toList_source_cons]
    cases p with
    | text s =>
      have htext : (fun quote => (filledText quote (.text s :: t)).toList) =
          fun quote => s.toList ++ (filledText quote t).toList := by
        funext quote
        unfold filledText
        rw [List.map_cons, String.join_cons, String.toList_append]
      rw [htext]
      exact (ih hcounted hnamed).escaped s.toList
    | slot slot =>
      have htext : (fun quote => (filledText quote (.slot slot :: t)).toList) =
          fun quote => (slot.content.render quote).toList ++ (filledText quote t).toList := by
        funext quote
        unfold filledText
        rw [List.map_cons, String.join_cons, String.toList_append]
      obtain ⟨hslot, hrest⟩ := List.forall_mem_cons.mp hnamed
      rw [htext, List.cons_append, List.append_assoc, List.singleton_append]
      by_cases hlabel : slot.label = ""
      · -- The slot takes the next fragment.
        rw [counted, if_pos hlabel, List.map_cons] at hcounted
        obtain ⟨more, hmore⟩ := hcounted
        rw [List.cons_append] at hmore
        have hnext : (counted t).map Term.fragment <+: args.positional.drop (n + 1) := by
          rw [← List.drop_drop, ← hmore]
          exact List.prefix_append _ _
        rw [hlabel]
        exact (ih hnext hrest).slot isLabel_nil (resolve_counted hmore)
      · rw [counted, if_neg hlabel] at hcounted
        obtain ⟨hname, hlookup⟩ := hslot hlabel
        exact (ih hcounted hrest).slot hname.isLabel (resolve_named hname hlookup (some n))

theorem nameErrorIn?_fill (t : Template FilledSlot) :
    (fill (·.content) t).nameError? = Fragment.nameErrorIn? ((slots t).map (·.content)) := by
  unfold fill
  rw [Fragment.nameError?]
  induction t with
  | nil => rfl
  | cons p t ih =>
    cases p with
    | text s => exact ih
    | slot s =>
      rw [List.map_cons, slots, List.map_cons, Fragment.nameErrorIn?, Fragment.nameErrorIn?, ih]

theorem render_fill (quote : String) (t : Template FilledSlot) :
    (fill (·.content) t).render quote = filledText quote t := by
  unfold fill filledText
  rw [Fragment.render]
  induction t with
  | nil => rfl
  | cons p t ih =>
    rw [List.map_cons, List.map_cons, String.join_cons, Fragment.renderAll, ih]
    cases p <;> rfl

/-- **Filled templates.** A written template is filled unless a fragment is given under the
template's own name. Its text is then that of the template with the fragments in their slots, for
every quote of identifiers, and it is refused for a name exactly if one of the fragments is. -/
theorem format_source_iff {args : SlotArguments} {t : Template FilledSlot} (h : Supplies args t) :
    ((∃ f, Fragment.format (source (·.label) t) args = .ok f) ↔
        args.named.lookup ownName = none) ∧
      ∀ f, Fragment.format (source (·.label) t) args = .ok f → ∀ quote,
        f.render quote = filledText quote t ∧
          f.render? quote = (fill (·.content) t).render? quote := by
  rcases hown : args.named.lookup ownName with _ | term
  · have hcounted : (counted t).map Term.fragment <+: args.positional.drop 0 := h.counted
    have hfills : FillsAs args (some 0) (Template.read (source (·.label) t))
        (fun quote => (filledText quote t).toList) ((slots t).map (·.content)) :=
      writtenFillsAs_source hcounted h.named [] _ isPlain_nil (Nat.lt_succ_self _)
    obtain ⟨parts, hformat, htext, hname⟩ := hfills.format hown
    refine ⟨iff_of_true ⟨_, hformat⟩ rfl, fun f hf quote => ?_⟩
    obtain rfl := Except.ok.inj (hformat.symm.trans hf)
    have hrender : (Fragment.sequence parts).render quote = filledText quote t :=
      String.toList_inj.mp (htext quote)
    refine ⟨hrender, ?_⟩
    unfold Fragment.render?
    rw [hrender, hname, render_fill, nameErrorIn?_fill]
  · have hformat := format_ownNameGiven hown (source (·.label) t)
    refine ⟨iff_of_false ?_ (Option.some_ne_none _), ?_⟩
    · rintro ⟨f, hf⟩
      rw [hformat] at hf
      cases hf
    · intro f hf
      rw [hformat] at hf
      cases hf

/-- Braces on both sides of slots, a brace in a fragment, and a name that is used twice. -/
def Template.braced : Template FilledSlot :=
  [.text "\x7b", .slot ⟨"", .verbatim "\x7b0\x7d"⟩, .text "\x7d", .slot ⟨"größe", .name "a b"⟩,
    .slot ⟨"größe", .name "a b"⟩]

theorem format_source_braced :
    Supplies ⟨[.fragment (.verbatim "\x7b0\x7d")], [("größe", .fragment (.name "a b"))]⟩ braced ∧
      source (·.label) braced = "\x7b\x7b\x7b\x7d\x7d\x7d\x7bgröße\x7d\x7bgröße\x7d" ∧
      ∃ f, Fragment.format (source (·.label) braced) ⟨[.fragment (.verbatim "\x7b0\x7d")],
          [("größe", .fragment (.name "a b"))]⟩ = .ok f ∧
        f.render "\"" = "\x7b\x7b0\x7d\x7d\"a b\"\"a b\"" := by
  have hname : IsSlotName "größe" := ⟨by decide, by decide +kernel, by decide +kernel⟩
  have hsupplies : Supplies ⟨[.fragment (.verbatim "\x7b0\x7d")],
      [("größe", .fragment (.name "a b"))]⟩ braced := by
    refine ⟨List.prefix_rfl, ?_⟩
    simpa [braced, slots] using hname
  obtain ⟨hfills, hrenders⟩ := format_source_iff hsupplies
  obtain ⟨f, hf⟩ := hfills.mpr (by decide)
  refine ⟨hsupplies, by decide +kernel, f, hf, ?_⟩
  rw [(hrenders f hf "\"").1]
  decide +kernel

/-- A slot whose name is the template's own cannot be filled. -/
theorem format_ownName :
    IsSlotName "self" ∧
      Fragment.format (source FilledSlot.label [.slot ⟨"self", .verbatim "a"⟩])
        ⟨[], [("self", .fragment (.verbatim "a"))]⟩ = .error .ownNameGiven :=
  ⟨⟨by decide, by decide +kernel, by decide +kernel⟩, rfl⟩

end SqlCompiler.Sql
