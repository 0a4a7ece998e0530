import SqlCompiler.Proofs.Sql.Pieces

/-!
# One rule for both scans

A statement is scanned for named parameters and for question marks by two different scans, and both
leave literals alone. What each of them takes for a parameter or a mark can be told from the place
alone: by the apostrophes before and behind it (`InLiteral`) and, for a parameter, by the number of
colons that end there (`StartsParameter`). All else is copied as it is
(`Scan.parametersOutside_eq`).
-/

namespace SqlCompiler.Sql

/-! ## Colons -/

/-- The number of colons at the end of a text. -/
def colonRun (s : List Char) : Nat :=
  (s.reverse.takeWhile (· == ':')).length

theorem colonRun_append_colon (s : List Char) : colonRun (s ++ [':']) = colonRun s + 1 := by
  unfold colonRun
  rw [List.reverse_append, List.reverse_singleton, List.singleton_append, List.takeWhile_cons]
  rfl

theorem colonRun_append_of_ne {c : Char} (hc : c ≠ ':') (s : List Char) :
    colonRun (s ++ [c]) = 0 := by
  unfold colonRun
  rw [List.reverse_append, List.reverse_singleton, List.singleton_append, List.takeWhile_cons,
    if_neg (by simpa using hc)]
  rfl

/-- A piece that does not end with a colon ends the run of colons before it. -/
theorem colonRun_append_of_forall {piece : List Char} (hpiece : piece ≠ [])
    (h : ∀ c ∈ piece, c ≠ ':') (s : List Char) : colonRun (s ++ piece) = 0 := by
  rw [← List.dropLast_concat_getLast hpiece, ← List.append_assoc]
  exact colonRun_append_of_ne (h _ (List.getLast_mem hpiece)) _

theorem exists_body_of_literalTail? {s body rest : List Char}
    (h : literalTail? s = some (body, rest)) : ∃ inner, body = inner ++ ['\''] := by
  fun_induction literalTail? s generalizing body rest with
  | case1 => cases h
  | case2 more b r hb ih =>
    cases h
    obtain ⟨inner, rfl⟩ := ih hb
    exact ⟨'\'' :: '\'' :: inner, rfl⟩
  | case3 more hb ih =>
    cases h
    exact ⟨[], rfl⟩
  | case4 more =>
    cases h
    exact ⟨[], rfl⟩
  | case5 c more _ hc ih =>
    obtain ⟨⟨b, r⟩, hb, he⟩ := Option.map_eq_some_iff.mp h
    cases he
    obtain ⟨inner, rfl⟩ := ih hb
    exact ⟨c :: inner, rfl⟩

/-- A parameter starts with the colon between `before` and `after`: a name follows, the place is
outside of literals, and an odd number of colons ends there. -/
def StartsParameter (before after : List Char) : Prop :=
  after.head?.any isParameterStart ∧ ¬ InLiteral before after ∧ colonRun (before ++ [':']) % 2 = 1

instance (before after : List Char) : Decidable (StartsParameter before after) :=
  inferInstanceAs (Decidable (_ ∧ _ ∧ _))

/-! ## Characters of names -/

theorem isParameterChar_of_isParameterStart {c : Char} (h : isParameterStart c = true) :
    isParameterChar c = true := by
  unfold isParameterStart at h
  unfold isParameterChar Char.isAlphanum
  simp only [Bool.or_eq_true] at h ⊢
  rcases h with (h | h) | h
  · exact .inl (.inl (.inl h))
  · exact .inl (.inr h)
  · exact .inr h

theorem isParameterChar_of_mem_takeWhile {c : Char} {s : List Char}
    (h : c ∈ s.takeWhile isParameterChar) : isParameterChar c = true :=
  List.all_eq_true.mp List.all_takeWhile c h

/-- No apostrophe, colon or question mark is part of a name. -/
theorem not_mem_takeWhile {c : Char} (hc : isParameterChar c = false) (s : List Char) :
    c ∉ s.takeWhile isParameterChar := by
  intro h
  rw [isParameterChar_of_mem_takeWhile h] at hc
  cases hc

theorem takeWhile_ne_nil {s : List Char} (h : s.head?.any isParameterStart = true) :
    s.takeWhile isParameterChar ≠ [] := by
  cases s with
  | nil => cases h
  | cons c s =>
    have hc : isParameterChar c = true := isParameterChar_of_isParameterStart h
    rw [List.takeWhile_cons, if_pos hc]
    exact List.cons_ne_nil _ _

/-! ## The scan for named parameters -/

/-- The text that a part was cut from. -/
def NamedToken.source : NamedToken → List Char
  | copied s => s
  | parameter name => ':' :: name

/-- A step of the scan for named parameters. -/
inductive NamedStep : List Char → NamedToken → List Char → Prop
  | literal {rest body tail : List Char} :
      literalTail? rest = some (body, tail) →
        NamedStep ('\'' :: rest) (.copied ('\'' :: body)) tail
  | unclosed {rest : List Char} : '\'' ∉ rest → NamedStep ('\'' :: rest) (.copied ['\'']) rest
  | cast {rest : List Char} : NamedStep (':' :: ':' :: rest) (.copied [':', ':']) rest
  | parameter {rest : List Char} : rest.head?.any isParameterStart = true →
      NamedStep (':' :: rest) (.parameter (rest.takeWhile isParameterChar))
        (rest.dropWhile isParameterChar)
  | other {c : Char} {rest : List Char} : c ≠ '\'' →
      (c = ':' → rest.head? ≠ some ':' ∧ ¬ rest.head?.any isParameterStart = true) →
        NamedStep (c :: rest) (.copied [c]) rest

theorem namedScan (s : List Char) : Scan NamedStep s (namedTokens s) := by
  induction s using namedTokens.induct with
  | case1 => rw [namedTokens]; exact .done
  | case2 rest ih => rw [namedTokens]; exact .step .cast ih
  | case3 rest body tail h _ hcast ih =>
    rw [namedTokens.eq_3 _ _ hcast, if_pos rfl]
    split
    · rename_i b t hb
      rw [h] at hb
      cases hb
      exact .step (.literal h) ih
    · rename_i hb
      rw [h] at hb
      cases hb
  | case4 rest h hcast ih =>
    rw [namedTokens.eq_3 _ _ hcast, if_pos rfl]
    split
    · rename_i b t hb
      rw [h] at hb
      cases hb
    · exact .step (.unclosed (literalTail?_eq_none_iff.mp h)) ih
  | case5 c rest hcast hc hstart _ ih =>
    obtain ⟨rfl, hstart⟩ := hstart
    rw [namedTokens.eq_3 _ _ hcast, if_neg hc, if_pos ⟨rfl, hstart⟩]
    exact .step (.parameter hstart) ih
  | case6 c rest hcast hc hstart ih =>
    rw [namedTokens.eq_3 _ _ hcast, if_neg hc, if_neg hstart]
    refine .step (.other hc fun hcolon => ⟨fun hhead => ?_, fun h => hstart ⟨hcolon, h⟩⟩) ih
    obtain ⟨rest, rfl⟩ := List.head?_eq_some_iff.mp hhead
    exact hcast rest hcolon rfl

namespace NamedStep

variable {s rest text : List Char} {t : NamedToken}

theorem pieceStep (h : NamedStep s t rest) : PieceStep s t.source rest := by
  cases h with
  | literal htail => exact .literal htail
  | unclosed hrest => exact .unclosed hrest
  | @cast rest => exact @PieceStep.plain [':', ':'] rest (List.cons_ne_nil _ _) (by decide)
  | @parameter rest hstart =>
    have hsplit : (':' :: rest.takeWhile isParameterChar) ++ rest.dropWhile isParameterChar =
        ':' :: rest := by
      rw [List.cons_append, List.takeWhile_append_dropWhile]
    have hquote : '\'' ∉ ':' :: rest.takeWhile isParameterChar := by
      rw [List.mem_cons, not_or]
      exact ⟨by decide, not_mem_takeWhile (by decide) rest⟩
    rw [← hsplit]
    exact .plain (List.cons_ne_nil _ _) hquote
  | @other c rest hc _ =>
    exact @PieceStep.plain [c] rest (List.cons_ne_nil _ _) (by simpa using Ne.symm hc)

/-- Where a step begins with a colon, an even number of colons ends before it. -/
theorem colonRun_even (h : NamedStep s t rest)
    (hcolons : s.head? = some ':' → colonRun text % 2 = 0) :
    rest.head? = some ':' → colonRun (text ++ t.source) % 2 = 0 := by
  intro hrest
  cases h with
  | @literal _ body _ htail =>
    obtain ⟨inner, rfl⟩ := exists_body_of_literalTail? htail
    show colonRun (text ++ ('\'' :: inner ++ ['\''])) % 2 = 0
    rw [← List.append_assoc, colonRun_append_of_ne (by decide)]
  | unclosed _ =>
    show colonRun (text ++ ['\'']) % 2 = 0
    rw [colonRun_append_of_ne (by decide)]
  | cast =>
    have htext := hcolons rfl
    show colonRun (text ++ ([':'] ++ [':'])) % 2 = 0
    rw [← List.append_assoc, colonRun_append_colon, colonRun_append_colon]
    omega
  | @parameter rest' hstart =>
    have hname := takeWhile_ne_nil hstart
    show colonRun (text ++ ([':'] ++ rest'.takeWhile isParameterChar)) % 2 = 0
    rw [← List.append_assoc, colonRun_append_of_forall hname]
    intro c hc hcolon
    rw [hcolon] at hc
    exact not_mem_takeWhile (by decide) rest' hc
  | @other c _ hquote hother =>
    show colonRun (text ++ [c]) % 2 = 0
    by_cases hc : c = ':'
    · exact absurd hrest (hother hc).1
    · rw [colonRun_append_of_ne hc]

/-- Of all colons in a part, the rule takes just the one that starts a parameter. -/
theorem startsParameter_iff (h : NamedStep s t rest) (hout : ¬ InLiteral text s)
    (hcolons : s.head? = some ':' → colonRun text % 2 = 0) {before tail name : List Char}
    (ht : t.source = before ++ ':' :: tail) :
    (before = [] ∧ t = .parameter name) ↔
      StartsParameter (text ++ before) (tail ++ rest) ∧
        name = (tail ++ rest).takeWhile isParameterChar := by
  cases h with
  | @literal _ body _ htail =>
    -- Inside of a literal the rule takes nothing.
    refine iff_of_false (fun h => by cases h.2) fun h => h.1.2.1 ?_
    exact (PieceStep.literal htail).head?_eq_some_iff hout ht (by decide) |>.mp rfl
  | unclosed hrest =>
    refine iff_of_false (fun h => by cases h.2) fun _ => ?_
    cases before with
    | nil => cases ht
    | cons c before => simp [NamedToken.source] at ht
  | @cast rest' =>
    refine iff_of_false (fun h => by cases h.2) fun h => ?_
    have htext := hcolons rfl
    match before, ht with
    | [], ht =>
      -- The first colon of a cast has another colon behind it, which starts no name.
      cases ht
      have hname : isParameterStart ':' = true := h.1.1
      exact absurd hname (by decide)
    | [_], ht =>
      -- With the second one an even number of colons ends.
      cases ht
      have hodd := h.1.2.2
      rw [colonRun_append_colon, colonRun_append_colon] at hodd
      omega
    | _ :: _ :: before, ht => simp [NamedToken.source] at ht
  | @parameter rest' hstart =>
    cases before with
    | nil =>
      obtain rfl : rest'.takeWhile isParameterChar = tail := (List.cons.inj ht).2
      rw [List.takeWhile_append_dropWhile, List.append_nil]
      have hrule : StartsParameter text rest' := by
        refine ⟨hstart, fun hin => hout ⟨hin.1, List.mem_cons_of_mem _ hin.2⟩, ?_⟩
        have htext := hcolons rfl
        rw [colonRun_append_colon]
        omega
      constructor
      · rintro ⟨_, h⟩
        exact ⟨hrule, (NamedToken.parameter.inj h).symm⟩
      · rintro ⟨_, rfl⟩
        exact ⟨rfl, rfl⟩
    | cons c before =>
      have hmem : ':' ∈ rest'.takeWhile isParameterChar := by
        rw [(List.cons.inj ht).2]
        exact List.mem_append_right _ List.mem_cons_self
      exact absurd hmem (not_mem_takeWhile (by decide) rest')
  | @other c rest' hquote hother =>
    refine iff_of_false (fun h => by cases h.2) fun h => ?_
    cases before with
    | nil =>
      cases ht
      exact (hother rfl).2 h.1.1
    | cons d before => simp [NamedToken.source] at ht

end NamedStep

/-- **Parameters by the rule.** The scan takes a parameter with the colon between `before` and
`after` exactly if the rule says that one starts there; its name is as long as possible. -/
theorem Scan.begins_parameter_iff {s : List Char} {ts : List NamedToken} (h : Scan NamedStep s ts)
    {text before after name : List Char} (hout : ¬ InLiteral text s)
    (hcolons : s.head? = some ':' → colonRun text % 2 = 0) (hs : s = before ++ ':' :: after) :
    Begins NamedToken.source ts before (.parameter name) ↔
      StartsParameter (text ++ before) after ∧ name = after.takeWhile isParameterChar := by
  induction h generalizing text before with
  | done => simp at hs
  | @step s rest t ts hstep _ ih =>
    have hpiece := hstep.pieceStep
    rw [← hpiece.append] at hs
    rcases split_place hs with ⟨before', rfl, hrest⟩ | ⟨tail, ht, rfl⟩
    · have hne : t.source ≠ [] := by cases hstep <;> exact List.cons_ne_nil _ _
      rw [begins_cons_append hne, ← List.append_assoc]
      exact ih (hpiece.outside hout) (hstep.colonRun_even hcolons) hrest
    · rw [begins_cons_inside ht]
      exact hstep.startsParameter_iff hout hcolons ht

/-! ## Binding by the rule -/

/-- The parts of a text behind `before` by the rule: parameters, and all else character by
character. -/
def parametersOutside (before : List Char) : List Char → List NamedToken
  | [] => []
  | c :: rest =>
    if c = ':' ∧ StartsParameter before rest then
      have := (List.dropWhile_suffix isParameterChar (l := rest)).length_le
      .parameter (rest.takeWhile isParameterChar) ::
        parametersOutside (before ++ c :: rest.takeWhile isParameterChar)
          (rest.dropWhile isParameterChar)
    else .copied [c] :: parametersOutside (before ++ [c]) rest
termination_by s => s.length
decreasing_by all_goals simp only [List.length_cons]; omega

/-- A part with its text character by character, unless it is a parameter. -/
def NamedToken.characters : NamedToken → List NamedToken
  | copied s => s.map fun c => copied [c]
  | parameter name => [parameter name]

/-- Where the rule finds no parameter, text is copied. -/
theorem parametersOutside_append {piece rest : List Char} {before : List Char}
    (h : ∀ inner tail, piece = inner ++ ':' :: tail →
      ¬ StartsParameter (before ++ inner) (tail ++ rest)) :
    parametersOutside before (piece ++ rest) =
      (piece.map fun c => .copied [c]) ++ parametersOutside (before ++ piece) rest := by
  induction piece generalizing before with
  | nil => rw [List.append_nil]; rfl
  | cons c piece ih =>
    have hfirst : ¬ (c = ':' ∧ StartsParameter before (piece ++ rest)) := by
      rintro ⟨rfl, hstart⟩
      refine h [] piece rfl ?_
      rwa [List.append_nil]
    have hrest : ∀ inner tail, piece = inner ++ ':' :: tail →
        ¬ StartsParameter (before ++ [c] ++ inner) (tail ++ rest) := by
      intro inner tail hpiece
      rw [List.append_assoc]
      exact h (c :: inner) tail (by rw [hpiece]; rfl)
    rw [List.cons_append, parametersOutside, if_neg hfirst, ih hrest, List.append_assoc]
    rfl

/-- **The scan and the rule.** Up to text that the scan takes together, it finds the parts that the
rule finds. -/
theorem Scan.parametersOutside_eq {s : List Char} {ts : List NamedToken} (h : Scan NamedStep s ts)
    {text : List Char} (hout : ¬ InLiteral text s)
    (hcolons : s.head? = some ':' → colonRun text % 2 = 0) :
    parametersOutside text s = ts.flatMap NamedToken.characters := by
  induction h generalizing text with
  | done => rw [parametersOutside]; rfl
  | @step s rest t ts hstep _ ih =>
    have hpiece := hstep.pieceStep
    rw [List.flatMap_cons, ← ih (hpiece.outside hout) (hstep.colonRun_even hcolons),
      ← hpiece.append]
    cases t with
    | copied piece =>
      refine parametersOutside_append fun inner tail ht hstart => ?_
      have hrule := (hstep.startsParameter_iff hout hcolons ht).mpr ⟨hstart, rfl⟩
      cases hrule.2
    | parameter name =>
      have ht : (NamedToken.parameter name).source = [] ++ ':' :: name := rfl
      have hrule := (hstep.startsParameter_iff hout hcolons ht).mp ⟨rfl, rfl⟩
      rw [List.append_nil] at hrule
      show parametersOutside text (':' :: (name ++ rest)) = _
      have hname := hrule.2
      have hrest : (name ++ rest).dropWhile isParameterChar = rest := by
        have hsplit := List.takeWhile_append_dropWhile (p := isParameterChar) (l := name ++ rest)
        rw [← hname] at hsplit
        exact List.append_cancel_left hsplit
      rw [parametersOutside, if_pos ⟨rfl, hrule.1⟩, ← hname, hrest]
      rfl

variable {named : Members} {strict : Bool}

theorem bindTokens_characters (t : NamedToken) (ts : List NamedToken) :
    bindTokens named strict (t.characters ++ ts) = bindTokens named strict (t :: ts) := by
  cases t with
  | parameter name => rfl
  | copied s =>
    induction s with
    | nil =>
      show bindTokens named strict ts = bindTokens named strict (.copied [] :: ts)
      rw [bindTokens]
      cases bindTokens named strict ts <;> rfl
    | cons c s ih =>
      show bindTokens named strict (.copied [c] :: (NamedToken.characters (.copied s) ++ ts)) = _
      rw [bindTokens, ih, bindTokens, bindTokens]
      cases bindTokens named strict ts <;> rfl

/-- Binding does not depend on which text the scan takes together. -/
theorem bindTokens_flatMap_characters (ts : List NamedToken) :
    bindTokens named strict (ts.flatMap NamedToken.characters) = bindTokens named strict ts := by
  induction ts with
  | nil => rfl
  | cons t ts ih =>
    rw [List.flatMap_cons, bindTokens_characters]
    cases t with
    | copied s => rw [bindTokens, bindTokens, ih]
    | parameter name => rw [bindTokens, bindTokens, ih]

/-! ## The scan for question marks -/

/-- A step of the scan for question marks. -/
inductive MarkedStep : List Char → MarkedToken → List Char → Prop
  | literal {rest body tail : List Char} :
      literalTail? rest = some (body, tail) →
        MarkedStep ('\'' :: rest) (.copied ('\'' :: body)) tail
  | unclosed {rest : List Char} : '\'' ∉ rest → MarkedStep ('\'' :: rest) (.copied ['\'']) rest
  | mark {rest : List Char} : MarkedStep ('?' :: rest) .mark rest
  | other {c : Char} {rest : List Char} : c ≠ '\'' → c ≠ '?' →
      MarkedStep (c :: rest) (.copied [c]) rest

theorem markedScan (s : List Char) : Scan MarkedStep s (markedTokens s) := by
  induction s using markedTokens.induct with
  | case1 => rw [markedTokens]; exact .done
  | case2 rest body tail h _ ih =>
    rw [markedTokens_of_literal h]
    exact .step (.literal h) ih
  | case3 rest h ih =>
    rw [markedTokens_of_unclosed h]
    exact .step (.unclosed (literalTail?_eq_none_iff.mp h)) ih
  | case4 rest _ ih =>
    rw [markedTokens_mark]
    exact .step .mark ih
  | case5 c rest hq hm ih =>
    rw [markedTokens_of_ne hq hm]
    exact .step (.other hq hm) ih

namespace MarkedStep

variable {s rest text : List Char} {t : MarkedToken}

theorem pieceStep (h : MarkedStep s t rest) : PieceStep s t.source rest := by
  cases h with
  | literal htail => exact .literal htail
  | unclosed hrest => exact .unclosed hrest
  | @mark rest => exact @PieceStep.plain ['?'] rest (List.cons_ne_nil _ _) (by decide)
  | @other c rest hc _ =>
    exact @PieceStep.plain [c] rest (List.cons_ne_nil _ _) (by simpa using Ne.symm hc)

/-- A question mark in a part is the mark itself, or stands in a literal. -/
theorem not_inLiteral_iff (h : MarkedStep s t rest) (hout : ¬ InLiteral text s)
    {before tail : List Char} (ht : t.source = before ++ '?' :: tail) :
    (before = [] ∧ t = .mark) ↔ ¬ InLiteral (text ++ before) (tail ++ rest) := by
  rw [← h.pieceStep.head?_eq_some_iff hout ht (by decide)]
  cases h with
  | literal _ => exact iff_of_false (fun h => by cases h.2) (not_not_intro rfl)
  | unclosed _ => exact iff_of_false (fun h => by cases h.2) (not_not_intro rfl)
  | mark =>
    cases before with
    | nil => exact iff_of_true ⟨rfl, rfl⟩ (by decide)
    | cons c before => simp [MarkedToken.source] at ht
  | @other c _ _ hmark =>
    cases before with
    | nil => exact absurd (List.cons.inj ht).1 hmark
    | cons d before => simp [MarkedToken.source] at ht

end MarkedStep

/-- **Marks by the rule.** The scan takes the question mark between `before` and `after` exactly if
it is outside of literals. -/
theorem Scan.begins_mark_iff {s : List Char} {ts : List MarkedToken} (h : Scan MarkedStep s ts)
    {text before after : List Char} (hout : ¬ InLiteral text s) (hs : s = before ++ '?' :: after) :
    Begins MarkedToken.source ts before .mark ↔ ¬ InLiteral (text ++ before) after := by
  induction h generalizing text before with
  | done => simp at hs
  | @step s rest t ts hstep _ ih =>
    have hpiece := hstep.pieceStep
    rw [← hpiece.append] at hs
    rcases split_place hs with ⟨before', rfl, hrest⟩ | ⟨tail, ht, rfl⟩
    · have hne : t.source ≠ [] := by cases hstep <;> exact List.cons_ne_nil _ _
      rw [begins_cons_append hne, ← List.append_assoc]
      exact ih (hpiece.outside hout) hrest
    · rw [begins_cons_inside ht]
      exact hstep.not_inLiteral_iff hout ht

/-! ## Both scans -/

theorem Scan.flatMap_source {Step : List Char → α → List Char → Prop} {source : α → List Char}
    (hstep : ∀ {s t rest}, Step s t rest → PieceStep s (source t) rest) {s : List Char}
    {ts : List α} (h : Scan Step s ts) : ts.flatMap source = s := by
  induction h with
  | done => rfl
  | step h _ ih => rw [List.flatMap_cons, ih, (hstep h).append]

theorem not_inLiteral_nil (s : List Char) : ¬ InLiteral [] s :=
  not_inLiteral_of_even rfl s

theorem flatMap_source_namedTokens (s : List Char) :
    (namedTokens s).flatMap NamedToken.source = s :=
  (namedScan s).flatMap_source fun h => h.pieceStep

/-! ## Mentions of parameters -/

/-- A text mentions the parameter of a name with the colon behind `before`. -/
def Mentions (s before : List Char) (name : String) : Prop :=
  ∃ after, s = before ++ ':' :: after ∧ StartsParameter before after ∧
    name = String.ofList (after.takeWhile isParameterChar)

/-- The scan takes a parameter where it is mentioned. -/
theorem mentions_iff {s before : List Char} {name : String} :
    Mentions s before name ↔
      Begins NamedToken.source (namedTokens s) before (.parameter name.toList) := by
  have hrule : ∀ after, s = before ++ ':' :: after →
      (Begins NamedToken.source (namedTokens s) before (.parameter name.toList) ↔
        StartsParameter before after ∧ name.toList = after.takeWhile isParameterChar) :=
    fun after hs => (namedScan s).begins_parameter_iff (not_inLiteral_nil s) (fun _ => rfl) hs
  constructor
  · rintro ⟨after, hs, hstart, hname⟩
    refine (hrule after hs).mpr ⟨hstart, ?_⟩
    rw [hname, String.toList_ofList]
  · intro hbegins
    obtain ⟨earlier, later, htokens, hbefore⟩ := id hbegins
    have hs := flatMap_source_namedTokens s
    rw [htokens, List.flatMap_append, List.flatMap_cons, hbefore] at hs
    obtain ⟨hstart, hname⟩ := (hrule _ hs.symm).mp hbegins
    refine ⟨_, hs.symm, hstart, ?_⟩
    rw [← hname, String.ofList_toList]

end SqlCompiler.Sql
