import SqlCompiler.Proofs.Sql.Numbering
import SqlCompiler.Proofs.Sql.Scanning

/-!
# Bound statements

Binding replaces each parameter by markers, one for each member of a list and else a single one, so
every marker of a bound statement stands for a value (`boundCells`). The arguments are the values of
the markers in order (`bindTokens_eq`). Where a statement is bound can be told from the places alone
(`bindOutside`, `scans_agree`). If the statement has no question mark outside of literals to
begin with, then in the bound one the literals tell the markers from other question marks
(`marksAgree_boundCells`). Removing characters other than question marks and apostrophes does not
change that (`MarksAgree.of_filter_eq`).
-/

namespace SqlCompiler.Sql

/-! ## Markers and their values -/

/-- A place of a bound statement: a character of its text, or the marker of a value. -/
inductive BoundCell
  | plain (c : Char)
  | marker (v : Value)

/-- What the place is when the value is forgotten. -/
def BoundCell.cell : BoundCell → Cell
  | plain c => .plain c
  | marker _ => .placeholder

/-- The value that a marker stands for. -/
def BoundCell.value? : BoundCell → Option Value
  | plain _ => none
  | marker v => some v

/-- The text of a bound statement, its markers question marks. -/
def boundText (cells : List BoundCell) : List Char :=
  cellText (cells.map BoundCell.cell)

/-- The values of the markers, in order. -/
def markedValues (cells : List BoundCell) : List Value :=
  cells.filterMap BoundCell.value?

/-- A text without markers. -/
def plainCells (s : List Char) : List BoundCell :=
  s.map .plain

/-- Markers with commas between. -/
def markerList : List Value → List BoundCell
  | [] => []
  | [v] => [.marker v]
  | v :: rest => .marker v :: .plain ',' :: markerList rest

/-- What replaces a parameter: a marker for its value or, if that is a list, markers for all
members, or `NULL` if there are none. -/
def valueCells : Value → List BoundCell
  | .list [] | .tuple [] => plainCells "NULL".toList
  | .list items | .tuple items => markerList items
  | v => [.marker v]

/-- What replaces a parameter of a name, nothing if it has no value. -/
def parameterCells (named : Members) (name : List Char) : List BoundCell :=
  ((named.get? (String.ofList name)).map valueCells).getD []

/-- What becomes of a part of a statement. -/
def tokenCells (named : Members) : NamedToken → List BoundCell
  | .copied s => plainCells s
  | .parameter name => parameterCells named name

/-- A bound statement, its parts one after the other. -/
def boundCells (named : Members) (ts : List NamedToken) : List BoundCell :=
  ts.flatMap (tokenCells named)

/-- The names of the parameters that a statement mentions. -/
def parameterNames (ts : List NamedToken) : List String :=
  ts.filterMap fun
    | .copied _ => none
    | .parameter name => some (String.ofList name)

theorem boundText_append (cells more : List BoundCell) :
    boundText (cells ++ more) = boundText cells ++ boundText more := by
  unfold boundText cellText
  rw [List.map_append, List.map_append]

theorem markedValues_append (cells more : List BoundCell) :
    markedValues (cells ++ more) = markedValues cells ++ markedValues more :=
  List.filterMap_append

theorem boundText_plainCells (s : List Char) : boundText (plainCells s) = s := by
  unfold boundText plainCells cellText
  rw [List.map_map, List.map_map]
  exact List.map_id s

theorem markedValues_plainCells (s : List Char) : markedValues (plainCells s) = [] := by
  unfold markedValues plainCells
  rw [List.filterMap_eq_nil_iff]
  intro cell hcell
  obtain ⟨c, _, rfl⟩ := List.mem_map.mp hcell
  rfl

theorem markedValues_markerList (vs : List Value) : markedValues (markerList vs) = vs := by
  induction vs with
  | nil => rfl
  | cons v rest ih =>
    cases rest with
    | nil => rfl
    | cons w rest => exact congrArg (v :: ·) ih

theorem boundText_markerList (vs : List Value) :
    boundText (markerList vs) = List.intercalate [','] (vs.map fun _ => ['?']) := by
  induction vs with
  | nil => rfl
  | cons v rest ih =>
    cases rest with
    | nil => rfl
    | cons w rest =>
      show '?' :: ',' :: boundText (markerList (w :: rest)) =
        List.intercalate [','] (['?'] :: ['?'] :: rest.map fun _ => ['?'])
      rw [ih, List.intercalate_cons_cons]
      rfl

theorem expand_eq (v : Value) :
    expand v = (boundText (valueCells v), markedValues (valueCells v)) := by
  have hlist : ∀ items : List Value, (items.map (fun _ => ['?']) |> List.intercalate [','], items) =
      (boundText (markerList items), markedValues (markerList items)) := by
    intro items
    rw [boundText_markerList, markedValues_markerList]
  cases v with
  | list items =>
    cases items with
    | nil => rfl
    | cons v rest => exact hlist (v :: rest)
  | tuple items =>
    cases items with
    | nil => rfl
    | cons v rest => exact hlist (v :: rest)
  | _ => rfl

/-- **Binding.** If every parameter has a value, binding succeeds; it gives the text of the bound
statement, and the values of its markers from left to right. -/
theorem bindTokens_eq {named : Members} {ts : List NamedToken} (strict : Bool)
    (h : ∀ name ∈ parameterNames ts, (named.get? name).isSome) :
    bindTokens named strict ts =
      .ok (boundText (boundCells named ts), markedValues (boundCells named ts)) := by
  induction ts with
  | nil => rfl
  | cons t ts ih =>
    unfold boundCells
    rw [List.flatMap_cons, boundText_append, markedValues_append]
    cases t with
    | copied s =>
      rw [bindTokens, ih h]
      show Except.ok (s ++ _, _) =
        .ok (boundText (plainCells s) ++ _, markedValues (plainCells s) ++ _)
      rw [boundText_plainCells, markedValues_plainCells]
      rfl
    | parameter name =>
      have hnames : parameterNames (.parameter name :: ts) =
          String.ofList name :: parameterNames ts := rfl
      rw [hnames, List.forall_mem_cons] at h
      obtain ⟨v, hv⟩ := Option.isSome_iff_exists.mp h.1
      have hcells : tokenCells named (.parameter name) = valueCells v := by
        show parameterCells named name = _
        unfold parameterCells
        rw [hv]
        rfl
      rw [bindTokens, hv, ih h.2, hcells]
      show Except.ok ((expand v).1 ++ _, (expand v).2 ++ _) = _
      rw [expand_eq]
      rfl

theorem mem_parameterNames {name : String} {ts : List NamedToken} :
    name ∈ parameterNames ts ↔ .parameter name.toList ∈ ts := by
  unfold parameterNames
  rw [List.mem_filterMap]
  constructor
  · rintro ⟨t, ht, hname⟩
    cases t with
    | copied s => cases hname
    | parameter cs =>
      rw [← Option.some.inj hname, String.toList_ofList]
      exact ht
  · intro h
    exact ⟨_, h, congrArg some String.ofList_toList⟩

/-- The arguments are those of the parameters that a statement mentions, in order. -/
theorem markedValues_boundCells (named : Members) (ts : List NamedToken) :
    markedValues (boundCells named ts) = (parameterNames ts).flatMap fun name =>
      markedValues (((named.get? name).map valueCells).getD []) := by
  induction ts with
  | nil => rfl
  | cons t ts ih =>
    unfold boundCells at ih ⊢
    rw [List.flatMap_cons, markedValues_append, ih]
    cases t with
    | copied s => exact congrArg (· ++ _) (markedValues_plainCells s)
    | parameter name => rfl

/-- The names that the scan finds are those that are mentioned. -/
theorem mem_parameterNames_namedTokens {s : List Char} {name : String} :
    name ∈ parameterNames (namedTokens s) ↔ ∃ before, Mentions s before name := by
  rw [mem_parameterNames]
  constructor
  · intro h
    obtain ⟨earlier, later, hsplit⟩ := List.append_of_mem h
    exact ⟨_, mentions_iff.mpr ⟨earlier, later, hsplit, rfl⟩⟩
  · rintro ⟨before, h⟩
    obtain ⟨earlier, later, hsplit, _⟩ := mentions_iff.mp h
    rw [hsplit]
    exact List.mem_append_right _ List.mem_cons_self

/-! ## Binding by the rule -/

/-- The error about a parameter without a value. -/
def missingParameter (named : Members) (name : String) : MissingParameter :=
  ⟨name, named.keys.mergeSort fun a b => decide (a ≤ b)⟩

/-- The value of a parameter: null for one without a value, unless the binding is strict. -/
def parameterValue (named : Members) (strict : Bool) (name : List Char) :
    Except MissingParameter Value :=
  match named.get? (String.ofList name) with
  | some v => .ok v
  | none => if strict then .error (missingParameter named (String.ofList name)) else .ok .null

/-- The places of a statement that is bound by the rule, behind `before`. It ends at the first
parameter that is to have a value and has none. -/
def bindOutside (named : Members) (strict : Bool) (before : List Char) :
    List Char → Except MissingParameter (List BoundCell)
  | [] => .ok []
  | c :: rest =>
    if c = ':' ∧ StartsParameter before rest then do
      have := (List.dropWhile_suffix isParameterChar (l := rest)).length_le
      let v ← parameterValue named strict (rest.takeWhile isParameterChar)
      let places ← bindOutside named strict (before ++ c :: rest.takeWhile isParameterChar)
        (rest.dropWhile isParameterChar)
      return valueCells v ++ places
    else return .plain c :: (← bindOutside named strict (before ++ [c]) rest)
termination_by s => s.length
decreasing_by all_goals simp only [List.length_cons]; omega

section Parts

variable {named : Members} {strict : Bool} {ts : List NamedToken}

theorem bindTokens_copied (piece : List Char) :
    bindTokens named strict (.copied piece :: ts) =
      (bindTokens named strict ts).map fun bound => (piece ++ bound.1, bound.2) := by
  rw [bindTokens]
  cases bindTokens named strict ts <;> rfl

theorem bindTokens_parameter (name : List Char) (ts : List NamedToken) :
    bindTokens named strict (.parameter name :: ts) = do
      let v ← parameterValue named strict name
      let bound ← bindTokens named strict ts
      return ((expand v).1 ++ bound.1, (expand v).2 ++ bound.2) := by
  rw [bindTokens, parameterValue]
  cases named.get? (String.ofList name) with
  | some v => rfl
  | none => cases strict <;> rfl

theorem bindTokens_parameter_of_some {name : List Char} {v : Value}
    (h : named.get? (String.ofList name) = some v) :
    bindTokens named strict (.parameter name :: ts) =
      (bindTokens named strict ts).map fun bound =>
        ((expand v).1 ++ bound.1, (expand v).2 ++ bound.2) := by
  rw [bindTokens_parameter, parameterValue, h]
  cases bindTokens named strict ts <;> rfl

theorem bindTokens_parameter_of_none {name : List Char}
    (h : named.get? (String.ofList name) = none) :
    bindTokens named true (.parameter name :: ts) =
      .error (missingParameter named (String.ofList name)) := by
  rw [bindTokens_parameter, parameterValue, h]
  rfl

end Parts

/-- Binding a text binds the parameters that the rule finds in it. -/
theorem bindTokens_namedTokens {named : Members} {strict : Bool} (s : List Char) :
    bindTokens named strict (namedTokens s) = bindTokens named strict (parametersOutside [] s) := by
  rw [(namedScan s).parametersOutside_eq (not_inLiteral_nil s) fun _ => rfl,
    bindTokens_flatMap_characters]

/-- Binding the parts that the rule finds gives the places that are bound by the rule. -/
theorem bindTokens_parametersOutside (named : Members) (strict : Bool) (before s : List Char) :
    bindTokens named strict (parametersOutside before s) =
      (bindOutside named strict before s).map
        fun places => (boundText places, markedValues places) := by
  induction before, s using parametersOutside.induct with
  | case1 before =>
    rw [parametersOutside, bindOutside]
    rfl
  | case2 before c rest hstart _ ih =>
    rw [parametersOutside, if_pos hstart, bindOutside, if_pos hstart, bindTokens_parameter, ih]
    cases parameterValue named strict (rest.takeWhile isParameterChar) with
    | error e => rfl
    | ok v =>
      cases bindOutside named strict (before ++ c :: rest.takeWhile isParameterChar)
          (rest.dropWhile isParameterChar) with
      | error e => rfl
      | ok places =>
        show Except.ok (_ ++ boundText places, _ ++ markedValues places) =
          Except.ok (boundText (_ ++ places), markedValues (_ ++ places))
        rw [expand_eq, boundText_append, markedValues_append]
  | case3 before c rest hstart ih =>
    rw [parametersOutside, if_neg hstart, bindOutside, if_neg hstart, bindTokens_copied, ih]
    cases bindOutside named strict (before ++ [c]) rest <;> rfl

/-- **Binding by the rule.** A statement is bound at the places that the rule finds. -/
theorem bindNamed_eq (sql : String) (named : Members) (strict : Bool) :
    bindNamed sql named strict = (bindOutside named strict [] sql.toList).map
      fun places => ⟨String.ofList (boundText places), markedValues places⟩ := by
  unfold bindNamed
  rw [bindTokens_namedTokens, bindTokens_parametersOutside]
  cases bindOutside named strict [] sql.toList <;> rfl

theorem parameterNames_characters (ts : List NamedToken) :
    parameterNames (ts.flatMap NamedToken.characters) = parameterNames ts := by
  have hcopied : ∀ s, parameterNames (NamedToken.characters (.copied s)) = [] := by
    intro s
    refine List.filterMap_eq_nil_iff.mpr fun t ht => ?_
    obtain ⟨c, _, rfl⟩ := List.mem_map.mp ht
    rfl
  induction ts with
  | nil => rfl
  | cons t ts ih =>
    have happend : parameterNames ((t :: ts).flatMap NamedToken.characters) =
        parameterNames t.characters ++ parameterNames (ts.flatMap NamedToken.characters) := by
      rw [List.flatMap_cons]
      exact List.filterMap_append
    rw [happend, ih]
    cases t with
    | copied s => rw [hcopied, List.nil_append]; rfl
    | parameter name => rfl

theorem boundCells_characters (named : Members) (ts : List NamedToken) :
    boundCells named (ts.flatMap NamedToken.characters) = boundCells named ts := by
  unfold boundCells
  rw [List.flatMap_assoc]
  refine congrArg (List.flatMap · ts) (funext fun t => ?_)
  cases t with
  | copied s =>
    show (s.map fun c => NamedToken.copied [c]).flatMap (tokenCells named) = s.map BoundCell.plain
    rw [List.flatMap_map, List.map_eq_flatMap]
    rfl
  | parameter name => exact List.append_nil _

/-- If every parameter has a value, the places bound by the rule are those of the scan. -/
theorem bindOutside_eq {named : Members} {strict : Bool} {before s : List Char}
    (h : ∀ name ∈ parameterNames (parametersOutside before s), (named.get? name).isSome) :
    bindOutside named strict before s = .ok (boundCells named (parametersOutside before s)) := by
  induction before, s using parametersOutside.induct with
  | case1 before =>
    rw [parametersOutside, bindOutside]
    rfl
  | case2 before c rest hstart _ ih =>
    rw [parametersOutside, if_pos hstart] at h
    obtain ⟨hvalue, hrest⟩ := List.forall_mem_cons.mp h
    obtain ⟨v, hv⟩ := Option.isSome_iff_exists.mp hvalue
    have hfirst : parameterValue named strict (rest.takeWhile isParameterChar) = .ok v := by
      rw [parameterValue, hv]
    have hcells : parameterCells named (rest.takeWhile isParameterChar) = valueCells v := by
      rw [parameterCells, hv]
      rfl
    rw [parametersOutside, if_pos hstart, bindOutside, if_pos hstart, hfirst, ih hrest]
    show Except.ok (valueCells v ++ _) = .ok (parameterCells named _ ++ _)
    rw [hcells]
    rfl
  | case3 before c rest hstart ih =>
    rw [parametersOutside, if_neg hstart] at h
    rw [parametersOutside, if_neg hstart, bindOutside, if_neg hstart, ih h]
    rfl

/-- A statement that mentions only parameters with values is bound by the rule. -/
theorem bindOutside_of_mentions {named : Members} {s : List Char} (strict : Bool)
    (h : ∀ before name, Mentions s before name → (named.get? name).isSome) :
    bindOutside named strict [] s = .ok (boundCells named (namedTokens s)) := by
  have hrule := (namedScan s).parametersOutside_eq (not_inLiteral_nil s) fun _ => rfl
  rw [bindOutside_eq, hrule, boundCells_characters]
  rw [hrule, parameterNames_characters]
  intro name hname
  obtain ⟨before, hmentions⟩ := mem_parameterNames_namedTokens.mp hname
  exact h before name hmentions

/-- **One rule for both scans.** Numbering numbers the question marks that stand outside of
literals, and binding binds the parameters that the rule finds; both copy all else. The scans take
the same literals, and of each place in the text the rule tells what they take there. -/
theorem scans_agree (sql : String) :
    numberMarks sql = String.ofList (numberOutside 1 [] (stripNullOrdering sql).toList) ∧
      (∀ named strict, bindNamed sql named strict =
        (bindOutside named strict [] sql.toList).map
          fun places => ⟨String.ofList (boundText places), markedValues places⟩) ∧
      literalSpans 0 ((namedTokens sql.toList).map NamedToken.source) =
        literalSpans 0 ((markedTokens sql.toList).map MarkedToken.source) ∧
      ∀ before c after, sql.toList = before ++ c :: after →
        (c = '?' → (Begins MarkedToken.source (markedTokens sql.toList) before .mark ↔
          ¬ InLiteral before after)) ∧
        (c = ':' → ∀ name,
          (Begins NamedToken.source (namedTokens sql.toList) before (.parameter name) ↔
            StartsParameter before after ∧ name = after.takeWhile isParameterChar)) ∧
        (c ≠ '\'' →
          (InSpan (literalSpans 0 ((namedTokens sql.toList).map NamedToken.source)) before.length ↔
            InLiteral before after)) := by
  have hout := not_inLiteral_nil sql.toList
  have hcolons : sql.toList.head? = some ':' → colonRun [] % 2 = 0 := fun _ => rfl
  have hnamed := namedScan sql.toList
  have hpieces : Scan PieceStep sql.toList ((namedTokens sql.toList).map NamedToken.source) :=
    hnamed.map fun h => h.pieceStep
  refine ⟨?_, bindNamed_eq sql, hpieces.literalSpans_eq 0, fun before c after hs =>
    ⟨?_, ?_, fun hc => ?_⟩⟩
  · unfold numberMarks
    rw [numberTokens_markedTokens _ 1 [] rfl]
  · rintro rfl
    exact (markedScan sql.toList).begins_mark_iff hout hs
  · rintro rfl name
    exact hnamed.begins_parameter_iff hout hcolons hs
  · have hspan := hpieces.inSpan_iff hout hs hc 0
    rwa [Nat.zero_add] at hspan

example : namedTokens "a::b=:c'::d':e".toList =
    [.copied ['a'], .copied [':', ':'], .copied ['b'], .copied ['='], .parameter ['c'],
      .copied "'::d'".toList, .parameter ['e']] := by
  cbv

/-! ## Markers outside of literals -/

/-- The number of question marks outside of literals in the part of a text behind `before`. -/
def openMarks (before : List Char) : List Char → Nat
  | [] => 0
  | c :: rest =>
    if c = '?' ∧ ¬ InLiteral before rest then openMarks (before ++ [c]) rest + 1
    else openMarks (before ++ [c]) rest

theorem inLiteral_of_openMarks_eq_zero {s text before after : List Char}
    (h : openMarks text s = 0) (hs : s = before ++ '?' :: after) :
    InLiteral (text ++ before) after := by
  induction s generalizing text before with
  | nil => simp at hs
  | cons c s ih =>
    unfold openMarks at h
    split at h
    · omega
    · rename_i hmark
      cases before with
      | nil =>
        cases hs
        rw [List.append_nil]
        exact Decidable.of_not_not fun hin => hmark ⟨rfl, hin⟩
      | cons d before =>
        cases hs
        have hrest := ih h rfl
        rwa [List.append_assoc] at hrest

/-- Where literals tell markers apart, the question marks outside of literals are the markers. -/
theorem openMarks_eq_count {text : List Char} {cells : List Cell} (h : MarksAgree text cells) :
    openMarks text (cellText cells) = cells.count .placeholder := by
  induction cells generalizing text with
  | nil => rfl
  | cons cell cells ih =>
    obtain ⟨hcell, hcells⟩ := marksAgree_cons.mp h
    show openMarks text (cell.char :: cellText cells) = _
    unfold openMarks
    rw [ih hcells, List.count_cons]
    by_cases hmark : cell.char = '?'
    · have hiff := hcell hmark
      by_cases hin : InLiteral text (cellText cells)
      · have hne : cell ≠ .placeholder := fun h => hiff.mp h hin
        rw [if_neg (fun h => h.2 hin), if_neg (by simpa using hne), Nat.add_zero]
      · have heq : cell = .placeholder := hiff.mpr hin
        rw [if_pos ⟨hmark, hin⟩, if_pos (by simpa using heq)]
    · have hne : cell ≠ .placeholder := by
        rintro rfl
        exact hmark rfl
      rw [if_neg (fun h => hmark h.1), if_neg (by simpa using hne), Nat.add_zero]

theorem count_placeholder_map_cell (cells : List BoundCell) :
    (cells.map BoundCell.cell).count .placeholder = (markedValues cells).length := by
  induction cells with
  | nil => rfl
  | cons cell cells ih =>
    unfold markedValues at ih ⊢
    cases cell with
    | plain c =>
      rw [List.map_cons, List.count_cons_of_ne (by intro h; cases h), ih]
      rfl
    | marker v =>
      show ((Cell.placeholder :: cells.map BoundCell.cell).count .placeholder) = _
      rw [List.count_cons_self, ih]
      rfl

theorem inLiteral_congr {before before' after after' : List Char}
    (hbefore : before.count '\'' = before'.count '\'')
    (hafter : after.count '\'' = after'.count '\'') :
    InLiteral before after ↔ InLiteral before' after' := by
  unfold InLiteral
  rw [hbefore, ← List.count_pos_iff, ← List.count_pos_iff, hafter]

/-! ## Removing characters -/

/-- A character that decides where literals and question marks are. -/
def isTelling (c : Char) : Bool :=
  c == '\'' || c == '?'

theorem ne_of_isTelling_eq_false {c : Char} (h : isTelling c = false) : c ≠ '?' ∧ c ≠ '\'' := by
  constructor <;> rintro rfl <;> exact absurd h (by decide)

/-- A blank is neither a question mark nor an apostrophe. -/
theorem isTelling_eq_false_of_isBlank {c : Char} (h : Text.isBlank c = true) :
    isTelling c = false := by
  have hmark : c ≠ '?' := by
    rintro rfl
    exact absurd h (by decide)
  have hquote : c ≠ '\'' := by
    rintro rfl
    exact absurd h (by decide)
  simp [isTelling, hmark, hquote]

theorem count_filter_isTelling (cells : List Cell) :
    (cellText (cells.filter (isTelling ∘ Cell.char))).count '\'' = (cellText cells).count '\'' := by
  unfold cellText
  rw [← List.filter_map, List.count_filter (by decide)]

theorem marksAgree_congr {text text' : List Char} (h : text.count '\'' = text'.count '\'')
    {cells : List Cell} (hcells : MarksAgree text cells) : MarksAgree text' cells := by
  intro before cell after heq hmark
  exact (hcells before cell after heq hmark).trans
    (not_congr (inLiteral_congr (count_append_congr h (cellText before)) rfl))

/-- What is neither a question mark nor an apostrophe has no say. -/
theorem marksAgree_filter {text : List Char} {cells : List Cell} :
    MarksAgree text (cells.filter (isTelling ∘ Cell.char)) ↔ MarksAgree text cells := by
  induction cells generalizing text with
  | nil => exact Iff.rfl
  | cons cell cells ih =>
    by_cases htelling : (isTelling ∘ Cell.char) cell = true
    · have hiff : InLiteral text (cellText (cells.filter (isTelling ∘ Cell.char))) ↔
          InLiteral text (cellText cells) := inLiteral_congr rfl (count_filter_isTelling cells)
      rw [List.filter_cons_of_pos htelling, marksAgree_cons, marksAgree_cons, ih, hiff]
    · obtain ⟨hmark, hquote⟩ := ne_of_isTelling_eq_false (Bool.eq_false_iff.mpr htelling)
      have hcount := count_concat_of_ne hquote text
      rw [List.filter_cons_of_neg htelling, marksAgree_cons, ih]
      constructor
      · intro h
        exact ⟨fun h' => absurd h' hmark, marksAgree_congr hcount.symm h⟩
      · rintro ⟨_, h⟩
        exact marksAgree_congr hcount h

theorem MarksAgree.of_filter_eq {text : List Char} {cells kept : List Cell}
    (h : MarksAgree text cells)
    (heq : kept.filter (isTelling ∘ Cell.char) = cells.filter (isTelling ∘ Cell.char)) :
    MarksAgree text kept := by
  rw [← marksAgree_filter, heq]
  exact marksAgree_filter.mpr h

/-! ## What binding keeps -/

/-- A place in parts put together lies in one of them. -/
theorem exists_part_of_flatMap {α β : Type} {f : α → List β} {ts : List α} {before after : List β}
    {c : β} (h : ts.flatMap f = before ++ c :: after) :
    ∃ earlier t later first last, ts = earlier ++ t :: later ∧ f t = first ++ c :: last ∧
      before = earlier.flatMap f ++ first ∧ after = last ++ later.flatMap f := by
  induction ts generalizing before with
  | nil => simp at h
  | cons t ts ih =>
    rw [List.flatMap_cons] at h
    rcases split_place h with ⟨before', rfl, hrest⟩ | ⟨tail, hpart, rfl⟩
    · obtain ⟨earlier, u, later, first, last, rfl, hu, rfl, rfl⟩ := ih hrest
      refine ⟨t :: earlier, u, later, first, last, rfl, hu, ?_, rfl⟩
      rw [List.flatMap_cons, List.append_assoc]
    · exact ⟨[], t, ts, before, tail, rfl, hpart, rfl, rfl⟩

/-- A name of a parameter is a run of characters of names. -/
theorem Scan.exists_takeWhile_of_mem {s name : List Char} {ts : List NamedToken}
    (h : Scan NamedStep s ts) (hname : .parameter name ∈ ts) :
    ∃ rest : List Char, name = rest.takeWhile isParameterChar := by
  induction h with
  | done => cases hname
  | step hstep _ ih =>
    rcases List.mem_cons.mp hname with rfl | hname
    · cases hstep
      exact ⟨_, rfl⟩
    · exact ih hname

theorem not_mem_boundText_markerList {c : Char} (hmark : c ≠ '?') (hcomma : c ≠ ',')
    (vs : List Value) : c ∉ boundText (markerList vs) := by
  induction vs with
  | nil => exact List.not_mem_nil
  | cons v rest ih =>
    cases rest with
    | nil =>
      show c ∉ ['?']
      simpa using hmark
    | cons w rest =>
      show c ∉ '?' :: ',' :: boundText (markerList (w :: rest))
      simp only [List.mem_cons, not_or]
      exact ⟨hmark, hcomma, ih⟩

/-- What replaces a parameter has no apostrophe. -/
theorem count_boundText_valueCells (v : Value) : (boundText (valueCells v)).count '\'' = 0 := by
  have hlist : ∀ items, (boundText (markerList items)).count '\'' = 0 := fun items =>
    List.count_eq_zero.mpr (not_mem_boundText_markerList (by decide) (by decide) items)
  cases v with
  | list items =>
    cases items with
    | nil => rfl
    | cons v rest => exact hlist (v :: rest)
  | tuple items =>
    cases items with
    | nil => rfl
    | cons v rest => exact hlist (v :: rest)
  | _ => rfl

theorem eq_marker_of_mem_markerList {vs : List Value} {cell : BoundCell}
    (hcell : cell ∈ markerList vs) (hmark : cell.cell.char = '?') : cell.cell = .placeholder := by
  induction vs with
  | nil => cases hcell
  | cons v rest ih =>
    cases rest with
    | nil =>
      obtain rfl := List.mem_singleton.mp hcell
      rfl
    | cons w rest =>
      rcases List.mem_cons.mp hcell with rfl | hcell
      · rfl
      rcases List.mem_cons.mp hcell with rfl | hcell
      · exact absurd hmark (by decide)
      · exact ih hcell

/-- What replaces a parameter has no question marks but markers. -/
theorem eq_marker_of_mem_valueCells {v : Value} {cell : BoundCell} (hcell : cell ∈ valueCells v)
    (hmark : cell.cell.char = '?') : cell.cell = .placeholder := by
  have hnull : cell ∈ plainCells "NULL".toList → cell.cell = .placeholder := by
    intro hcell
    obtain ⟨c, hc, rfl⟩ := List.mem_map.mp hcell
    obtain rfl : c = '?' := hmark
    exact absurd hc (by decide)
  have hone : ∀ w, valueCells v = [.marker w] → cell.cell = .placeholder := by
    intro w hw
    rw [hw] at hcell
    obtain rfl := List.mem_singleton.mp hcell
    rfl
  cases v with
  | list items =>
    cases items with
    | nil => exact hnull hcell
    | cons v rest => exact eq_marker_of_mem_markerList hcell hmark
  | tuple items =>
    cases items with
    | nil => exact hnull hcell
    | cons v rest => exact eq_marker_of_mem_markerList hcell hmark
  | _ => exact hone _ rfl

theorem count_boundText_parameterCells (named : Members) (name : List Char) :
    (boundText (parameterCells named name)).count '\'' = 0 := by
  unfold parameterCells
  cases named.get? (String.ofList name) with
  | none => rfl
  | some v => exact count_boundText_valueCells v

theorem eq_marker_of_mem_parameterCells {named : Members} {name : List Char} {cell : BoundCell}
    (hcell : cell ∈ parameterCells named name) (hmark : cell.cell.char = '?') :
    cell.cell = .placeholder := by
  unfold parameterCells at hcell
  cases hv : named.get? (String.ofList name) with
  | none =>
    rw [hv] at hcell
    cases hcell
  | some v =>
    rw [hv] at hcell
    exact eq_marker_of_mem_valueCells hcell hmark

section Kept

variable {s : List Char} {earlier later : List NamedToken}

theorem count_name_of_mem {name : List Char} (h : .parameter name ∈ namedTokens s) :
    name.count '\'' = 0 := by
  obtain ⟨rest, rfl⟩ := (namedScan s).exists_takeWhile_of_mem h
  exact List.count_eq_zero.mpr (not_mem_takeWhile (by decide) rest)

/-- Binding keeps the apostrophes of parts of a statement. -/
theorem count_boundText_boundCells (named : Members) {parts : List NamedToken}
    (hparts : ∀ t ∈ parts, t ∈ namedTokens s) :
    (boundText (boundCells named parts)).count '\'' =
      (parts.flatMap NamedToken.source).count '\'' := by
  induction parts with
  | nil => rfl
  | cons t parts ih =>
    obtain ⟨ht, hparts⟩ := List.forall_mem_cons.mp hparts
    have hfirst : (boundText (tokenCells named t)).count '\'' = t.source.count '\'' := by
      cases t with
      | copied piece =>
        show (boundText (plainCells piece)).count '\'' = piece.count '\''
        rw [boundText_plainCells]
      | parameter name =>
        show (boundText (parameterCells named name)).count '\'' = (':' :: name).count '\''
        rw [count_boundText_parameterCells, List.count_cons_of_ne (by decide),
          count_name_of_mem ht]
    unfold boundCells at ih ⊢
    rw [List.flatMap_cons, List.flatMap_cons, boundText_append, List.count_append,
      List.count_append, ih hparts, hfirst]

/-- A parameter stands outside of literals. -/
theorem not_inLiteral_of_parameter {name : List Char}
    (h : namedTokens s = earlier ++ .parameter name :: later) :
    ¬ InLiteral (earlier.flatMap NamedToken.source) (later.flatMap NamedToken.source) := by
  have hs := flatMap_source_namedTokens s
  rw [h, List.flatMap_append, List.flatMap_cons] at hs
  have hplace : s = earlier.flatMap NamedToken.source ++
      ':' :: (name ++ later.flatMap NamedToken.source) := hs.symm
  have hbegins : Begins NamedToken.source (namedTokens s) (earlier.flatMap NamedToken.source)
      (.parameter name) := ⟨earlier, later, h, rfl⟩
  rw [(namedScan s).begins_parameter_iff (not_inLiteral_nil s) (fun _ => rfl) hplace] at hbegins
  obtain ⟨⟨_, hout, _⟩, _⟩ := hbegins
  have hname : name.count '\'' = 0 := by
    refine count_name_of_mem (s := s) ?_
    rw [h]
    exact List.mem_append_right _ List.mem_cons_self
  have hcount : (name ++ later.flatMap NamedToken.source).count '\'' =
      (later.flatMap NamedToken.source).count '\'' := by
    rw [List.count_append, hname, Nat.zero_add]
  exact fun hin => hout ((inLiteral_congr rfl hcount).mpr hin)

/-- A question mark that binding copies stands in a literal, if there are none outside. -/
theorem inLiteral_of_copied (hs : openMarks [] s = 0) {inner tail : List Char}
    (h : namedTokens s = earlier ++ .copied (inner ++ '?' :: tail) :: later) :
    InLiteral (earlier.flatMap NamedToken.source ++ inner)
      (tail ++ later.flatMap NamedToken.source) := by
  have hplace := flatMap_source_namedTokens s
  rw [h, List.flatMap_append, List.flatMap_cons] at hplace
  have hsplit : s = (earlier.flatMap NamedToken.source ++ inner) ++
      '?' :: (tail ++ later.flatMap NamedToken.source) := by
    rw [← hplace]
    simp [NamedToken.source]
  have hin : InLiteral ([] ++ (earlier.flatMap NamedToken.source ++ inner))
      (tail ++ later.flatMap NamedToken.source) := inLiteral_of_openMarks_eq_zero hs hsplit
  exact hin

/-- **Markers of bound statements.** If a statement has no question marks outside of literals, then
in the bound statement just the markers are outside of literals. -/
theorem marksAgree_boundCells (named : Members) (hs : openMarks [] s = 0) :
    MarksAgree [] ((boundCells named (namedTokens s)).map BoundCell.cell) := by
  intro before cell after hcells hmark
  obtain ⟨before, more, hsplit, rfl, hmore⟩ := List.map_eq_append_iff.mp hcells
  obtain ⟨cell, after, rfl, rfl, rfl⟩ := List.map_eq_cons_iff.mp hmore
  obtain ⟨earlier, t, later, first, last, htokens, ht, rfl, rfl⟩ := exists_part_of_flatMap hsplit
  have hearlier : (boundText (boundCells named earlier)).count '\'' =
      (earlier.flatMap NamedToken.source).count '\'' :=
    count_boundText_boundCells named fun u hu => by
      rw [htokens]
      exact List.mem_append_left _ hu
  have hlater : (boundText (boundCells named later)).count '\'' =
      (later.flatMap NamedToken.source).count '\'' :=
    count_boundText_boundCells named fun u hu => by
      rw [htokens]
      exact List.mem_append_right _ (List.mem_cons_of_mem _ hu)
  show cell.cell = .placeholder ↔ ¬ InLiteral (boundText (boundCells named earlier ++ first))
    (boundText (last ++ boundCells named later))
  rw [boundText_append, boundText_append]
  cases t with
  | copied piece =>
    obtain ⟨inner, more, rfl, rfl, hmore⟩ := List.map_eq_append_iff.mp ht
    obtain ⟨c, tail, rfl, rfl, rfl⟩ := List.map_eq_cons_iff.mp hmore
    obtain rfl : c = '?' := hmark
    refine iff_of_false (fun h => by cases h) (not_not_intro ?_)
    refine (inLiteral_congr ?_ ?_).mp (inLiteral_of_copied hs htokens)
    · rw [List.count_append, List.count_append, hearlier]
      show _ = _ + (boundText (plainCells inner)).count '\''
      rw [boundText_plainCells]
    · rw [List.count_append, List.count_append, hlater]
      show _ = (boundText (plainCells tail)).count '\'' + _
      rw [boundText_plainCells]
  | parameter name =>
    have hcell : cell ∈ parameterCells named name := by
      rw [show parameterCells named name = first ++ cell :: last from ht]
      exact List.mem_append_right _ List.mem_cons_self
    have hcount : (boundText first).count '\'' + (boundText (cell :: last)).count '\'' = 0 := by
      rw [← List.count_append, ← boundText_append, ← ht]
      exact count_boundText_parameterCells named name
    have hlast : (boundText last).count '\'' ≤ (boundText (cell :: last)).count '\'' :=
      List.count_le_count_cons
    refine iff_of_true (eq_marker_of_mem_parameterCells hcell hmark) ?_
    refine fun hin => not_inLiteral_of_parameter htokens ((inLiteral_congr ?_ ?_).mp hin)
    · rw [List.count_append, hearlier]
      omega
    · rw [List.count_append, hlater]
      omega

end Kept

end SqlCompiler.Sql
