import SqlCompiler.Proofs.Database.Preparation
import SqlCompiler.Proofs.Schema.Checking

/-!
# Complete binding

Binding looks at each mention of a parameter. A strict binding fails exactly if some parameter that
is mentioned has no value, and reports the first of them (`bindTokens_eq_error_iff`,
`exists_firstMissing_iff`). One that is not strict always succeeds, as a strict one with null for
each parameter without a value (`bindTokens_false`). What has been bound mentions no parameter any
more, though its text was put together anew (`Scan.parametersOutside_boundText`), and it has a
question mark more for each argument (`Scan.openMarks_boundText`).
-/

namespace SqlCompiler

/-! ## Null for what has no value -/

namespace Members

/-- The members with null under each of some keys that has no value. -/
def withNulls (members : Members) (keys : List String) : Members :=
  keys.foldl (fun members key => if (members.get? key).isSome then members
    else members.put key .null) members

theorem get?_withNulls (members : Members) (keys : List String) (key : String) :
    (members.withNulls keys).get? key =
      (members.get? key).or (if key ∈ keys then some .null else none) := by
  unfold withNulls
  induction keys generalizing members with
  | nil => rw [if_neg List.not_mem_nil, Option.or_none]; rfl
  | cons k keys ih =>
    rw [List.foldl_cons, ih]
    by_cases hsome : (members.get? k).isSome = true
    · rw [if_pos hsome]
      by_cases hkey : key = k
      · obtain ⟨v, hv⟩ := Option.isSome_iff_exists.mp hsome
        rw [hkey, hv, Option.some_or, Option.some_or]
      · simp only [List.mem_cons, hkey, false_or]
    · rw [if_neg hsome, get?_put]
      by_cases hkey : key = k
      · have hnone : members.get? k = none := by simpa using hsome
        rw [if_pos hkey, hkey, hnone, if_pos List.mem_cons_self, Option.some_or, Option.none_or]
      · simp only [List.mem_cons, hkey, false_or, if_false]

end Members

namespace Sql

variable {named : Members} {strict : Bool} {s text text' rest before : List Char}
  {ts : List NamedToken} {name : String}

/-! ## Parameters without values -/

/-- The first parameter that a text mentions and that has no value. -/
structure FirstMissing (s : List Char) (named : Members) (before : List Char) (name : String) :
    Prop where
  mentions : Mentions s before name
  missing : named.get? name = none
  first : ∀ earlier other, Mentions s earlier other → earlier.length < before.length →
    (named.get? other).isSome

theorem map_eq_error_iff {ε α β : Type} {x : Except ε α} {f : α → β} {e : ε} :
    x.map f = .error e ↔ x = .error e := by
  cases x with
  | error _ =>
    exact ⟨fun h => congrArg _ (Except.error.inj h), fun h => congrArg _ (Except.error.inj h)⟩
  | ok _ => exact iff_of_false nofun nofun

/-- A strict binding fails at the first part that is a parameter without a value. -/
theorem bindTokens_eq_error_iff {e : MissingParameter} : bindTokens named true ts = .error e ↔
    ∃ earlier name later, ts = earlier ++ .parameter name.toList :: later ∧
      (∀ other ∈ parameterNames earlier, (named.get? other).isSome) ∧
      named.get? name = none ∧ e = missingParameter named name := by
  induction ts with
  | nil =>
    refine iff_of_false nofun ?_
    rintro ⟨earlier, name, later, h, _⟩
    simp at h
  | cons t ts ih =>
    cases t with
    | copied piece =>
      rw [bindTokens_copied, map_eq_error_iff, ih]
      constructor
      · rintro ⟨earlier, name, later, rfl, h⟩
        exact ⟨.copied piece :: earlier, name, later, rfl, h⟩
      · rintro ⟨earlier, name, later, hsplit, h⟩
        cases earlier with
        | nil => cases hsplit
        | cons t earlier =>
          cases hsplit
          exact ⟨earlier, name, later, rfl, h⟩
    | parameter cs =>
      rcases hget : named.get? (String.ofList cs) with _ | v
      · rw [bindTokens_parameter_of_none hget]
        constructor
        · intro h
          refine ⟨[], String.ofList cs, ts, ?_, nofun, hget, (Except.error.inj h).symm⟩
          rw [String.toList_ofList]
          rfl
        · rintro ⟨earlier, name, later, hsplit, hpresent, _, rfl⟩
          cases earlier with
          | nil =>
            cases hsplit
            rw [String.ofList_toList]
          | cons t earlier =>
            cases hsplit
            have hsome := hpresent (String.ofList cs) List.mem_cons_self
            rw [hget] at hsome
            cases hsome
      · rw [bindTokens_parameter_of_some hget, map_eq_error_iff, ih]
        constructor
        · rintro ⟨earlier, name, later, rfl, hpresent, h⟩
          have hsome : (named.get? (String.ofList cs)).isSome := by
            rw [hget]
            rfl
          exact ⟨.parameter cs :: earlier, name, later, rfl,
            List.forall_mem_cons.mpr ⟨hsome, hpresent⟩, h⟩
        · rintro ⟨earlier, name, later, hsplit, hpresent, hnone, h⟩
          cases earlier with
          | nil =>
            cases hsplit
            rw [String.ofList_toList, hnone] at hget
            cases hget
          | cons t earlier =>
            cases hsplit
            exact ⟨earlier, name, later, rfl, (List.forall_mem_cons.mp hpresent).2, hnone, h⟩

/-- The part that a strict binding fails at is the first mention of a parameter without a value. -/
theorem exists_firstMissing_iff : (∃ before, FirstMissing s named before name) ↔
    ∃ earlier later, namedTokens s = earlier ++ .parameter name.toList :: later ∧
      (∀ other ∈ parameterNames earlier, (named.get? other).isSome) ∧ named.get? name = none := by
  constructor
  · rintro ⟨_, hmentions, hmissing, hfirst⟩
    obtain ⟨earlier, later, hsplit, rfl⟩ := mentions_iff.mp hmentions
    refine ⟨earlier, later, hsplit, fun other hother => ?_, hmissing⟩
    obtain ⟨near, far, rfl⟩ := List.append_of_mem (mem_parameterNames.mp hother)
    have hplace : namedTokens s = near ++ .parameter other.toList ::
        (far ++ .parameter name.toList :: later) := by
      rw [hsplit, List.append_assoc, List.cons_append]
    refine hfirst (near.flatMap NamedToken.source) other
      (mentions_iff.mpr ⟨near, _, hplace, rfl⟩) ?_
    rw [List.flatMap_append, List.flatMap_cons, List.length_append, List.length_append]
    show _ < _ + (other.toList.length + 1 + _)
    omega
  · rintro ⟨earlier, later, hsplit, hpresent, hmissing⟩
    refine ⟨_, mentions_iff.mpr ⟨earlier, later, hsplit, rfl⟩, hmissing, ?_⟩
    intro place other h hlt
    obtain ⟨near, far, hsplit', rfl⟩ := mentions_iff.mp h
    -- The earlier place is that of a part among those before.
    rcases List.append_eq_append_iff.mp (hsplit'.symm.trans hsplit) with
      ⟨between, rfl, hfar⟩ | ⟨between, rfl, _⟩
    · cases between with
      | nil =>
        rw [List.append_nil] at hlt
        exact absurd hlt (Nat.lt_irrefl _)
      | cons t between =>
        obtain ⟨rfl, _⟩ := List.cons.inj hfar
        exact hpresent other (mem_parameterNames.mpr (List.mem_append_right _ List.mem_cons_self))
    · rw [List.flatMap_append, List.length_append] at hlt
      omega

/-! ## Binding that is not strict -/

/-- A strict binding that succeeds gives what one that is not strict gives. -/
theorem bindTokens_false_of_true {bound : List Char × List Value}
    (h : bindTokens named true ts = .ok bound) : bindTokens named false ts = .ok bound := by
  induction ts generalizing bound with
  | nil => exact h
  | cons t ts ih =>
    cases t with
    | copied piece =>
      rw [bindTokens_copied] at h ⊢
      rcases hrest : bindTokens named true ts with e | tail
      · rw [hrest] at h
        cases h
      · rw [hrest] at h
        rw [ih hrest]
        exact h
    | parameter cs =>
      rcases hget : named.get? (String.ofList cs) with _ | v
      · rw [bindTokens_parameter_of_none hget] at h
        cases h
      · rw [bindTokens_parameter_of_some hget] at h ⊢
        rcases hrest : bindTokens named true ts with e | tail
        · rw [hrest] at h
          cases h
        · rw [hrest] at h
          rw [ih hrest]
          exact h

/-- Without strictness a parameter without a value is bound to null. -/
theorem bindTokens_false_eq {full : Members}
    (h : ∀ name ∈ parameterNames ts, full.get? name = some ((named.get? name).getD .null)) :
    bindTokens named false ts = bindTokens full true ts := by
  induction ts with
  | nil => rfl
  | cons t ts ih =>
    cases t with
    | copied piece => rw [bindTokens_copied, bindTokens_copied, ih h]
    | parameter cs =>
      obtain ⟨hfirst, hrest⟩ := List.forall_mem_cons.mp h
      rw [bindTokens_parameter_of_some hfirst, ← ih hrest, bindTokens]
      rcases named.get? (String.ofList cs) with _ | v
      · cases bindTokens named false ts <;> rfl
      · cases bindTokens named false ts <;> rfl

/-- The members `full` are `named` with null for each parameter that a text mentions and that has
no value. -/
structure NullFilled (s : List Char) (named full : Members) : Prop where
  kept : ∀ name value, named.get? name = some value → full.get? name = some value
  filled : ∀ before name, Mentions s before name → named.get? name = none →
    full.get? name = some .null
  only : ∀ name, (full.get? name).isSome →
    (named.get? name).isSome ∨ ∃ before, Mentions s before name

theorem nullFilled_withNulls (s : List Char) (named : Members) :
    NullFilled s named (named.withNulls (parameterNames (namedTokens s))) := by
  constructor
  case kept =>
    intro name value hvalue
    rw [Members.get?_withNulls, hvalue, Option.some_or]
  case filled =>
    intro before name hmentions hnone
    rw [Members.get?_withNulls, hnone, Option.none_or,
      if_pos (mem_parameterNames_namedTokens.mpr ⟨before, hmentions⟩)]
  case only =>
    intro name hsome
    by_cases hname : name ∈ parameterNames (namedTokens s)
    · exact .inr (mem_parameterNames_namedTokens.mp hname)
    · rw [Members.get?_withNulls, if_neg hname, Option.or_none] at hsome
      exact .inl hsome

theorem NullFilled.get? {full : Members} (h : NullFilled s named full)
    (hname : name ∈ parameterNames (namedTokens s)) :
    full.get? name = some ((named.get? name).getD .null) := by
  obtain ⟨before, hmentions⟩ := mem_parameterNames_namedTokens.mp hname
  rcases hvalue : named.get? name with _ | value
  · exact h.filled before name hmentions hvalue
  · exact h.kept name value hvalue

/-- The places of a statement that is bound with null for each parameter without a value. -/
def filledPlaces (named : Members) (s : List Char) : List BoundCell :=
  boundCells (named.withNulls (parameterNames (namedTokens s))) (namedTokens s)

theorem isSome_get?_withNulls (named : Members) (s : List Char) :
    ∀ name ∈ parameterNames (namedTokens s),
      ((named.withNulls (parameterNames (namedTokens s))).get? name).isSome := by
  intro name hname
  rw [(nullFilled_withNulls s named).get? hname]
  rfl

/-- A binding that is not strict succeeds. -/
theorem bindTokens_false (named : Members) (s : List Char) :
    bindTokens named false (namedTokens s) =
      .ok (boundText (filledPlaces named s), markedValues (filledPlaces named s)) := by
  rw [bindTokens_false_eq fun _ => (nullFilled_withNulls s named).get?]
  exact bindTokens_eq true (isSome_get?_withNulls named s)

/-! ## What is left to bind -/

theorem colonRun_append_congr (h : colonRun text = colonRun text') (piece : List Char) :
    colonRun (text ++ piece) = colonRun (text' ++ piece) := by
  induction piece generalizing text text' with
  | nil => rwa [List.append_nil, List.append_nil]
  | cons c piece ih =>
    rw [← List.singleton_append, ← List.append_assoc, ← List.append_assoc]
    refine ih ?_
    by_cases hc : c = ':'
    · rw [hc, colonRun_append_colon, colonRun_append_colon, h]
    · rw [colonRun_append_of_ne hc, colonRun_append_of_ne hc]

/-- Binding keeps apostrophes. -/
theorem Scan.count_boundText (h : Scan NamedStep s ts) (named : Members) :
    (boundText (boundCells named ts)).count '\'' = s.count '\'' := by
  induction h with
  | done => rfl
  | @step s rest t ts hstep _ ih =>
    have hfirst : (boundText (tokenCells named t)).count '\'' = t.source.count '\'' := by
      cases t with
      | copied piece => exact congrArg _ (boundText_plainCells piece)
      | parameter cs =>
        have hname : cs.count '\'' = 0 := by
          cases hstep
          exact List.count_eq_zero.mpr (not_mem_takeWhile (by decide) _)
        show (boundText (parameterCells named cs)).count '\'' = (':' :: cs).count '\''
        rw [count_boundText_parameterCells, List.count_cons_of_ne (by decide), hname]
    show (boundText (tokenCells named t ++ boundCells named ts)).count '\'' = _
    rw [boundText_append, List.count_append, ih, hfirst, ← hstep.pieceStep.append,
      List.count_append]

/-- A bound text begins as the text does, unless that begins with a parameter. -/
theorem Scan.head?_boundText (h : Scan NamedStep s ts) (named : Members)
    (hcolon : s.head? ≠ some ':') : (boundText (boundCells named ts)).head? = s.head? := by
  cases h with
  | done => rfl
  | @step _ rest t ts hstep _ =>
    have happend := hstep.pieceStep.append
    cases t with
    | parameter cs =>
      cases hstep
      exact absurd rfl hcolon
    | copied piece =>
      have hne : piece ≠ [] := by cases hstep <;> exact List.cons_ne_nil _ _
      obtain ⟨c, piece, rfl⟩ := List.exists_cons_of_ne_nil hne
      show (boundText (plainCells (c :: piece) ++ boundCells named ts)).head? = _
      rw [boundText_append, boundText_plainCells, ← happend]
      rfl

/-- What replaces a parameter is not empty and has no colon. -/
theorem boundText_valueCells_ne_nil (v : Value) :
    boundText (valueCells v) ≠ [] ∧ ':' ∉ boundText (valueCells v) := by
  have hlist : ∀ v items, boundText (markerList (v :: items)) ≠ [] ∧
      ':' ∉ boundText (markerList (v :: items)) := by
    intro v items
    refine ⟨?_, not_mem_boundText_markerList (by decide) (by decide) _⟩
    cases items with
    | nil => exact List.cons_ne_nil _ _
    | cons w items => exact List.cons_ne_nil _ _
  cases v with
  | list items =>
    cases items with
    | nil => exact ⟨by decide, by decide⟩
    | cons v rest => exact hlist v rest
  | tuple items =>
    cases items with
    | nil => exact ⟨by decide, by decide⟩
    | cons v rest => exact hlist v rest
  | _ => exact ⟨List.cons_ne_nil _ _, by show ':' ∉ ['?']; decide⟩

theorem parameterCells_eq {cs : List Char} (h : (named.get? (String.ofList cs)).isSome = true) :
    ∃ v, parameterCells named cs = valueCells v := by
  obtain ⟨v, hv⟩ := Option.isSome_iff_exists.mp h
  refine ⟨v, ?_⟩
  unfold parameterCells
  rw [hv]
  rfl

/-- **Bound once.** By the rule there is no parameter in a bound text. It is read behind `text'`,
which has as many apostrophes as what stands before the text and ends in as many colons. -/
theorem Scan.parametersOutside_boundText (h : Scan NamedStep s ts)
    (hnamed : ∀ name ∈ parameterNames ts, (named.get? name).isSome) (hout : ¬ InLiteral text s)
    (hcolons : s.head? = some ':' → colonRun text % 2 = 0)
    (hquotes : text'.count '\'' = text.count '\'') (hruns : colonRun text' = colonRun text) :
    parametersOutside text' (boundText (boundCells named ts)) =
      (boundText (boundCells named ts)).map fun c => .copied [c] := by
  induction h generalizing text text' with
  | done => rw [show boundText (boundCells named []) = [] from rfl, parametersOutside]; rfl
  | @step s rest t ts hstep hscan ih =>
    have hpiece := hstep.pieceStep
    have hrest := hpiece.outside hout
    have heven := hstep.colonRun_even hcolons
    have hsplit : boundText (boundCells named (t :: ts)) =
        boundText (tokenCells named t) ++ boundText (boundCells named ts) := boundText_append _ _
    rw [hsplit, List.map_append]
    cases t with
    | copied piece =>
      rw [show boundText (tokenCells named (.copied piece)) = piece from boundText_plainCells piece]
      rw [parametersOutside_append, ih hnamed hrest heven]
      · exact count_append_congr hquotes piece
      · exact colonRun_append_congr hruns piece
      · -- A parameter that starts in a copied part would have started there before.
        rintro inner tail rfl ⟨hhead, hopen, hodd⟩
        have hrun : colonRun (text ++ inner ++ [':']) % 2 = 1 := by
          rwa [← colonRun_append_congr (colonRun_append_congr hruns inner)]
        have hafter : (tail ++ rest).head?.any isParameterStart = true := by
          cases tail with
          | cons c tail => exact hhead
          | nil =>
            by_cases hcolon : rest.head? = some ':'
            · have heven := heven hcolon
              rw [show (NamedToken.copied (inner ++ [':'])).source = inner ++ [':'] from rfl,
                ← List.append_assoc] at heven
              omega
            · rwa [List.nil_append, hscan.head?_boundText named hcolon] at hhead
        have hstart : StartsParameter (text ++ inner) (tail ++ rest) := by
          refine ⟨hafter, fun hin => hopen ((inLiteral_congr ?_ ?_).mp hin), hrun⟩
          · exact count_append_congr hquotes.symm inner
          · rw [List.count_append, List.count_append, hscan.count_boundText]
        have htaken := (hstep.startsParameter_iff hout hcolons rfl).mpr ⟨hstart, rfl⟩
        cases htaken.2
    | parameter cs =>
      obtain ⟨hfirst, hnamed⟩ := List.forall_mem_cons.mp hnamed
      obtain ⟨v, hv⟩ := parameterCells_eq hfirst
      obtain ⟨hne, hnot⟩ := boundText_valueCells_ne_nil v
      have hcells : boundText (tokenCells named (.parameter cs)) = boundText (valueCells v) :=
        congrArg boundText hv
      have hname : (∀ c ∈ cs, c ≠ ':') ∧ cs ≠ [] ∧ cs.count '\'' = 0 := by
        cases hstep with
        | parameter hstart =>
          refine ⟨?_, takeWhile_ne_nil hstart, ?_⟩
          · rintro c hc rfl
            exact not_mem_takeWhile (by decide) _ hc
          · exact List.count_eq_zero.mpr (not_mem_takeWhile (by decide) _)
      rw [hcells, parametersOutside_append, ih hnamed hrest heven]
      · rw [List.count_append, List.count_append, hquotes, count_boundText_valueCells]
        show _ = _ + (':' :: cs).count '\''
        rw [List.count_cons_of_ne (by decide), hname.2.2]
      · rw [colonRun_append_of_forall hne fun c hc hcolon => hnot (hcolon ▸ hc)]
        show 0 = colonRun (text ++ ([':'] ++ cs))
        rw [← List.append_assoc, colonRun_append_of_forall hname.2.1 hname.1]
      · rintro inner tail hinner _
        refine hnot ?_
        rw [hinner]
        exact List.mem_append_right _ List.mem_cons_self

/-- Binding a text without parameters changes nothing. -/
theorem bindTokens_of_parametersOutside (h : parametersOutside [] s = s.map fun c => .copied [c]) :
    bindTokens named strict (namedTokens s) = .ok (s, []) := by
  have hcopied : bindTokens named strict (s.map fun c => .copied [c]) = .ok (s, []) := by
    clear h
    induction s with
    | nil => rfl
    | cons c s ih =>
      rw [List.map_cons, bindTokens_copied, ih]
      rfl
  rw [bindTokens_namedTokens, h, hcopied]

/-! ## Question marks of bound texts -/

/-- What two texts have in common in front adds as many question marks outside of literals to
both. -/
theorem openMarks_append_congr {piece rest rest' : List Char} {n : Nat}
    (hquotes : text'.count '\'' = text.count '\'') (hrest : rest'.count '\'' = rest.count '\'')
    (h : openMarks (text' ++ piece) rest' = openMarks (text ++ piece) rest + n) :
    openMarks text' (piece ++ rest') = openMarks text (piece ++ rest) + n := by
  induction piece generalizing text text' with
  | nil => simpa using h
  | cons c piece ih =>
    have hiff : InLiteral text' (piece ++ rest') ↔ InLiteral text (piece ++ rest) :=
      inLiteral_congr hquotes (by rw [List.count_append, List.count_append, hrest])
    have hmore : openMarks (text' ++ [c]) (piece ++ rest') =
        openMarks (text ++ [c]) (piece ++ rest) + n := by
      refine ih ?_ ?_
      · exact count_append_congr hquotes [c]
      · rw [List.append_assoc, List.append_assoc]
        exact h
    simp only [List.cons_append, openMarks, hiff, hmore]
    split
    · omega
    · rfl

/-- Outside of literals all question marks count. -/
theorem openMarks_append_of_not_inLiteral {piece rest : List Char} (hpiece : '\'' ∉ piece)
    (hout : ¬ InLiteral text (piece ++ rest)) :
    openMarks text (piece ++ rest) = piece.count '?' + openMarks (text ++ piece) rest := by
  induction piece generalizing text with
  | nil => rw [List.nil_append, List.append_nil, List.count_nil, Nat.zero_add]
  | cons c piece ih =>
    rw [List.mem_cons, not_or] at hpiece
    have hcount := count_concat_of_ne (Ne.symm hpiece.1) text
    have hsame : ∀ after, InLiteral (text ++ [c]) after ↔ InLiteral text after := fun _ =>
      inLiteral_congr hcount rfl
    have hnext : ¬ InLiteral text (piece ++ rest) := fun hin =>
      hout ⟨hin.1, List.mem_cons_of_mem _ hin.2⟩
    rw [List.cons_append, openMarks, ih hpiece.2 (fun hin => hnext ((hsame _).mp hin)),
      List.append_assoc, List.singleton_append]
    by_cases hmark : c = '?'
    · rw [if_pos ⟨hmark, hnext⟩, hmark, List.count_cons_self]
      omega
    · rw [if_neg fun h => hmark h.1, List.count_cons_of_ne hmark]

/-- What replaces a parameter has a question mark for each value. -/
theorem count_mark_boundText_valueCells (v : Value) :
    (boundText (valueCells v)).count '?' = (markedValues (valueCells v)).length := by
  have hall : ∀ cells : List BoundCell,
      (∀ cell ∈ cells, cell.cell.char = '?' → cell.cell = .placeholder) →
        (boundText cells).count '?' = (markedValues cells).length := by
    intro cells hcells
    induction cells with
    | nil => rfl
    | cons cell cells ih =>
      obtain ⟨hcell, hrest⟩ := List.forall_mem_cons.mp hcells
      cases cell with
      | marker v =>
        show ('?' :: boundText cells).count '?' = (v :: markedValues cells).length
        rw [List.count_cons_self, ih hrest, List.length_cons]
      | plain c =>
        have hc : c ≠ '?' := fun hc => by cases hcell hc
        show (c :: boundText cells).count '?' = (markedValues cells).length
        rw [List.count_cons_of_ne hc, ih hrest]
  exact hall _ fun cell hcell => eq_marker_of_mem_valueCells hcell

/-- **Question marks.** A bound text has as many question marks outside of literals as the text, and
one for each argument. -/
theorem Scan.openMarks_boundText (h : Scan NamedStep s ts)
    (hnamed : ∀ name ∈ parameterNames ts, (named.get? name).isSome) (hout : ¬ InLiteral text s)
    (hquotes : text'.count '\'' = text.count '\'') :
    openMarks text' (boundText (boundCells named ts)) =
      openMarks text s + (markedValues (boundCells named ts)).length := by
  induction h generalizing text text' with
  | done => rfl
  | @step s rest t ts hstep hscan ih =>
    have hpiece := hstep.pieceStep
    have hrest := hpiece.outside hout
    have hsplit : boundText (boundCells named (t :: ts)) =
        boundText (tokenCells named t) ++ boundText (boundCells named ts) := boundText_append _ _
    have hvalues : markedValues (boundCells named (t :: ts)) =
        markedValues (tokenCells named t) ++ markedValues (boundCells named ts) :=
      markedValues_append _ _
    rw [hsplit, hvalues, List.length_append, ← hpiece.append]
    cases t with
    | copied piece =>
      rw [show boundText (tokenCells named (.copied piece)) = piece from boundText_plainCells piece,
        show markedValues (tokenCells named (.copied piece)) = [] from
          markedValues_plainCells piece, List.length_nil, Nat.zero_add]
      refine openMarks_append_congr hquotes (hscan.count_boundText named) (ih hnamed hrest ?_)
      exact count_append_congr hquotes piece
    | parameter cs =>
      obtain ⟨hfirst, hnamed⟩ := List.forall_mem_cons.mp hnamed
      obtain ⟨v, hv⟩ := parameterCells_eq hfirst
      have hcells : tokenCells named (.parameter cs) = valueCells v := hv
      have hname : '\'' ∉ ':' :: cs ∧ (':' :: cs).count '?' = 0 := by
        cases hstep with
        | parameter hstart =>
          rw [List.mem_cons, not_or, List.count_cons_of_ne (by decide), List.count_eq_zero]
          exact ⟨⟨by decide, not_mem_takeWhile (by decide) _⟩, not_mem_takeWhile (by decide) _⟩
      have hnone : '\'' ∉ boundText (valueCells v) :=
        List.count_eq_zero.mp (count_boundText_valueCells v)
      have hsource : openMarks text ((NamedToken.parameter cs).source ++ rest) =
          openMarks (text ++ (NamedToken.parameter cs).source) rest := by
        rw [← hpiece.append] at hout
        have hmarks := openMarks_append_of_not_inLiteral hname.1 hout
        rwa [hname.2, Nat.zero_add] at hmarks
      have hbound :
          ¬ InLiteral text' (boundText (valueCells v) ++ boundText (boundCells named ts)) := by
        refine fun hin => hout ((inLiteral_congr hquotes ?_).mp hin)
        rw [List.count_append, count_boundText_valueCells, hscan.count_boundText, Nat.zero_add,
          ← hpiece.append, List.count_append]
        show _ = (':' :: cs).count '\'' + _
        rw [List.count_eq_zero.mpr hname.1, Nat.zero_add]
      have hnext : (text' ++ boundText (valueCells v)).count '\'' =
          (text ++ (NamedToken.parameter cs).source).count '\'' := by
        rw [List.count_append, List.count_append, hquotes, count_boundText_valueCells]
        exact congrArg _ (List.count_eq_zero.mpr hname.1).symm
      rw [hcells, openMarks_append_of_not_inLiteral hnone hbound, ih hnamed hrest hnext, hsource,
        count_mark_boundText_valueCells]
      exact Nat.add_left_comm _ _ _

/-! ## The binding of a statement -/

theorem outcome_bind (sql : String) (named : Members) (strict : Bool) (j : Log.Journal) :
    (bind sql named strict).outcome j =
      ((bindTokens named strict (namedTokens sql.toList)).map fun bound =>
        (⟨String.ofList bound.1, bound.2⟩ : Prepared)).mapError Error.missingParameter := by
  unfold bind bindNamed
  rw [Log.outcome_bind, Log.outcome_lift]
  cases bindTokens named strict (namedTokens sql.toList) <;> rfl

/-- A strict binding fails exactly with the error about the first parameter without a value. -/
theorem outcome_bind_eq_error_iff {sql : String} {j : Log.Journal} {e : Error} :
    (bind sql named true).outcome j = .error e ↔
      ∃ before name, FirstMissing sql.toList named before name ∧
        e = .missingParameter (missingParameter named name) := by
  have hplace : ∀ name, (∃ before, FirstMissing sql.toList named before name) ↔ _ := fun _ =>
    exists_firstMissing_iff
  rw [outcome_bind]
  constructor
  · intro h
    rcases htokens : bindTokens named true (namedTokens sql.toList) with missing | bound
    · obtain ⟨earlier, name, later, hsplit, hpresent, hnone, rfl⟩ :=
        bindTokens_eq_error_iff.mp htokens
      obtain ⟨before, hfirst⟩ := (hplace name).mpr ⟨earlier, later, hsplit, hpresent, hnone⟩
      rw [htokens] at h
      exact ⟨before, name, hfirst, (Except.error.inj h).symm⟩
    · rw [htokens] at h
      cases h
  · rintro ⟨before, name, hfirst, rfl⟩
    obtain ⟨earlier, later, hsplit, hpresent, hnone⟩ := (hplace name).mp ⟨before, hfirst⟩
    rw [bindTokens_eq_error_iff.mpr ⟨earlier, name, later, hsplit, hpresent, hnone, rfl⟩]
    rfl

/-- Some parameter without a value is the first one. -/
theorem exists_firstMissing (h : Mentions s before name) (hnone : named.get? name = none) :
    ∃ before name, FirstMissing s named before name := by
  induction hlength : before.length using Nat.strongRecOn generalizing before name with
  | ind n ih =>
    by_cases hfirst : ∀ earlier other, Mentions s earlier other →
        earlier.length < before.length → (named.get? other).isSome
    · exact ⟨before, name, h, hnone, hfirst⟩
    · simp only [Classical.not_forall, Option.not_isSome_iff_eq_none] at hfirst
      obtain ⟨earlier, other, hearlier, hlt, hnone⟩ := hfirst
      exact ih earlier.length (hlength ▸ hlt) hearlier hnone rfl

/-- What a binding gives is bound with null for each parameter without a value, strict or not. -/
theorem eq_of_outcome_bind_eq_ok {sql : String} {j : Log.Journal} {p : Prepared}
    (h : (bind sql named strict).outcome j = .ok p) :
    p = ⟨String.ofList (boundText (filledPlaces named sql.toList)),
      markedValues (filledPlaces named sql.toList)⟩ := by
  rw [outcome_bind] at h
  have hfalse : bindTokens named strict (namedTokens sql.toList) =
      bindTokens named false (namedTokens sql.toList) := by
    cases strict with
    | false => rfl
    | true =>
      rcases htokens : bindTokens named true (namedTokens sql.toList) with missing | bound
      · rw [htokens] at h
        cases h
      · exact (bindTokens_false_of_true htokens).symm
  rw [hfalse, bindTokens_false] at h
  exact (Except.ok.inj h).symm

/-- **Complete binding.** A strict binding fails if and only if some parameter that the statement
mentions has no value, and reports the first of them. One that is not strict succeeds, and gives
what a strict one gives if every parameter without a value gets null. What has been bound is not
changed by binding it again without any values, and has a question mark outside of literals more for
each argument. -/
theorem bind_complete (sql : String) (named : Members) (j : Log.Journal) :
    ((∃ e, (bind sql named true).outcome j = .error e) ↔
        ∃ before name, Mentions sql.toList before name ∧ named.get? name = none) ∧
      (∀ e, (bind sql named true).outcome j = .error e ↔
        ∃ before name, FirstMissing sql.toList named before name ∧
          e = .missingParameter (missingParameter named name)) ∧
      (∃ full, NullFilled sql.toList named full) ∧
      (∀ full, NullFilled sql.toList named full →
        ∃ p, (bind sql named false).outcome j = .ok p ∧ (bind sql full true).outcome j = .ok p) ∧
      ∀ strict p, (bind sql named strict).outcome j = .ok p →
        (bind p.sql [] true).outcome j = .ok ⟨p.sql, []⟩ ∧
          openMarks [] p.sql.toList = openMarks [] sql.toList + p.arguments.length := by
  have hscan := namedScan sql.toList
  have hsome := isSome_get?_withNulls named sql.toList
  refine ⟨⟨?_, ?_⟩, fun _ => outcome_bind_eq_error_iff, ⟨_, nullFilled_withNulls _ named⟩, ?_, ?_⟩
  · rintro ⟨e, h⟩
    obtain ⟨before, name, hfirst, _⟩ := outcome_bind_eq_error_iff.mp h
    exact ⟨before, name, hfirst.mentions, hfirst.missing⟩
  · rintro ⟨before, name, h, hnone⟩
    obtain ⟨before, name, hfirst⟩ := exists_firstMissing h hnone
    exact ⟨_, outcome_bind_eq_error_iff.mpr ⟨before, name, hfirst, rfl⟩⟩
  · intro full hfull
    have hsame : (bind sql full true).outcome j = (bind sql named false).outcome j := by
      rw [outcome_bind, outcome_bind, bindTokens_false_eq fun _ => hfull.get?]
    rw [hsame, outcome_bind, bindTokens_false]
    exact ⟨_, rfl, rfl⟩
  · intro strict p h
    cases eq_of_outcome_bind_eq_ok h
    have hclean := hscan.parametersOutside_boundText hsome (not_inLiteral_nil _) (fun _ => rfl)
      rfl rfl
    have hmarks := hscan.openMarks_boundText hsome (not_inLiteral_nil _) rfl
    rw [outcome_bind, String.toList_ofList, filledPlaces, bindTokens_of_parametersOutside hclean]
    exact ⟨rfl, hmarks⟩

end Sql

end SqlCompiler
