import SqlCompiler.Proofs.Sql.Completeness
import SqlCompiler.Proofs.Sql.Quoting

/-!
# Literals between bound texts

What a value is written as, between apostrophes, is a wall for binding: nothing in it is taken for a
parameter, and the texts on its two sides are bound as they would be alone (`bind_literal`). The
text before it must not leave a literal open. The text behind it may: its last apostrophe opens
nothing there either.
-/

namespace SqlCompiler.Sql

open Text (doubleMark doubleMark_singleton_cons)

variable {named : Members} {strict : Bool} {before before' piece rest : List Char}

/-! ## Binding one part behind another -/

theorem bindTokens_append (ts us : List NamedToken) :
    bindTokens named strict (ts ++ us) = do
      let first ← bindTokens named strict ts
      let second ← bindTokens named strict us
      return (first.1 ++ second.1, first.2 ++ second.2) := by
  induction ts with
  | nil =>
    rw [List.nil_append]
    cases bindTokens named strict us <;> rfl
  | cons t ts ih =>
    cases t with
    | copied s =>
      rw [List.cons_append, bindTokens_copied, bindTokens_copied, ih]
      cases bindTokens named strict ts with
      | error e => rfl
      | ok first =>
        cases bindTokens named strict us with
        | error e => rfl
        | ok second => exact congrArg (fun s => Except.ok (s, _)) (List.append_assoc _ _ _).symm
    | parameter cs =>
      rw [List.cons_append, bindTokens_parameter, bindTokens_parameter, ih]
      -- The value is looked up first, so its absence ends the binding of both sides alike.
      cases parameterValue named strict cs with
      | error e => rfl
      | ok v =>
        cases bindTokens named strict ts with
        | error e => rfl
        | ok first =>
          cases bindTokens named strict us with
          | error e => rfl
          | ok second =>
            show Except.ok (_ ++ (_ ++ _), _ ++ (_ ++ _)) = Except.ok (_ ++ _ ++ _, _ ++ _ ++ _)
            rw [List.append_assoc, List.append_assoc]

/-! ## What stands before a text -/

/-- Of what stands before a text it counts whether a literal may be open there, and how many colons
it ends in. -/
theorem startsParameter_congr (hquotes : before.count '\'' % 2 = before'.count '\'' % 2)
    (hruns : colonRun before = colonRun before') :
    StartsParameter before rest ↔ StartsParameter before' rest := by
  unfold StartsParameter InLiteral
  rw [hquotes, colonRun_append_congr hruns]

theorem count_append_mod_congr (h : before.count '\'' % 2 = before'.count '\'' % 2)
    (piece : List Char) :
    (before ++ piece).count '\'' % 2 = (before' ++ piece).count '\'' % 2 := by
  rw [List.count_append, List.count_append, Nat.add_mod, h, ← Nat.add_mod]

theorem parametersOutside_congr (hquotes : before.count '\'' % 2 = before'.count '\'' % 2)
    (hruns : colonRun before = colonRun before') (s : List Char) :
    parametersOutside before s = parametersOutside before' s := by
  fun_induction parametersOutside before s generalizing before' with
  | case1 => rw [parametersOutside]
  | case2 before c rest h _ ih =>
    rw [parametersOutside, if_pos ⟨h.1, (startsParameter_congr hquotes hruns).mp h.2⟩,
      ih (count_append_mod_congr hquotes _) (colonRun_append_congr hruns _)]
  | case3 before c rest h ih =>
    have h' : ¬ (c = ':' ∧ StartsParameter before' rest) := fun h' =>
      h ⟨h'.1, (startsParameter_congr hquotes hruns).mpr h'.2⟩
    rw [parametersOutside, if_neg h',
      ih (count_append_mod_congr hquotes _) (colonRun_append_congr hruns _)]

/-! ## What stands behind a text -/

/-- A name ends before an apostrophe. -/
theorem takeWhile_append_apostrophe (s rest : List Char) :
    (s ++ '\'' :: rest).takeWhile isParameterChar = s.takeWhile isParameterChar ∧
      (s ++ '\'' :: rest).dropWhile isParameterChar =
        s.dropWhile isParameterChar ++ '\'' :: rest := by
  induction s with
  | nil => exact ⟨rfl, rfl⟩
  | cons c s ih =>
    rw [List.cons_append, List.takeWhile_cons, List.takeWhile_cons, List.dropWhile_cons,
      List.dropWhile_cons]
    split
    · exact ⟨congrArg (c :: ·) ih.1, ih.2⟩
    · exact ⟨rfl, rfl⟩

/-- Where a text ends outside of literals, an apostrophe behind it does not change what starts in
it. -/
theorem startsParameter_append_apostrophe {after : List Char}
    (heven : (before ++ after).count '\'' % 2 = 0) :
    StartsParameter before (after ++ '\'' :: rest) ↔ StartsParameter before after := by
  have hhead : (after ++ '\'' :: rest).head?.any isParameterStart =
      after.head?.any isParameterStart := by
    cases after <;> rfl
  have hin : InLiteral before (after ++ '\'' :: rest) ↔ InLiteral before after := by
    refine and_congr_right fun hodd => iff_of_true (by simp) ?_
    rw [List.count_append] at heven
    exact List.count_pos_iff.mp (by omega)
  unfold StartsParameter
  rw [hhead, hin]

/-- A text that ends outside of literals is bound on its own if an apostrophe follows. -/
theorem parametersOutside_append_apostrophe (heven : (before ++ piece).count '\'' % 2 = 0) :
    parametersOutside before (piece ++ '\'' :: rest) =
      parametersOutside before piece ++ parametersOutside (before ++ piece) ('\'' :: rest) := by
  fun_induction parametersOutside before piece with
  | case1 => rw [List.nil_append, List.nil_append, List.append_nil]
  | case2 before c piece h _ ih =>
    obtain ⟨rfl, hstart⟩ := h
    obtain ⟨htake, hdrop⟩ := takeWhile_append_apostrophe piece rest
    have hsplit : before ++ ':' :: piece.takeWhile isParameterChar ++
        piece.dropWhile isParameterChar = before ++ ':' :: piece := by
      rw [List.append_assoc, List.cons_append, List.takeWhile_append_dropWhile]
    have hwhole : StartsParameter before (piece ++ '\'' :: rest) :=
      (startsParameter_append_apostrophe (by simpa using heven)).mpr hstart
    rw [List.cons_append, parametersOutside, if_pos ⟨rfl, hwhole⟩, htake, hdrop,
      ih (hsplit ▸ heven), hsplit, List.cons_append]
  | case3 before c piece h ih =>
    have hwhole : ¬ (c = ':' ∧ StartsParameter before (piece ++ '\'' :: rest)) := by
      rintro ⟨rfl, hstart⟩
      exact h ⟨rfl, (startsParameter_append_apostrophe (by simpa using heven)).mp hstart⟩
    have hsplit : before ++ [c] ++ piece = before ++ c :: piece := by
      rw [List.append_assoc, List.singleton_append]
    rw [List.cons_append, parametersOutside, if_neg hwhole, ih (hsplit ▸ heven), hsplit,
      List.cons_append]

/-! ## Literals between texts -/

/-- What a text is written as between apostrophes is read as a literal up to its end. -/
theorem literalTail?_doubleMark (s : List Char) :
    literalTail? (doubleMark ['\''] s ++ ['\'']) = some (doubleMark ['\''] s ++ ['\''], []) := by
  induction s with
  | nil => rw [doubleMark]; rfl
  | cons c s ih =>
    rw [doubleMark_singleton_cons]
    by_cases hc : c = '\''
    · rw [if_pos hc, List.cons_append, List.cons_append, literalTail?, ih]
    · rw [if_neg hc, List.cons_append, literalTail?, ih]
      · rfl
      · exact fun _ h _ => hc h
      · exact hc

/-- No parameter starts in a literal, and what stands before it does not matter behind it. -/
theorem parametersOutside_quoteText (heven : before.count '\'' % 2 = 0) (s : String)
    (rest : List Char) :
    parametersOutside before ((quoteText s).toList ++ rest) =
      (NamedToken.copied (quoteText s).toList).characters ++ parametersOutside [] rest := by
  have htail := literalTail?_doubleMark s.toList
  have hodd := count_of_literalTail? htail
  rw [toList_quoteText]
  generalize hbody : doubleMark ['\''] s.toList ++ ['\''] = body at htail hodd
  rw [parametersOutside_append]
  · refine congrArg _ (parametersOutside_congr ?_ ?_ rest)
    · rw [List.count_append, List.count_cons_self]
      show _ = 0
      omega
    · rw [← hbody, ← List.cons_append, ← List.append_assoc]
      exact colonRun_append_of_ne (by decide) _
  · rintro inner tail hpiece ⟨_, hout, _⟩
    cases inner with
    | nil => cases hpiece
    | cons c inner =>
      obtain ⟨rfl, hinner⟩ := List.cons.inj hpiece
      obtain ⟨hcount, hmem⟩ := inside_of_literalTail? htail hinner (by decide)
      refine hout ⟨?_, List.mem_append_left _ hmem⟩
      rw [List.count_append, List.count_cons_self]
      omega

/-- A literal divides the text around it: by the rule it is copied, and has no part in what is
found on its two sides. -/
theorem parametersOutside_around (heven : piece.count '\'' % 2 = 0) (s : String)
    (rest : List Char) :
    parametersOutside [] (piece ++ ((quoteText s).toList ++ rest)) =
      parametersOutside [] piece ++
        ((NamedToken.copied (quoteText s).toList).characters ++ parametersOutside [] rest) := by
  rw [← parametersOutside_quoteText heven, toList_quoteText, List.cons_append]
  exact parametersOutside_append_apostrophe heven

/-- **Opaque literals.** A text before a literal that leaves none open and any text behind the
literal are bound as if each stood alone; the literal is copied between them. -/
theorem bind_quoteText {pre : String} (heven : pre.toList.count '\'' % 2 = 0) (s post : String)
    (named : Members) (strict : Bool) (j : Log.Journal) :
    (bind (pre ++ quoteText s ++ post) named strict).outcome j = do
      let before ← (bind pre named strict).outcome j
      let behind ← (bind post named strict).outcome j
      return ⟨before.sql ++ quoteText s ++ behind.sql, before.arguments ++ behind.arguments⟩ := by
  rw [outcome_bind, outcome_bind, outcome_bind, String.toList_append, String.toList_append,
    List.append_assoc, bindTokens_namedTokens, parametersOutside_around heven, bindTokens_append,
    bindTokens_characters, bindTokens_copied, ← bindTokens_namedTokens, ← bindTokens_namedTokens]
  cases bindTokens named strict (namedTokens pre.toList) with
  | error e => rfl
  | ok before =>
    cases bindTokens named strict (namedTokens post.toList) with
    | error e => rfl
    | ok behind =>
      have htext : String.ofList (before.1 ++ ((quoteText s).toList ++ behind.1)) =
          String.ofList before.1 ++ quoteText s ++ String.ofList behind.1 := by
        rw [String.ofList_append, String.ofList_append, String.ofList_toList, String.append_assoc]
      exact congrArg (fun text => Except.ok (⟨text, before.2 ++ behind.2⟩ : Prepared)) htext

/-- A binding succeeds if every parameter that the text mentions has a value. -/
theorem exists_outcome_bind {sql : String} {named : Members}
    (h : ∀ before name, Mentions sql.toList before name → (named.get? name).isSome) (strict : Bool)
    (j : Log.Journal) : ∃ p, (bind sql named strict).outcome j = .ok p := by
  have hnamed : ∀ name ∈ parameterNames (namedTokens sql.toList), (named.get? name).isSome := by
    intro name hname
    obtain ⟨before, hmentions⟩ := mem_parameterNames_namedTokens.mp hname
    exact h before name hmentions
  rw [outcome_bind, bindTokens_eq strict hnamed]
  exact ⟨_, rfl⟩

/-- **Literals are opaque to binding.** A value that is written as a literal is put between a text
that leaves no literal open and any other text. If every parameter that the two mention has a value,
then both are bound, and so is the whole: as the two are, one behind the other, with the literal as
it is between them. -/
theorem bind_literal {v : Value} {s pre post : String} {named : Members}
    (hv : literal v = quoteText s) (heven : pre.toList.count '\'' % 2 = 0)
    (hpre : ∀ before name, Mentions pre.toList before name → (named.get? name).isSome)
    (hpost : ∀ before name, Mentions post.toList before name → (named.get? name).isSome)
    (strict : Bool) (j : Log.Journal) :
    ∃ p q, (bind pre named strict).outcome j = .ok p ∧ (bind post named strict).outcome j = .ok q ∧
      (bind (pre ++ literal v ++ post) named strict).outcome j =
        .ok ⟨p.sql ++ literal v ++ q.sql, p.arguments ++ q.arguments⟩ := by
  obtain ⟨p, hp⟩ := exists_outcome_bind hpre strict j
  obtain ⟨q, hq⟩ := exists_outcome_bind hpost strict j
  refine ⟨p, q, hp, hq, ?_⟩
  rw [hv, bind_quoteText heven, hp, hq]
  rfl

/-- A literal with an apostrophe, a colon and a question mark in it, before a text that begins with
a literal of its own and leaves another one open. -/
theorem bind_literal_touching :
    literal (.object [("it's :x", .list [.text "?"])]) = quoteText "\x7b\"it's :x\":[\"?\"]\x7d" ∧
      "SELECT ':b' WHERE a = :a AND b = ".toList.count '\'' % 2 = 0 ∧
      ∃ p q,
        (bind "SELECT ':b' WHERE a = :a AND b = " [("a", .int 1), ("d", .list [.null])] true).outcome
            .empty = .ok p ∧
          (bind "':c' OR d IN (:d) OR '" [("a", .int 1), ("d", .list [.null])] true).outcome
            .empty = .ok q ∧
          (bind ("SELECT ':b' WHERE a = :a AND b = " ++
              literal (.object [("it's :x", .list [.text "?"])]) ++ "':c' OR d IN (:d) OR '")
            [("a", .int 1), ("d", .list [.null])] true).outcome .empty =
              .ok ⟨p.sql ++ literal (.object [("it's :x", .list [.text "?"])]) ++ q.sql,
                p.arguments ++ q.arguments⟩ := by
  have hliteral : literal (.object [("it's :x", .list [.text "?"])]) =
      quoteText "\x7b\"it's :x\":[\"?\"]\x7d" := by
    decide +kernel
  have heven : "SELECT ':b' WHERE a = :a AND b = ".toList.count '\'' % 2 = 0 := by
    decide +kernel
  have hpre : parameterNames (namedTokens "SELECT ':b' WHERE a = :a AND b = ".toList) = ["a"] := by
    decide +kernel
  have hpost : parameterNames (namedTokens "':c' OR d IN (:d) OR '".toList) = ["d"] := by
    decide +kernel
  refine ⟨hliteral, heven, bind_literal hliteral heven ?_ ?_ true .empty⟩
  · intro before name h
    have hname := mem_parameterNames_namedTokens.mpr ⟨before, h⟩
    rw [hpre, List.mem_singleton] at hname
    rw [hname]
    rfl
  · intro before name h
    have hname := mem_parameterNames_namedTokens.mpr ⟨before, h⟩
    rw [hpost, List.mem_singleton] at hname
    rw [hname]
    rfl

end SqlCompiler.Sql
