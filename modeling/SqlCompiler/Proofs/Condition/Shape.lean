import SqlCompiler.Proofs.Condition.Reading

/-!
# Conditions of the same shape

Two values have the same shape if they differ only in operands, and in these only in what no text
can depend on: `SameShape` has one rule for each form, and `SameOperand` says for each operator what
of its operand counts. Values of the same shape read as conditions with the same fragment
(`Reads.exists_sameFragment`), or neither reads as one. So operands never reach the text of a
statement (`compile_sameShape`).
-/

namespace SqlCompiler.ConditionTarget

open Log (Journal exists_error_of_forall_ne_ok)

variable {target : ConditionTarget}

/-! ## Shapes -/

/-- What of an operand counts: whether it is null for an equation, how many members it has for a
membership and a range, and whether there is anything to search for. -/
def SameOperand (v w : Value) : Operator → Prop
  | .eq | .neq => v.isNull = w.isNull
  | .isIn | .notIn => (collection? v).map List.length = (collection? w).map List.length
  | .between => (children? v).map List.length = (children? w).map List.length
  | .search => v.isPresent = w.isPresent
  | _ => True

/-- Tests of a column of the same shape: the same operators, of which the last one counts, or
operands that are both null or both not. -/
inductive SameTest : Value → Value → Prop
  | operators {members others : Members} (hkeys : members.keys = others.keys)
    (h : ∀ key operator v w, Operator.ofName? key = some operator →
      members.getLast? = some (key, v) → others.getLast? = some (key, w) →
        SameOperand v w operator) :
    SameTest (.object members) (.object others)
  | plain {v w : Value} (hv : ∀ members, v ≠ .object members)
    (hw : ∀ members, w ≠ .object members) (h : v.isNull = w.isNull) : SameTest v w

/-- Whether a value can be a condition. -/
def isCondition : Value → Bool
  | .null | .object _ => true
  | _ => false

mutual

/-- Values of the same shape. -/
inductive SameShape : Value → Value → Prop
  | null : SameShape .null .null
  | object {members others : List (String × Value)} (h : SameEntries members others) :
    SameShape (.object members) (.object others)
  | neither {v w : Value} (hv : isCondition v = false) (hw : isCondition w = false) :
    SameShape v w

/-- Members with the same keys in the same order, and values of the same shape. -/
inductive SameEntries : List (String × Value) → List (String × Value) → Prop
  | nil : SameEntries [] []
  | cons {key : String} {v w : Value} {members others : List (String × Value)}
    (h : SameEntry key v w) (hs : SameEntries members others) :
    SameEntries ((key, v) :: members) ((key, w) :: others)

/-- Values of the same shape under a key. -/
inductive SameEntry : String → Value → Value → Prop
  | test {column : String} {v w : Value} (hkey : IsColumnKey column) (h : SameTest v w) :
    SameEntry column v w
  | verbatim (sql : String) : SameEntry "$sql" (.text sql) (.text sql)
  | notVerbatim {v w : Value} (hv : v.text? = none) (hw : w.text? = none) : SameEntry "$sql" v w
  | combine {key : String} {combinator : Combinator} {v w : Value} {items others : List Value}
    (hkey : Combinator.ofName? key = some combinator) (hv : children? v = some items)
    (hw : children? w = some others) (h : SameChildren items others) : SameEntry key v w
  | notCombine {key : String} {combinator : Combinator} {v w : Value}
    (hkey : Combinator.ofName? key = some combinator) (hv : children? v = none)
    (hw : children? w = none) : SameEntry key v w

/-- As many values of the same shape each. -/
inductive SameChildren : List Value → List Value → Prop
  | nil : SameChildren [] []
  | cons {v w : Value} {items others : List Value} (h : SameShape v w)
    (hs : SameChildren items others) : SameChildren (v :: items) (w :: others)

end

theorem SameOperand.symm {v w : Value} {operator : Operator} (h : SameOperand v w operator) :
    SameOperand w v operator := by
  cases operator <;> first | exact Eq.symm h | exact trivial

theorem SameTest.symm {v w : Value} (h : SameTest v w) : SameTest w v := by
  cases h with
  | operators hkeys h =>
    exact .operators hkeys.symm fun key operator v w hop hv hw =>
      (h key operator w v hop hw hv).symm
  | plain hv hw h => exact .plain hw hv h.symm

mutual

theorem SameShape.symm {v w : Value} : SameShape v w → SameShape w v
  | .null => .null
  | .object h => .object h.symm
  | .neither hv hw => .neither hw hv

theorem SameEntries.symm {members others : List (String × Value)} :
    SameEntries members others → SameEntries others members
  | .nil => .nil
  | .cons h hs => .cons h.symm hs.symm

theorem SameEntry.symm {key : String} {v w : Value} : SameEntry key v w → SameEntry key w v
  | .test hkey h => .test hkey h.symm
  | .verbatim sql => .verbatim sql
  | .notVerbatim hv hw => .notVerbatim hw hv
  | .combine hkey hv hw h => .combine hkey hw hv h.symm
  | .notCombine hkey hv hw => .notCombine hkey hw hv

theorem SameChildren.symm {items others : List Value} :
    SameChildren items others → SameChildren others items
  | .nil => .nil
  | .cons h hs => .cons h.symm hs.symm

end

/-! ## Fragments of the same shape -/

theorem comparisonSql_of_sameOperand {v w : Value} (comparison : Comparison)
    (h : SameOperand v w comparison.operator) :
    comparisonSql comparison v = comparisonSql comparison w := by
  cases comparison with
  | eq | neq => cases v <;> cases w <;> first | rfl | cases h
  | gt | gte | lt | lte => rfl

/-- The fragment of a membership depends on the number of its operands only. -/
theorem predicateFragment_isMember_congr {vs ws : List Value} (h : vs.length = ws.length)
    (column : List String) (negated : Bool) :
    target.predicateFragment column (.isMember negated vs) =
      target.predicateFragment column (.isMember negated ws) := by
  cases vs with
  | nil =>
    rw [List.eq_nil_of_length_eq_zero h.symm]
  | cons v vs =>
    cases ws with
    | nil => cases h
    | cons w ws =>
      have hmap : (v :: vs).map (fun _ => Sql.Fragment.placeholder) =
          (w :: ws).map fun _ => Sql.Fragment.placeholder := by
        rw [List.map_const', List.map_const', h]
      unfold predicateFragment
      simp only [hmap]

theorem exists_collection_of_length {v w : Value} {vs : List Value}
    (h : (collection? v).map List.length = (collection? w).map List.length)
    (hv : collection? v = some vs) : ∃ ws, collection? w = some ws ∧ vs.length = ws.length := by
  rw [hv] at h
  obtain ⟨ws, hw, hlength⟩ := Option.map_eq_some_iff.mp h.symm
  exact ⟨ws, hw, hlength.symm⟩

theorem children?_of_pair? {v low high : Value} (h : pair? v = some (low, high)) :
    children? v = some [low, high] := by
  unfold pair? at h
  split at h <;> cases h <;> rfl

theorem exists_pair?_of_children? {v : Value} {items : List Value} (hv : children? v = some items)
    (hlength : items.length = 2) : ∃ low high, pair? v = some (low, high) := by
  match items, hlength with
  | [low, high], _ =>
    refine ⟨low, high, ?_⟩
    cases v <;> cases hv <;> rfl

theorem exists_pair_of_length {v w low high : Value}
    (h : (children? v).map List.length = (children? w).map List.length)
    (hv : pair? v = some (low, high)) : ∃ low' high', pair? w = some (low', high') := by
  rw [children?_of_pair? hv] at h
  obtain ⟨ws, hw, hlength⟩ := Option.map_eq_some_iff.mp h.symm
  exact exists_pair?_of_children? hw hlength

/-- An operand of the same shape asks for a predicate with the same fragment. -/
theorem ReadsOperand.exists_sameFragment {column : String} {operator : Operator} {v w : Value}
    {p : Predicate} (h : ReadsOperand target column operator v p)
    (hsame : SameOperand v w operator) (path : List String) :
    ∃ q, ReadsOperand target column operator w q ∧
      target.predicateFragment path p = target.predicateFragment path q := by
  cases h with
  | compare comparison hc =>
    refine ⟨_, .compare comparison hc, ?_⟩
    unfold predicateFragment
    simp only [comparisonSql_of_sameOperand comparison hsame]
  | @isMember v operands negated hv hc =>
    have hlengths : (collection? v).map List.length = (collection? w).map List.length := by
      cases negated <;> exact hsame
    obtain ⟨ws, hw, hlength⟩ := exists_collection_of_length hlengths hv
    refine ⟨_, .isMember negated hw fun hne => hc ?_,
      predicateFragment_isMember_congr hlength path negated⟩
    rintro rfl
    exact hne (List.eq_nil_of_length_eq_zero hlength.symm)
  | between hv hc =>
    obtain ⟨low', high', hw⟩ := exists_pair_of_length hsame hv
    exact ⟨_, .between hw hc, rfl⟩
  | contains hc => exact ⟨_, .contains hc, rfl⟩
  | matchesRegex hc => exact ⟨_, .matchesRegex hc, rfl⟩
  | search hc =>
    have hpresent : v.isPresent = w.isPresent := hsame
    refine ⟨_, .search fun hw => hc (hpresent.trans hw), ?_⟩
    unfold predicateFragment
    simp only [hpresent]

/-- Lists with the same keys have last members with the same key. -/
theorem exists_getLast_of_keys {members others : Members} {key : String} {v : Value}
    (hkeys : members.keys = others.keys) (h : members.getLast? = some (key, v)) :
    ∃ w, others.getLast? = some (key, w) := by
  have hlast : (Members.keys others).getLast? = some key := by
    rw [← hkeys, Members.keys, List.getLast?_map, h]
    rfl
  rw [Members.keys, List.getLast?_map] at hlast
  obtain ⟨⟨key', w⟩, hw, rfl⟩ := Option.map_eq_some_iff.mp hlast
  exact ⟨w, hw⟩

theorem ReadsTest.exists_sameFragment {column : String} {v w : Value} {p : Predicate}
    (h : ReadsTest target column v p) (hsame : SameTest v w) (path : List String) :
    ∃ q, ReadsTest target column w q ∧
      target.predicateFragment path p = target.predicateFragment path q := by
  cases h with
  | plain hv hc =>
    cases hsame with
    | operators hkeys h => exact absurd rfl (hv _)
    | plain _ hw hnull =>
      refine ⟨_, .plain hw hc, ?_⟩
      unfold predicateFragment
      simp only [comparisonSql_of_sameOperand .eq hnull]
  | operator hlast hop hp =>
    cases hsame with
    | operators hkeys h =>
      obtain ⟨w, hw⟩ := exists_getLast_of_keys hkeys hlast
      obtain ⟨q, hq, hfragment⟩ := hp.exists_sameFragment (h _ _ _ _ hop hlast hw) path
      exact ⟨q, .operator hw hop hq, hfragment⟩
    | plain hv _ _ => exact absurd rfl (hv _)

theorem entryFragment_combine_congr {children others : List Condition} (combinator : Combinator)
    (h : target.childFragments children = target.childFragments others) :
    target.entryFragment (.combine combinator children) =
      target.entryFragment (.combine combinator others) := by
  cases children with
  | nil =>
    cases others with
    | nil => rfl
    | cons other others => cases h
  | cons child children =>
    cases others with
    | nil => cases h
    | cons other others =>
      unfold entryFragment
      rw [h]

mutual

/-- A value of the same shape reads as a condition with the same fragments. -/
theorem Reads.exists_sameFragment {v w : Value} {c : Condition} :
    Reads target v c → SameShape v w →
      ∃ d, Reads target w d ∧ target.entryFragments c = target.entryFragments d
  | .null, hsame => by
    cases hsame with
    | null => exact ⟨_, .null, rfl⟩
    | neither hv _ => cases hv
  | .object h, hsame => by
    cases hsame with
    | object hsame =>
      obtain ⟨d, hd, hfragments⟩ := h.exists_sameFragment hsame
      exact ⟨d, .object hd, hfragments⟩
    | neither hv _ => cases hv

theorem ReadsEntries.exists_sameFragment {members others : List (String × Value)}
    {entries : List Entry} : ReadsEntries target members entries → SameEntries members others →
      ∃ d, ReadsEntries target others d ∧ target.entryFragments entries = target.entryFragments d
  | .nil, hsame => by
    cases hsame with
    | nil => exact ⟨_, .nil, rfl⟩
  | .cons h hs, hsame => by
    cases hsame with
    | cons hsame hsames =>
      obtain ⟨entry, hentry, hfragment⟩ := h.exists_sameFragment hsame
      obtain ⟨d, hd, hfragments⟩ := hs.exists_sameFragment hsames
      refine ⟨entry :: d, .cons hentry hd, ?_⟩
      unfold entryFragments
      rw [hfragment, hfragments]

theorem ReadsEntry.exists_sameFragment {key : String} {v w : Value} {entry : Entry} :
    ReadsEntry target key v entry → SameEntry key v w →
      ∃ d, ReadsEntry target key w d ∧ target.entryFragment entry = target.entryFragment d
  | .test hkey h, hsame => by
    -- A key has one form, so the rules for other forms do not apply.
    cases hsame with
    | test _ hsame =>
      obtain ⟨q, hq, hfragment⟩ := h.exists_sameFragment hsame (columnPath key)
      refine ⟨_, .test hkey hq, ?_⟩
      unfold entryFragment
      exact hfragment
    | verbatim sql => exact absurd rfl hkey.2
    | notVerbatim _ _ => exact absurd rfl hkey.2
    | combine hkey' _ _ _ => cases hkey.1.symm.trans hkey'
    | notCombine hkey' _ _ => cases hkey.1.symm.trans hkey'
  | .verbatim sql, hsame => by
    cases hsame with
    | test hkey _ => exact absurd rfl hkey.2
    | verbatim _ => exact ⟨_, .verbatim sql, rfl⟩
    | notVerbatim hv _ => cases hv
    | combine hkey _ _ _ => cases hkey
    | notCombine hkey _ _ => cases hkey
  | .combine hkey hv h, hsame => by
    cases hsame with
    | test hkey' _ => cases hkey'.1.symm.trans hkey
    | verbatim sql => cases hkey
    | notVerbatim _ _ => cases hkey
    | combine hkey' hv' hw hsame =>
      cases hv.symm.trans hv'
      obtain ⟨d, hd, hfragments⟩ := h.exists_sameFragment hsame
      exact ⟨_, .combine hkey hw hd, entryFragment_combine_congr _ hfragments⟩
    | notCombine _ hv' _ => cases hv.symm.trans hv'

theorem ReadsChildren.exists_sameFragment {items others : List Value}
    {children : List Condition} : ReadsChildren target items children → SameChildren items others →
      ∃ d, ReadsChildren target others d ∧
        target.childFragments children = target.childFragments d
  | .nil, hsame => by
    cases hsame with
    | nil => exact ⟨_, .nil, rfl⟩
  | .cons h hs, hsame => by
    cases hsame with
    | cons hsame hsames =>
      obtain ⟨d, hd, hfragments⟩ := h.exists_sameFragment hsame
      obtain ⟨ds, hds, hrest⟩ := hs.exists_sameFragment hsames
      refine ⟨d :: ds, .cons hd hds, ?_⟩
      unfold childFragments
      rw [hfragments, hrest]

end

/-! ## Texts of the same shape -/

/-- A value of the same shape as one that compiles does, to the same text. -/
theorem exists_compile_of_sameShape {v w : Value} {j : Journal} {p : Sql.Prepared}
    (hsame : SameShape v w) (h : (target.compile v).outcome j = .ok p) (j' : Journal) :
    ∃ q, (target.compile w).outcome j' = .ok q ∧ p.sql = q.sql := by
  obtain ⟨c, hread, rfl⟩ := outcome_compile_eq_ok_iff.mp h
  obtain ⟨d, hread', hfragments⟩ := hread.exists_sameFragment hsame
  refine ⟨target.prepare d, outcome_compile_eq_ok_iff.mpr ⟨d, hread', rfl⟩, ?_⟩
  unfold prepare fragment
  rw [hfragments]

/-- **Operands never reach the text.** Two values of the same shape compile to the same text, or
neither of them compiles. -/
theorem compile_sameShape {v w : Value} (hsame : SameShape v w) (j j' : Journal) :
    (∃ p q, (target.compile v).outcome j = .ok p ∧ (target.compile w).outcome j' = .ok q ∧
        p.sql = q.sql) ∨
      ∃ e e', (target.compile v).outcome j = .error e ∧
        (target.compile w).outcome j' = .error e' := by
  rcases hv : (target.compile v).outcome j with e | p
  · obtain ⟨e', hw⟩ := exists_error_of_forall_ne_ok (a := target.compile w) (j := j')
        fun q hq => by
      obtain ⟨p, hp, _⟩ := exists_compile_of_sameShape hsame.symm hq j
      rw [hv] at hp
      cases hp
    exact .inr ⟨e, e', rfl, hw⟩
  · obtain ⟨q, hq, hsql⟩ := exists_compile_of_sameShape hsame hv j'
    exact .inl ⟨p, q, rfl, hq, hsql⟩

/-- A membership and a search below a combinator. -/
def orderCondition (ids term : Value) : Value :=
  .object [
    ("or", .list [.object [("id", .object [("in", ids)]), ("paid", .null)], .null]),
    ("note", .object [("match", term)])]

theorem compile_sameShape_orderCondition :
    SameShape (orderCondition (.list [.int 1, .text "two"]) (.text "red"))
        (orderCondition (.tuple [.null, .text "'; DROP TABLE t"]) (.int 5)) ∧
      ((∃ p q,
        ((⟨.sqlite, [], "english"⟩ : ConditionTarget).compile
          (orderCondition (.list [.int 1, .text "two"]) (.text "red"))).outcome .empty = .ok p ∧
        ((⟨.sqlite, [], "english"⟩ : ConditionTarget).compile
          (orderCondition (.tuple [.null, .text "'; DROP TABLE t"]) (.int 5))).outcome .empty =
            .ok q ∧ p.sql = q.sql) ∨
      ∃ e e',
        ((⟨.sqlite, [], "english"⟩ : ConditionTarget).compile
          (orderCondition (.list [.int 1, .text "two"]) (.text "red"))).outcome .empty =
            .error e ∧
        ((⟨.sqlite, [], "english"⟩ : ConditionTarget).compile
          (orderCondition (.tuple [.null, .text "'; DROP TABLE t"]) (.int 5))).outcome .empty =
            .error e') := by
  have hin : SameTest (.object [("in", .list [.int 1, .text "two"])])
      (.object [("in", .tuple [.null, .text "'; DROP TABLE t"])]) := by
    refine .operators rfl ?_
    rintro _ _ _ _ hop hv hw
    cases hv
    cases hw
    cases hop
    rfl
  have hmatch : SameTest (.object [("match", .text "red")]) (.object [("match", .int 5)]) := by
    refine .operators rfl ?_
    rintro _ _ _ _ hop hv hw
    cases hv
    cases hw
    cases hop
    show (Value.text "red").isPresent = (Value.int 5).isPresent
    decide
  have hpaid : SameTest .null .null := .plain (by simp) (by simp) rfl
  have hsame : SameShape (orderCondition (.list [.int 1, .text "two"]) (.text "red"))
      (orderCondition (.tuple [.null, .text "'; DROP TABLE t"]) (.int 5)) := by
    refine .object (.cons (.combine rfl rfl rfl (.cons (.object ?_) (.cons .null .nil)))
      (.cons (.test ⟨rfl, by decide⟩ hmatch) .nil))
    exact .cons (.test ⟨rfl, by decide⟩ hin) (.cons (.test ⟨rfl, by decide⟩ hpaid) .nil)
  exact ⟨hsame, compile_sameShape hsame .empty .empty⟩

end SqlCompiler.ConditionTarget
