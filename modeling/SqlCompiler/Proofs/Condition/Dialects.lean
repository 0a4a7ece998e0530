import SqlCompiler.Proofs.Condition.Arguments
import SqlCompiler.Proofs.Condition.Filters
import SqlCompiler.Proofs.Condition.Rejection

/-!
# One condition in two dialects

Dialects differ in the text of a condition, and in the form in which they pass on the operand of a
test for a member or of a search. Of what they accept they differ in one thing: a search with a
full-text index does not look at the column that it is asked for, so a name that cannot be written
is refused only where there is no such search. Two compilations of one condition are refused alike,
or succeed with the same operands, exactly if reading stops at an empty name in both or in neither
(`compile_dialects`).
-/

namespace SqlCompiler

/-! ## Operands and their forms -/

/-- An operand of a condition, by the form in which it is passed on. -/
inductive Operand
  | plain (v : Value)
  | member (v : Value)
  | term (v : Value)

/-- The argument that a dialect makes of an operand. -/
def Operand.argument (d : Dialect) (columns : List String) : Operand → Value
  | plain v => v
  | member v => d.memberArgument v
  | term v => d.searchArgument columns v

namespace Condition

/-- The operands of an operator, whatever the dialect. -/
def operatorOperands : Operator → Value → List Operand
  | .isIn, operand | .notIn, operand =>
    ((ConditionTarget.collection? operand).getD []).map .plain
  | .between, operand =>
    (ConditionTarget.pair? operand).elim [] fun (low, high) => [.plain low, .plain high]
  | .contains, operand => [.member operand]
  | .search, operand => if operand.isPresent then [.term operand] else []
  | _, operand => [.plain operand]

/-- The operands of a test of a column, of several operators those of the last one. -/
def askedOperands : Value → List Operand
  | .object members =>
    match members.getLast? with
    | none => []
    | some (key, operand) => (Operator.ofName? key).elim [] (operatorOperands · operand)
  | v => [.plain v]

/-- The operands of a condition in order, whatever the dialect. -/
def sourceOperands (v : Value) : List Operand :=
  (filters [] v).flatMap fun f => askedOperands f.asked

variable (d : Dialect) (columns : List String)

theorem operatorArguments_eq_map (operator : Operator) (operand : Value) :
    operatorArguments d columns operator operand =
      (operatorOperands operator operand).map (Operand.argument d columns) := by
  have hplain : ∀ vs : List Value, vs = (vs.map .plain).map (Operand.argument d columns) := by
    intro vs
    rw [List.map_map]
    exact (List.map_id vs).symm
  cases operator with
  | isIn | notIn => exact hplain _
  | between =>
    unfold operatorArguments operatorOperands
    dsimp only
    cases ConditionTarget.pair? operand <;> rfl
  | search =>
    unfold operatorArguments operatorOperands
    dsimp only
    by_cases hpresent : operand.isPresent = true
    · rw [if_pos hpresent, if_pos hpresent]
      rfl
    · rw [if_neg hpresent, if_neg hpresent]
      rfl
  | _ => rfl

theorem testOperands_eq_map (v : Value) :
    testOperands d columns v = (askedOperands v).map (Operand.argument d columns) := by
  cases v with
  | object members =>
    unfold testOperands askedOperands
    dsimp only
    rcases members.getLast? with _ | ⟨key, operand⟩
    · rfl
    · dsimp only
      rcases Operator.ofName? key with _ | operator
      · rfl
      · exact operatorArguments_eq_map d columns operator operand
  | _ => rfl

/-- The forms of the operands of filters. -/
def filterArguments (fs : List Filter) : List Value :=
  fs.flatMap fun f => testOperands d columns f.asked

mutual

theorem operands_eq_filterArguments (place : Place) : ∀ v : Value,
    operands d columns v = filterArguments d columns (filters place v)
  | .object members => by
    unfold operands filters
    exact entriesOperands_eq_filterArguments place 0 members
  | .null | .bool _ | .int _ | .float _ | .decimal _ | .text _ | .bytes _ | .date _ | .time _
  | .dateTime _ | .list _ | .tuple _ | .set _ | .frozenSet _ => rfl

theorem entriesOperands_eq_filterArguments (place : Place) : ∀ (i : Nat)
    (members : List (String × Value)), entriesOperands d columns members =
      filterArguments d columns (memberFilters place i members)
  | _, [] => rfl
  | i, entry :: rest => by
    unfold entriesOperands memberFilters filterArguments
    rw [List.flatMap_append, entryOperands_eq_filterArguments (place ++ [i]) entry,
      entriesOperands_eq_filterArguments place (i + 1) rest]
    rfl

theorem entryOperands_eq_filterArguments (place : Place) : ∀ entry : String × Value,
    entryOperands d columns entry = filterArguments d columns (entryFilters place entry)
  | (key, v) => by
    have hcombined := combinedOperands_eq_filterArguments place v
    unfold entryOperands entryFilters
    cases Combinator.ofName? key with
    | some combinator => exact hcombined
    | none =>
      by_cases hkey : key = "$sql"
      · simp only [if_pos hkey]
        rfl
      · simp only [if_neg hkey]
        exact (List.append_nil _).symm

theorem combinedOperands_eq_filterArguments (place : Place) : ∀ v : Value,
    combinedOperands d columns v = filterArguments d columns (combinedFilters place v)
  | .list items | .tuple items => by
    unfold combinedOperands combinedFilters
    exact childOperands_eq_filterArguments place 0 items
  | .null | .bool _ | .int _ | .float _ | .decimal _ | .text _ | .bytes _ | .date _ | .time _
  | .dateTime _ | .set _ | .frozenSet _ | .object _ => rfl

theorem childOperands_eq_filterArguments (place : Place) : ∀ (i : Nat) (items : List Value),
    childOperands d columns items = filterArguments d columns (itemFilters place i items)
  | _, [] => rfl
  | i, v :: rest => by
    unfold childOperands itemFilters filterArguments
    rw [List.flatMap_append, operands_eq_filterArguments (place ++ [i]) v,
      childOperands_eq_filterArguments place (i + 1) rest]
    rfl

end

/-- The arguments of a condition are the forms that the dialect gives its operands. -/
theorem operands_eq_map (v : Value) :
    operands d columns v = (sourceOperands v).map (Operand.argument d columns) := by
  rw [operands_eq_filterArguments d columns [], sourceOperands, List.map_flatMap]
  exact congrArg (List.flatMap · _) (funext fun f => testOperands_eq_map d columns f.asked)

end Condition

/-- Whether a filter searches for something. -/
def Filter.isSearch (f : Filter) : Bool :=
  f.term?.any Value.isPresent

namespace ConditionTarget

open Log (Journal Logged outcome_lift outcome_bind)

variable {target target' : ConditionTarget}

/-! ## Two readings -/

/-- Two outcomes are the same, or `apart` and one of them is the error about an empty name. -/
def SameUnless {α : Type} (apart : Prop) (o o' : Except Error α) : Prop :=
  o = o' ∨ apart ∧
    (o = .error (.fragment (.badName (.text ""))) ∨ o' = .error (.fragment (.badName (.text ""))))

section SameUnless

variable {α β : Type} {apart : Prop}

/-- Where both or neither of two readings stop at an empty name, their outcomes are the same. -/
theorem SameUnless.eq {blank blank' : Prop} {o o' : Except Error α} (h : SameUnless apart o o')
    (ho : Settled blank o) (ho' : Settled blank' o') (hblank : blank ↔ blank') : o = o' := by
  rcases h with heq | ⟨_, hstop | hstop⟩
  · exact heq
  · rw [hstop, ho'.eq_error_iff.mpr (hblank.mp (ho.eq_error_iff.mp hstop))]
  · rw [hstop, ho.eq_error_iff.mpr (hblank.mpr (ho'.eq_error_iff.mp hstop))]

/-- Computations whose first parts are the same go on alike, and the error ends a computation. -/
theorem SameUnless.bind {a a' : Logged Error α} {f f' : α → Logged Error β} {j j' : Journal}
    (ha : SameUnless apart (a.outcome j) (a'.outcome j'))
    (hf : ∀ x j j', SameUnless apart ((f x).outcome j) ((f' x).outcome j')) :
    SameUnless apart ((a >>= f).outcome j) ((a' >>= f').outcome j') := by
  rw [outcome_bind, outcome_bind]
  rcases ha with heq | ⟨hapart, hstop | hstop⟩
  · rw [heq]
    cases a'.outcome j' with
    | error e => exact .inl rfl
    | ok x => exact hf x _ _
  · rw [hstop]
    exact .inr ⟨hapart, .inl rfl⟩
  · rw [hstop]
    exact .inr ⟨hapart, .inr rfl⟩

theorem SameUnless.map {a a' : Logged Error α} {j j' : Journal}
    (h : SameUnless apart (a.outcome j) (a'.outcome j')) (f : α → β) :
    SameUnless apart ((do return f (← a) : Logged Error β).outcome j)
      ((do return f (← a') : Logged Error β).outcome j') :=
  h.bind fun _ _ _ => .inl rfl

theorem sameUnless_refuseBlank {names names' : List String} (x : α)
    (h : refuseBlank names ≠ refuseBlank names' → apart) :
    SameUnless apart (do refuseBlank names; return x : Except Error α)
      (do refuseBlank names'; return x) := by
  by_cases heq : refuseBlank names = refuseBlank names'
  · rw [heq]
    exact .inl rfl
  · refine .inr ⟨h heq, ?_⟩
    unfold refuseBlank at heq ⊢
    by_cases hnames : names.contains "" = true
    · rw [if_pos hnames]
      exact .inl rfl
    · by_cases hnames' : names'.contains "" = true
      · rw [if_pos hnames']
        exact .inr rfl
      · rw [if_neg hnames, if_neg hnames'] at heq
        exact absurd rfl heq

end SameUnless

/-- Whether a filter searches for something, and only one of two targets can write what it would
write for that. -/
def Differs (target target' : ConditionTarget) (f : Filter) : Prop :=
  f.isSearch = true ∧ target.checkSearch f.column ≠ target'.checkSearch f.column

variable {apart : Prop}

theorem sameUnless_readOperand {column : String} {operator : Operator} {operand : Value}
    (h : operator = .search → operand.isPresent = true →
      target.checkSearch column ≠ target'.checkSearch column → apart) :
    SameUnless apart (target.readOperand column operator operand)
      (target'.readOperand column operator operand) := by
  cases operator with
  | search =>
    unfold readOperand
    dsimp only
    by_cases hpresent : operand.isPresent = true
    · have hdiffers := h rfl hpresent
      rw [checkSearch_eq, checkSearch_eq] at hdiffers
      rw [if_pos hpresent, if_pos hpresent, checkSearch_eq, checkSearch_eq]
      exact sameUnless_refuseBlank _ hdiffers
    · rw [if_neg hpresent, if_neg hpresent]
      exact .inl rfl
  | _ => exact .inl rfl

theorem sameUnless_readTest {place : Place} {column : String} {v : Value}
    (h : Differs target target' ⟨place, column, v⟩ → apart) (j j' : Journal) :
    SameUnless apart ((target.readTest column v).outcome j)
      ((target'.readTest column v).outcome j') := by
  cases v with
  | object members =>
    unfold readTest
    dsimp only
    rcases hlast : members.getLast? with _ | ⟨key, operand⟩
    · exact .inl rfl
    · dsimp only
      rcases hop : Operator.ofName? key with _ | operator
      · exact .inl rfl
      · have hterm : operator = .search →
            (Filter.mk place column (.object members)).term? = some operand := by
          rintro rfl
          unfold Filter.term?
          dsimp only
          rw [hlast, Option.bind_some]
          dsimp only
          rw [if_pos hop]
        have hoperand : ∀ j j' : Journal, SameUnless apart
            ((do return .test column (← target.readOperand column operator operand) :
              Logged Error Entry).outcome j)
            ((do return .test column (← target'.readOperand column operator operand) :
              Logged Error Entry).outcome j') := by
          intro j j'
          refine SameUnless.map ?_ _
          rw [outcome_lift, outcome_lift]
          refine sameUnless_readOperand fun hsearch hpresent hcheck => h ⟨?_, hcheck⟩
          unfold Filter.isSearch
          rw [hterm hsearch]
          exact hpresent
        dsimp only
        split
        · exact SameUnless.bind (.inl rfl) fun _ => hoperand
        · exact hoperand j j'
  | _ =>
    unfold readTest
    refine SameUnless.map ?_ _
    rw [outcome_lift, outcome_lift]
    exact .inl rfl

/-- A member that stands for no combinator is read alike if it is no filter that differs. -/
theorem sameUnless_readEntry {place : Place} {key : String} {v : Value}
    (hkey : Combinator.ofName? key = none)
    (h : ∀ f ∈ Condition.entryFilters place (key, v), Differs target target' f → apart)
    (j j' : Journal) :
    SameUnless apart ((target.readEntry key v).outcome j) ((target'.readEntry key v).outcome j') := by
  unfold Condition.entryFilters at h
  rw [hkey] at h
  dsimp only at h
  by_cases hsql : key = "$sql"
  · unfold readEntry
    rw [hkey]
    dsimp only
    rw [if_pos hsql, if_pos hsql]
    cases v <;> exact .inl rfl
  · rw [if_neg hsql] at h
    rw [readEntry_of_column ⟨hkey, hsql⟩, readEntry_of_column ⟨hkey, hsql⟩]
    exact sameUnless_readTest (h _ (List.mem_singleton_self _)) j j'

mutual

/-- Two targets read a condition alike if none of its filters differs. -/
theorem sameUnless_read (place : Place) : ∀ (v : Value) (j j' : Journal),
    (∀ f ∈ Condition.filters place v, Differs target target' f → apart) →
      SameUnless apart ((target.read v).outcome j) ((target'.read v).outcome j')
  | .object members, j, j', h => by
    unfold Condition.filters at h
    rw [read, read]
    exact sameUnless_readEntries place 0 members j j' h
  | .null, _, _, _ => .inl rfl
  | .bool _, _, _, _ | .int _, _, _, _ | .float _, _, _, _ | .decimal _, _, _, _
  | .text _, _, _, _ | .bytes _, _, _, _ | .date _, _, _, _ | .time _, _, _, _
  | .dateTime _, _, _, _ | .list _, _, _, _ | .tuple _, _, _, _ | .set _, _, _, _
  | .frozenSet _, _, _, _ => .inl (by simp [read, Log.outcome_throw])

theorem sameUnless_readEntries (place : Place) : ∀ (i : Nat) (members : List (String × Value))
    (j j' : Journal),
    (∀ f ∈ Condition.memberFilters place i members, Differs target target' f → apart) →
      SameUnless apart ((target.readEntries members).outcome j)
        ((target'.readEntries members).outcome j')
  | _, [], _, _, _ => .inl (by rw [readEntries, readEntries]; rfl)
  | i, (key, v) :: rest, j, j', h => by
    unfold Condition.memberFilters at h
    have hentry : SameUnless apart ((target.readEntry key v).outcome j)
        ((target'.readEntry key v).outcome j') := by
      have hfilters := fun f hf => h f (List.mem_append_left _ hf)
      rcases hkey : Combinator.ofName? key with _ | combinator
      · exact sameUnless_readEntry hkey hfilters j j'
      · unfold Condition.entryFilters at hfilters
        rw [hkey] at hfilters
        rw [readEntry_of_combinator hkey, readEntry_of_combinator hkey]
        exact sameUnless_readCombination (place ++ [i]) combinator v j j' hfilters
    rw [readEntries_cons, readEntries_cons]
    exact hentry.bind fun entry j j' => SameUnless.map
      (sameUnless_readEntries place (i + 1) rest j j' fun f hf => h f (List.mem_append_right _ hf)) _

theorem sameUnless_readCombination (place : Place) : ∀ (combinator : Combinator) (v : Value)
    (j j' : Journal),
    (∀ f ∈ Condition.combinedFilters place v, Differs target target' f → apart) →
      SameUnless apart ((target.readCombination combinator v).outcome j)
        ((target'.readCombination combinator v).outcome j')
  | _, .list items, j, j', h | _, .tuple items, j, j', h => by
    unfold Condition.combinedFilters at h
    rw [readCombination_of_children rfl, readCombination_of_children rfl]
    exact (sameUnless_readChildren place 0 items j j' h).map _
  | _, .null, _, _, _ | _, .bool _, _, _, _ | _, .int _, _, _, _ | _, .float _, _, _, _
  | _, .decimal _, _, _, _ | _, .text _, _, _, _ | _, .bytes _, _, _, _ | _, .date _, _, _, _
  | _, .time _, _, _, _ | _, .dateTime _, _, _, _ | _, .set _, _, _, _
  | _, .frozenSet _, _, _, _ | _, .object _, _, _, _ =>
    .inl (by simp [readCombination, Log.outcome_throw])

theorem sameUnless_readChildren (place : Place) : ∀ (i : Nat) (items : List Value)
    (j j' : Journal),
    (∀ f ∈ Condition.itemFilters place i items, Differs target target' f → apart) →
      SameUnless apart ((target.readChildren items).outcome j)
        ((target'.readChildren items).outcome j')
  | _, [], _, _, _ => .inl (by rw [readChildren, readChildren]; rfl)
  | i, v :: rest, j, j', h => by
    unfold Condition.itemFilters at h
    rw [readChildren, readChildren]
    refine SameUnless.bind (sameUnless_read (place ++ [i]) v j j' fun f hf =>
      h f (List.mem_append_left _ hf)) fun child j j' => SameUnless.map ?_ _
    exact sameUnless_readChildren place (i + 1) rest j j' fun f hf =>
      h f (List.mem_append_right _ hf)

end

/-! ## Two compilations -/

/-- The outcomes of two dialects agree if they are the same error, or if both are statements and
their arguments are the forms that the dialects give to the same operands. -/
def Agree (d d' : Dialect) (columns : List String) (operands : List Operand) :
    Except Error Sql.Prepared → Except Error Sql.Prepared → Prop
  | .ok p, .ok p' =>
    p.arguments = operands.map (Operand.argument d columns) ∧
      p'.arguments = operands.map (Operand.argument d' columns)
  | .error e, .error e' => e = e'
  | _, _ => False

variable {d d' : Dialect} {columns : List String} {language : String}

/-- What is read alike compiles alike. -/
theorem agree_compile_of_read {v : Value} {j j' : Journal}
    (h : ((d.target columns language).read v).outcome j =
      ((d'.target columns language).read v).outcome j') :
    Agree d d' columns (Condition.sourceOperands v)
      (((d.target columns language).compile v).outcome j)
      (((d'.target columns language).compile v).outcome j') := by
  have harguments : ∀ {d : Dialect} {c : Condition} {j : Journal},
      ((d.target columns language).read v).outcome j = .ok c →
        (d.target columns language).arguments c =
          (Condition.sourceOperands v).map (Operand.argument d columns) := by
    intro d c j hread
    rw [← Condition.operands_eq_map]
    exact arguments_eq_operands (outcome_read_eq_ok_iff.mp hread)
  unfold compile
  rw [outcome_bind, outcome_bind]
  rcases hread : ((d.target columns language).read v).outcome j with e | c
  · rw [← h, hread]
    rfl
  · rw [← h, hread]
    exact ⟨harguments hread, harguments (h.symm.trans hread)⟩

theorem Agree.eq_error_iff {operands : List Operand} {o o' : Except Error Sql.Prepared} {e : Error}
    (h : Agree d d' columns operands o o') : o = .error e ↔ o' = .error e := by
  rcases o with e₁ | p <;> rcases o' with e₂ | p'
  · rw [show e₁ = e₂ from h]
  · exact h.elim
  · exact h.elim
  · exact iff_of_false nofun nofun

/-- SQLite has no full-text search, and no dialect has one without columns. -/
theorem searchNames_target (column : String) :
    (d.target columns language).searchNames column =
      if d = .sqlite ∨ columns = [] then columnPath column else columns := by
  cases columns <;> cases d <;> rfl

/-- **One condition in two dialects.** The compilations of a condition agree exactly if reading it
stops at an empty name in both dialects or in neither. So they do if both of them have a full-text
search or neither has, if there are no columns for one, and if these columns and those that the
condition searches have no empty names. -/
theorem compile_dialects (d d' : Dialect) (columns : List String) (language : String) (v : Value)
    (j j' : Journal) :
    (Agree d d' columns (Condition.sourceOperands v)
        (((d.target columns language).compile v).outcome j)
        (((d'.target columns language).compile v).outcome j') ↔
      (StopsAtBlank (d.target columns language) v ↔
        StopsAtBlank (d'.target columns language) v)) ∧
      ((d = .sqlite ↔ d' = .sqlite) ∨ columns = [] ∨ "" ∉ columns ∧
          (∀ f ∈ Condition.filters [] v, f.isSearch = true → "" ∉ columnPath f.column) →
        Agree d d' columns (Condition.sourceOperands v)
          (((d.target columns language).compile v).outcome j)
          (((d'.target columns language).compile v).outcome j')) := by
  refine ⟨⟨fun hagree => ?_, fun hblank => ?_⟩, fun hnames => ?_⟩
  · rw [← (settled_compile v j).eq_error_iff, ← (settled_compile v j').eq_error_iff]
    exact hagree.eq_error_iff
  · have hsame : SameUnless True (((d.target columns language).read v).outcome j)
        (((d'.target columns language).read v).outcome j') :=
      sameUnless_read [] v j j' fun _ _ _ => trivial
    exact agree_compile_of_read (hsame.eq (settled_read v j) (settled_read v j') hblank)
  · have hsame : SameUnless False (((d.target columns language).read v).outcome j)
        (((d'.target columns language).read v).outcome j') := by
      refine sameUnless_read [] v j j' fun f hf hdiffers => hdiffers.2 ?_
      rw [checkSearch_eq, checkSearch_eq, searchNames_target, searchNames_target]
      rcases hnames with hsqlite | hnil | ⟨hcolumns, hfilters⟩
      · simp only [hsqlite]
      · simp only [hnil, or_true, if_true]
      · have hfine : ∀ {p : Prop} [Decidable p],
            "" ∉ if p then columnPath f.column else columns := by
          intro p _
          split
          · exact hfilters f hf hdiffers.1
          · exact hcolumns
        unfold refuseBlank
        rw [if_neg (mt List.contains_iff_mem.mp hfine), if_neg (mt List.contains_iff_mem.mp hfine)]
    exact agree_compile_of_read (hsame.resolve_right And.left)

/-- A condition whose only search is for a column with a name. -/
theorem compile_dialects_taggedCondition :
    Agree .mysql .sqlite ["title"] (Condition.sourceOperands taggedCondition)
      (((Dialect.mysql.target ["title"] "english").compile taggedCondition).outcome .empty)
      (((Dialect.sqlite.target ["title"] "english").compile taggedCondition).outcome .empty) :=
  (compile_dialects .mysql .sqlite ["title"] "english" taggedCondition .empty .empty).2
    (.inr (.inr ⟨by decide, by decide⟩))

/-- A search of a column without a name compiles in MySQL, which does not look at the column, and is
refused in SQLite. -/
theorem compile_unnamedSearch :
    ((Dialect.mysql.target ["t"] "english").compile
        (.object [("", .object [("match", .text "x")])])).outcome .empty =
        .ok ⟨"MATCH(t) AGAINST (? IN BOOLEAN MODE)", [.text "x*"]⟩ ∧
      ((Dialect.sqlite.target ["t"] "english").compile
        (.object [("", .object [("match", .text "x")])])).outcome .empty =
        .error (.fragment (.badName (.text ""))) :=
  ⟨rfl, rfl⟩

end ConditionTarget

end SqlCompiler
