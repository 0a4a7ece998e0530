import SqlCompiler.Proofs.Condition.Reading

/-!
# Refused conditions

Reading goes through a condition in order and stops at the first thing that cannot be compiled. What
has the wrong shape is refused with an error about the condition. A column whose path has an empty
name in it has the right shape and cannot be written, so reading stops there as well, but with the
error of a fragment that has no name. `StopsAtBlank` says for which values it does
(`compile_refusals`): those in which a test with an empty name comes before anything else that is
refused. A value without such names is none of them.
-/

namespace SqlCompiler.ConditionTarget

open Log (Journal Logged outcome_pure outcome_throw outcome_emit outcome_lift outcome_bind)

variable {target : ConditionTarget}

/-! ## Settled outcomes -/

/-- An outcome that is the error about an empty name if `blank`, and otherwise a result or an error
about the condition. -/
def Settled {α : Type} (blank : Prop) (o : Except Error α) : Prop :=
  blank ∧ o = .error (.fragment (.badName (.text ""))) ∨
    ¬ blank ∧ ((∃ x, o = .ok x) ∨ ∃ e, o = .error (.condition e))

section Settled

variable {α β : Type} {blank later : Prop}

theorem settled_ok (h : ¬ blank) (x : α) : Settled blank (.ok x : Except Error α) :=
  .inr ⟨h, .inl ⟨x, rfl⟩⟩

theorem settled_condition (h : ¬ blank) (e : ConditionError) :
    Settled blank (.error (.condition e) : Except Error α) :=
  .inr ⟨h, .inr ⟨e, rfl⟩⟩

/-- A computation stops at an empty name in its first part, or in its second part if the first one
has a result. -/
theorem Settled.bind {a : Logged Error α} {f : α → Logged Error β} {j : Journal}
    (ha : Settled blank (a.outcome j))
    (hf : ∀ x j', a.outcome j = .ok x → Settled later ((f x).outcome j')) :
    Settled (blank ∨ (∃ x, a.outcome j = .ok x) ∧ later) ((a >>= f).outcome j) := by
  rw [outcome_bind]
  rcases ha with ⟨hblank, hstop⟩ | ⟨hnot, ⟨x, hx⟩ | ⟨e, he⟩⟩
  · rw [hstop]
    exact .inl ⟨.inl hblank, rfl⟩
  · have hlater := hf x (a.run j).2 hx
    rw [hx]
    refine hlater.imp (And.imp_left fun h => .inr ⟨⟨x, rfl⟩, h⟩) (And.imp_left fun h => ?_)
    rintro (hblank | ⟨_, hlater⟩)
    · exact hnot hblank
    · exact h hlater
  · rw [he]
    refine settled_condition ?_ e
    rintro (hblank | ⟨⟨x, hx⟩, _⟩)
    · exact hnot hblank
    · cases hx

/-- Wrapping a result up changes nothing. -/
theorem Settled.map {a : Logged Error α} {j : Journal} (h : Settled blank (a.outcome j))
    (f : α → β) : Settled blank ((do return f (← a) : Logged Error β).outcome j) := by
  rw [outcome_bind]
  rcases h with ⟨hblank, hstop⟩ | ⟨hnot, ⟨x, hx⟩ | ⟨e, he⟩⟩
  · rw [hstop]
    exact .inl ⟨hblank, rfl⟩
  · rw [hx]
    exact settled_ok hnot (f x)
  · rw [he]
    exact settled_condition hnot e

theorem Settled.congr {o : Except Error α} (h : Settled blank o) (hiff : blank ↔ later) :
    Settled later o := by
  rwa [← propext hiff]

theorem Settled.iff {o : Except Error α} (h : Settled blank o) :
    ((∃ x, o = .ok x) ∨ ∃ e, o = .error (.condition e)) ↔ ¬ blank := by
  rcases h with ⟨hblank, rfl⟩ | ⟨hnot, hfine⟩
  · refine iff_of_false ?_ (not_not_intro hblank)
    rintro (⟨_, hok⟩ | ⟨_, herror⟩)
    · cases hok
    · cases herror
  · exact iff_of_true hfine hnot

theorem Settled.eq_error_iff {o : Except Error α} (h : Settled blank o) :
    o = .error (.fragment (.badName (.text ""))) ↔ blank := by
  rcases h with ⟨hblank, rfl⟩ | ⟨hnot, ⟨x, rfl⟩ | ⟨e, rfl⟩⟩
  · exact iff_of_true rfl hblank
  · exact iff_of_false nofun hnot
  · exact iff_of_false nofun hnot

end Settled

/-! ## Tests of a column -/

/-- Refuses an empty name. -/
def refuseBlank (names : List String) : Except Error Unit :=
  if names.contains "" then .error (.fragment (.badName (.text ""))) else .ok ()

theorem settled_refuseBlank {α : Type} (names : List String) (x : α) :
    Settled ("" ∈ names) (do refuseBlank names; return x : Except Error α) := by
  unfold refuseBlank
  by_cases h : "" ∈ names
  · rw [if_pos (List.contains_iff_mem.mpr h)]
    exact .inl ⟨h, rfl⟩
  · rw [if_neg (mt List.contains_iff_mem.mp h)]
    exact settled_ok h x

/-- The names that a search writes: the columns of the full-text index, or the column itself where
there is no such search. -/
def searchNames (target : ConditionTarget) (column : String) : List String :=
  match target.searchTemplate? with
  | some _ => target.fulltextColumns
  | none => columnPath column

theorem checkSearch_eq (column : String) :
    target.checkSearch column = refuseBlank (target.searchNames column) := by
  unfold checkSearch searchNames
  cases target.searchTemplate? <;> rfl

/-- The names that are written for an operator: none if the operand is refused, or if it asks for
nothing that the statement would have to name the column for. -/
def operandNames (target : ConditionTarget) (column : String) (operator : Operator)
    (operand : Value) : List String :=
  match operator with
  | .isIn | .notIn => if (collection? operand).getD [] = [] then [] else columnPath column
  | .between => if (pair? operand).isSome then columnPath column else []
  | .search => if operand.isPresent then target.searchNames column else []
  | _ => columnPath column

/-- The names that are written for a test of a column. -/
def testNames (target : ConditionTarget) (column : String) (v : Value) : List String :=
  match v with
  | .object members =>
    match members.getLast? with
    | none => []
    | some (key, operand) =>
      match Operator.ofName? key with
      | none => []
      | some operator => target.operandNames column operator operand
  | _ => columnPath column

theorem settled_readOperand_membership (column : String) (negated : Bool) (operand : Value) :
    Settled ("" ∈ target.operandNames column (membership negated) operand)
      (target.readOperand column (membership negated) operand) := by
  have hnames : target.operandNames column (membership negated) operand =
      if (collection? operand).getD [] = [] then [] else columnPath column := by
    cases negated <;> rfl
  rw [hnames]
  rcases hv : collection? operand with _ | _ | ⟨v, vs⟩
  · cases negated <;> simp only [readOperand, membership, hv] <;>
      exact settled_condition List.not_mem_nil _
  · cases negated <;> simp only [readOperand, membership, hv] <;>
      exact settled_ok List.not_mem_nil _
  · cases negated <;> simp only [readOperand, membership, hv] <;>
      exact settled_refuseBlank (columnPath column) _

theorem settled_readOperand (column : String) (operator : Operator) (operand : Value) :
    Settled ("" ∈ target.operandNames column operator operand)
      (target.readOperand column operator operand) := by
  rcases operator_cases operator with ⟨comparison, rfl⟩ | ⟨negated, rfl⟩ | rfl | rfl | rfl | rfl
  · cases comparison <;> exact settled_refuseBlank (columnPath column) _
  · exact settled_readOperand_membership column negated operand
  · unfold operandNames readOperand
    dsimp only
    rcases pair? operand with _ | ⟨low, high⟩
    · exact settled_condition List.not_mem_nil _
    · exact settled_refuseBlank (columnPath column) _
  · exact settled_refuseBlank (columnPath column) _
  · unfold operandNames readOperand
    dsimp only
    split
    · rw [checkSearch_eq]
      exact settled_refuseBlank _ _
    · exact settled_ok List.not_mem_nil _
  · exact settled_refuseBlank (columnPath column) _

theorem settled_readTest (column : String) (v : Value) (j : Journal) :
    Settled ("" ∈ target.testNames column v) ((target.readTest column v).outcome j) := by
  have hoperand : ∀ operator operand (j : Journal), Settled
      ("" ∈ target.operandNames column operator operand)
      ((do return .test column (← target.readOperand column operator operand) :
        Logged Error Entry).outcome j) := by
    intro operator operand j
    refine Settled.map ?_ _
    rw [outcome_lift]
    exact settled_readOperand column operator operand
  cases v with
  | object members =>
    unfold testNames readTest
    dsimp only
    rcases members.getLast? with _ | ⟨key, operand⟩
    · exact settled_condition List.not_mem_nil _
    · dsimp only
      rcases Operator.ofName? key with _ | operator
      · exact settled_condition List.not_mem_nil _
      · -- The record about other operators has no part in the outcome.
        dsimp only
        split
        · rw [outcome_bind]
          exact hoperand operator operand _
        · exact hoperand operator operand j
  | _ => exact hoperand .eq _ j

/-! ## Where reading stops -/

mutual

/-- Whether reading a value stops at an empty name. -/
inductive StopsAtBlank (target : ConditionTarget) : Value → Prop
  | object {members : List (String × Value)} (h : EntriesStop target members) :
    StopsAtBlank target (.object members)

/-- Whether reading the members of an object stops at an empty name: in the first one, or behind a
first one that is read. -/
inductive EntriesStop (target : ConditionTarget) : List (String × Value) → Prop
  | first {key : String} {v : Value} {members : List (String × Value)}
    (h : EntryStops target key v) : EntriesStop target ((key, v) :: members)
  | later {key : String} {v : Value} {entry : Entry} {members : List (String × Value)}
    (h : ReadsEntry target key v entry) (hs : EntriesStop target members) :
    EntriesStop target ((key, v) :: members)

/-- Whether reading a member of an object stops at an empty name. -/
inductive EntryStops (target : ConditionTarget) : String → Value → Prop
  | test {column : String} {v : Value} (hkey : IsColumnKey column)
    (h : "" ∈ target.testNames column v) : EntryStops target column v
  | combine {key : String} {combinator : Combinator} {v : Value} {items : List Value}
    (hkey : Combinator.ofName? key = some combinator) (hv : children? v = some items)
    (h : ChildrenStop target items) : EntryStops target key v

/-- Whether reading the values that a combinator takes stops at an empty name: in the first one, or
behind a first one that is read. -/
inductive ChildrenStop (target : ConditionTarget) : List Value → Prop
  | first {v : Value} {items : List Value} (h : StopsAtBlank target v) :
    ChildrenStop target (v :: items)
  | later {v : Value} {child : Condition} {items : List Value} (h : Reads target v child)
    (hs : ChildrenStop target items) : ChildrenStop target (v :: items)

end

theorem entriesStop_cons_iff {key : String} {v : Value} {members : List (String × Value)} :
    EntriesStop target ((key, v) :: members) ↔
      EntryStops target key v ∨ (∃ entry, ReadsEntry target key v entry) ∧
        EntriesStop target members := by
  constructor
  · rintro (h | ⟨h, hs⟩)
    · exact .inl h
    · exact .inr ⟨⟨_, h⟩, hs⟩
  · rintro (h | ⟨⟨_, h⟩, hs⟩)
    · exact .first h
    · exact .later h hs

theorem childrenStop_cons_iff {v : Value} {items : List Value} :
    ChildrenStop target (v :: items) ↔
      StopsAtBlank target v ∨ (∃ child, Reads target v child) ∧ ChildrenStop target items := by
  constructor
  · rintro (h | ⟨h, hs⟩)
    · exact .inl h
    · exact .inr ⟨⟨_, h⟩, hs⟩
  · rintro (h | ⟨⟨_, h⟩, hs⟩)
    · exact .first h
    · exact .later h hs

theorem exists_outcome_readEntry_iff {key : String} {v : Value} {j : Journal} :
    (∃ entry, (target.readEntry key v).outcome j = .ok entry) ↔
      ∃ entry, ReadsEntry target key v entry := by
  refine exists_congr fun entry => ⟨fun h => ?_, fun h => h.outcome j⟩
  rcases hkey : Combinator.ofName? key with _ | combinator
  · exact readsEntry_of_outcome hkey h
  · rw [readEntry_of_combinator hkey] at h
    exact readsEntry_of_combination hkey h

/-- A member that stands for no combinator stops reading if its test has an empty name. -/
theorem settled_readEntry {key : String} (hkey : Combinator.ofName? key = none) (v : Value)
    (j : Journal) : Settled (EntryStops target key v) ((target.readEntry key v).outcome j) := by
  by_cases hsql : key = "$sql"
  · subst hsql
    have hnot : ¬ EntryStops target "$sql" v := by
      rintro (⟨hcolumn, _⟩ | ⟨hcombinator, _, _⟩)
      · exact hcolumn.2 rfl
      · cases hkey.symm.trans hcombinator
    unfold readEntry
    rw [hkey]
    dsimp only
    rw [if_pos rfl]
    split
    · exact settled_ok hnot _
    · exact settled_condition hnot _
  · rw [readEntry_of_column ⟨hkey, hsql⟩]
    refine (settled_readTest key v j).congr ⟨.test ⟨hkey, hsql⟩, ?_⟩
    rintro (⟨_, h⟩ | ⟨hcombinator, _, _⟩)
    · exact h
    · cases hkey.symm.trans hcombinator

theorem entryStops_combinator_iff {key : String} {combinator : Combinator}
    (hkey : Combinator.ofName? key = some combinator) {v : Value} :
    EntryStops target key v ↔ ∃ items, children? v = some items ∧ ChildrenStop target items := by
  constructor
  · rintro (⟨hcolumn, _⟩ | ⟨_, hv, h⟩)
    · cases hkey.symm.trans hcolumn.1
    · exact ⟨_, hv, h⟩
  · rintro ⟨items, hv, h⟩
    exact .combine hkey hv h

mutual

theorem settled_read : ∀ (v : Value) (j : Journal),
    Settled (StopsAtBlank target v) ((target.read v).outcome j)
  | .null, _ => by
    rw [read]
    exact settled_ok nofun _
  | .object members, j => by
    rw [read]
    refine (settled_readEntries members j).congr ⟨.object, ?_⟩
    rintro ⟨h⟩
    exact h
  | .bool _, _ | .int _, _ | .float _, _ | .decimal _, _ | .text _, _ | .bytes _, _ | .date _, _
  | .time _, _ | .dateTime _, _ | .list _, _ | .tuple _, _ | .set _, _ | .frozenSet _, _ => by
    rw [read]
    · exact settled_condition nofun _
    all_goals simp

theorem settled_readEntries : ∀ (members : List (String × Value)) (j : Journal),
    Settled (EntriesStop target members) ((target.readEntries members).outcome j)
  | [], _ => by
    rw [readEntries]
    exact settled_ok nofun _
  | (key, v) :: rest, j => by
    have hentry : Settled (EntryStops target key v) ((target.readEntry key v).outcome j) := by
      rcases hkey : Combinator.ofName? key with _ | combinator
      · exact settled_readEntry hkey v j
      · rw [readEntry_of_combinator hkey]
        exact settled_readCombination hkey v j
    rw [readEntries_cons]
    refine (hentry.bind fun entry j' _ => (settled_readEntries rest j').map _).congr ?_
    rw [exists_outcome_readEntry_iff, entriesStop_cons_iff]

theorem settled_readCombination : ∀ {key : String} {combinator : Combinator},
    Combinator.ofName? key = some combinator → ∀ (v : Value) (j : Journal),
      Settled (EntryStops target key v) ((target.readCombination combinator v).outcome j)
  | _, _, hkey, .list items, j | _, _, hkey, .tuple items, j => by
    rw [readCombination_of_children rfl, entryStops_combinator_iff hkey]
    refine ((settled_readChildren items j).map _).congr ⟨fun h => ⟨items, rfl, h⟩, ?_⟩
    rintro ⟨_, hv, h⟩
    cases hv
    exact h
  | _, _, hkey, .null, _ | _, _, hkey, .bool _, _ | _, _, hkey, .int _, _ | _, _, hkey, .float _, _
  | _, _, hkey, .decimal _, _ | _, _, hkey, .text _, _ | _, _, hkey, .bytes _, _
  | _, _, hkey, .date _, _ | _, _, hkey, .time _, _ | _, _, hkey, .dateTime _, _
  | _, _, hkey, .set _, _ | _, _, hkey, .frozenSet _, _ | _, _, hkey, .object _, _ => by
    rw [entryStops_combinator_iff hkey, readCombination]
    · exact settled_condition (by simp [children?]) _
    all_goals simp

theorem settled_readChildren : ∀ (items : List Value) (j : Journal),
    Settled (ChildrenStop target items) ((target.readChildren items).outcome j)
  | [], _ => by
    rw [readChildren]
    exact settled_ok nofun _
  | v :: rest, j => by
    rw [readChildren]
    refine ((settled_read v j).bind fun child j' _ => (settled_readChildren rest j').map _).congr ?_
    rw [childrenStop_cons_iff]
    simp only [outcome_read_eq_ok_iff]

end

theorem settled_compile (v : Value) (j : Journal) :
    Settled (StopsAtBlank target v) ((target.compile v).outcome j) :=
  (settled_read v j).map target.prepare

/-! ## Keys with empty names -/

mutual

/-- The keys of a condition that stand for columns, at any depth. -/
def columnKeys : Value → List String
  | .object members => memberKeys members
  | _ => []

/-- The keys that stand for columns among the members of an object and in what they combine. -/
def memberKeys : List (String × Value) → List String
  | [] => []
  | (key, v) :: rest =>
    (match Combinator.ofName? key with
      | some _ => combinedKeys v
      | none => if key = "$sql" then [] else [key]) ++ memberKeys rest

/-- The keys that stand for columns in combined conditions. -/
def combinedKeys : Value → List String
  | .list items | .tuple items => itemKeys items
  | _ => []

/-- The keys that stand for columns in each of the values. -/
def itemKeys : List Value → List String
  | [] => []
  | v :: rest => columnKeys v ++ itemKeys rest

end

theorem combinedKeys_of_children {v : Value} {items : List Value} (h : children? v = some items) :
    combinedKeys v = itemKeys items := by
  unfold children? at h
  split at h <;> simp only [Option.some.injEq, reduceCtorEq] at h
  all_goals
    subst h
    rw [combinedKeys]

/-- A test writes its column, or the columns of the full-text index. -/
theorem mem_testNames {column : String} {v : Value} {name : String}
    (h : name ∈ target.testNames column v) :
    name ∈ columnPath column ∨ name ∈ target.fulltextColumns := by
  have hoperand : ∀ operator operand, name ∈ target.operandNames column operator operand →
      name ∈ columnPath column ∨ name ∈ target.fulltextColumns := by
    intro operator operand h
    unfold operandNames searchNames at h
    split at h
    · split at h
      · cases h
      · exact .inl h
    · split at h
      · cases h
      · exact .inl h
    · split at h
      · exact .inl h
      · cases h
    · split at h
      · split at h
        · exact .inr h
        · exact .inl h
      · cases h
    · exact .inl h
  unfold testNames at h
  split at h
  · split at h
    · cases h
    · split at h
      · cases h
      · exact hoperand _ _ h
  · exact .inl h

mutual

theorem StopsAtBlank.exists_key (hfulltext : "" ∉ target.fulltextColumns) {v : Value} :
    StopsAtBlank target v → ∃ key ∈ columnKeys v, "" ∈ columnPath key
  | .object h => by
    rw [columnKeys]
    exact h.exists_key hfulltext

theorem EntriesStop.exists_key (hfulltext : "" ∉ target.fulltextColumns)
    {members : List (String × Value)} :
    EntriesStop target members → ∃ key ∈ memberKeys members, "" ∈ columnPath key
  | .first h => by
    obtain ⟨key, hkey, hblank⟩ := h.exists_key hfulltext
    rw [memberKeys]
    exact ⟨key, List.mem_append_left _ hkey, hblank⟩
  | .later _ hs => by
    obtain ⟨key, hkey, hblank⟩ := hs.exists_key hfulltext
    rw [memberKeys]
    exact ⟨key, List.mem_append_right _ hkey, hblank⟩

theorem EntryStops.exists_key (hfulltext : "" ∉ target.fulltextColumns) {key : String}
    {v : Value} : EntryStops target key v →
      ∃ column ∈ (match Combinator.ofName? key with
        | some _ => combinedKeys v
        | none => if key = "$sql" then [] else [key]), "" ∈ columnPath column
  | .test hkey h => by
    rw [hkey.1]
    dsimp only
    rw [if_neg hkey.2]
    exact ⟨key, List.mem_singleton_self _, (mem_testNames h).resolve_right hfulltext⟩
  | .combine hkey hv h => by
    rw [hkey]
    dsimp only
    rw [combinedKeys_of_children hv]
    exact h.exists_key hfulltext

theorem ChildrenStop.exists_key (hfulltext : "" ∉ target.fulltextColumns) {items : List Value} :
    ChildrenStop target items → ∃ key ∈ itemKeys items, "" ∈ columnPath key
  | .first h => by
    obtain ⟨key, hkey, hblank⟩ := h.exists_key hfulltext
    rw [itemKeys]
    exact ⟨key, List.mem_append_left _ hkey, hblank⟩
  | .later _ hs => by
    obtain ⟨key, hkey, hblank⟩ := hs.exists_key hfulltext
    rw [itemKeys]
    exact ⟨key, List.mem_append_right _ hkey, hblank⟩

end

/-- **Refusals.** Compiling a value gives a statement or an error about the condition exactly if
reading does not stop at an empty name, and where it stops there, the error is that of a fragment
without a name. Reading goes through every value in which no key that stands for a column has an
empty name in its path, if the columns of the full-text index have names. -/
theorem compile_refusals (target : ConditionTarget) (v : Value) (j : Journal) :
    (((∃ p, (target.compile v).outcome j = .ok p) ∨
        ∃ e, (target.compile v).outcome j = .error (.condition e)) ↔ ¬ StopsAtBlank target v) ∧
      (StopsAtBlank target v →
        (target.compile v).outcome j = .error (.fragment (.badName (.text "")))) ∧
      ("" ∉ target.fulltextColumns → (∀ key ∈ columnKeys v, "" ∉ columnPath key) →
        ¬ StopsAtBlank target v) := by
  refine ⟨(settled_compile v j).iff, fun hstops => ?_, fun hfulltext hkeys hstops => ?_⟩
  · exact ((settled_compile v j).resolve_right fun h => h.1 hstops).2
  · obtain ⟨key, hkey, hblank⟩ := hstops.exists_key hfulltext
    exact hkeys key hkey hblank

/-- A column whose path ends in a dot is refused otherwise than for the condition. -/
theorem compile_dottedColumn :
    ¬ ((∃ p, (compile ⟨Dialect.sqlite.profile, [], "english"⟩ (.object [("a.", .int 1)])).outcome
        .empty = .ok p) ∨
      ∃ e, (compile ⟨Dialect.sqlite.profile, [], "english"⟩ (.object [("a.", .int 1)])).outcome
        .empty = .error (.condition e)) := by
  have hstops : StopsAtBlank ⟨Dialect.sqlite.profile, [], "english"⟩ (.object [("a.", .int 1)]) :=
    .object (.first (.test ⟨by decide, by decide⟩ (by decide)))
  exact fun hfine => (settled_compile _ .empty).iff.mp hfine hstops

end SqlCompiler.ConditionTarget
