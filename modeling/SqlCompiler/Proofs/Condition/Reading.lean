import SqlCompiler.Condition.Read
import SqlCompiler.Proofs.Log.Outcome

/-!
# What values read as

`Reads target v c` says that the value `v` spells the condition `c` and that `c` compiles for the
target: one rule for each form that a condition, an entry or a test of a column can have. Reading
succeeds exactly with what the rules give (`outcome_read_eq_ok_iff`), whatever the log holds, so
that a fact about conditions that are accepted needs an induction over the rules only.
-/

namespace SqlCompiler.ConditionTarget

open Log (Journal Logged outcome_pure outcome_throw outcome_emit outcome_lift
  outcome_bind_eq_ok_iff)

variable {target : ConditionTarget}

/-! ## The rules -/

/-- The conditions that a combinator takes: the members of a list or tuple. -/
def children? : Value → Option (List Value)
  | .list items | .tuple items => some items
  | _ => none

/-- A key that stands for a column, since it stands for nothing else. -/
def IsColumnKey (key : String) : Prop :=
  Combinator.ofName? key = none ∧ key ≠ "$sql"

/-- The operator of a membership. -/
def membership (negated : Bool) : Operator :=
  if negated then .notIn else .isIn

/-- What an operator and its operand ask of a column. -/
inductive ReadsOperand (target : ConditionTarget) (column : String) :
    Operator → Value → Predicate → Prop
  | compare {v : Value} (comparison : Comparison) (hc : checkColumn column = .ok ()) :
    ReadsOperand target column comparison.operator v (.compare comparison v)
  | isMember {v : Value} {operands : List Value} (negated : Bool)
    (hv : collection? v = some operands) (hc : operands ≠ [] → checkColumn column = .ok ()) :
    ReadsOperand target column (membership negated) v (.isMember negated operands)
  | between {v low high : Value} (hv : pair? v = some (low, high))
    (hc : checkColumn column = .ok ()) :
    ReadsOperand target column .between v (.between low high)
  | contains {v : Value} (hc : checkColumn column = .ok ()) :
    ReadsOperand target column .contains v (.contains v)
  | matchesRegex {v : Value} (hc : checkColumn column = .ok ()) :
    ReadsOperand target column .regex v (.matchesRegex v)
  | search {v : Value} (hc : v.isPresent = true → target.checkSearch column = .ok ()) :
    ReadsOperand target column .search v (.search v)

/-- What a value asks of a column. An object names operators, of which the last one counts; any
other value is compared with. -/
inductive ReadsTest (target : ConditionTarget) (column : String) : Value → Predicate → Prop
  | plain {v : Value} (hv : ∀ members, v ≠ .object members) (hc : checkColumn column = .ok ()) :
    ReadsTest target column v (.compare .eq v)
  | operator {members : Members} {key : String} {operand : Value} {operator : Operator}
    {p : Predicate} (hlast : members.getLast? = some (key, operand))
    (hop : Operator.ofName? key = some operator)
    (hp : ReadsOperand target column operator operand p) :
    ReadsTest target column (.object members) p

mutual

/-- What a value reads as. -/
inductive Reads (target : ConditionTarget) : Value → Condition → Prop
  | null : Reads target .null []
  | object {members : List (String × Value)} {entries : List Entry}
    (h : ReadsEntries target members entries) : Reads target (.object members) entries

/-- What the members of an object read as, one entry for each. -/
inductive ReadsEntries (target : ConditionTarget) : List (String × Value) → List Entry → Prop
  | nil : ReadsEntries target [] []
  | cons {key : String} {v : Value} {entry : Entry} {members : List (String × Value)}
    {entries : List Entry} (h : ReadsEntry target key v entry)
    (hs : ReadsEntries target members entries) :
    ReadsEntries target ((key, v) :: members) (entry :: entries)

/-- What a member of an object reads as. -/
inductive ReadsEntry (target : ConditionTarget) : String → Value → Entry → Prop
  | test {column : String} {v : Value} {p : Predicate} (hkey : IsColumnKey column)
    (h : ReadsTest target column v p) : ReadsEntry target column v (.test column p)
  | verbatim (sql : String) : ReadsEntry target "$sql" (.text sql) (.verbatim sql)
  | combine {key : String} {combinator : Combinator} {v : Value} {items : List Value}
    {children : List Condition} (hkey : Combinator.ofName? key = some combinator)
    (hv : children? v = some items) (h : ReadsChildren target items children) :
    ReadsEntry target key v (.combine combinator children)

/-- What the values that a combinator takes read as. -/
inductive ReadsChildren (target : ConditionTarget) : List Value → List Condition → Prop
  | nil : ReadsChildren target [] []
  | cons {v : Value} {child : Condition} {items : List Value} {children : List Condition}
    (h : Reads target v child) (hs : ReadsChildren target items children) :
    ReadsChildren target (v :: items) (child :: children)

end

/-! ## Tests of a column -/

/-- A check in front of a result only decides whether there is one. -/
theorem check_bind_eq_ok_iff {check : Except Error Unit} {p q : Predicate} :
    (do check; return q : Except Error Predicate) = .ok p ↔ check = .ok () ∧ p = q := by
  cases check with
  | error e => simp [bind, Except.bind]
  | ok u => simp [bind, Except.bind, pure, Except.pure, eq_comm]

theorem readComparison_eq_ok_iff {column : String} {comparison : Comparison} {operand : Value}
    {p : Predicate} :
    readComparison column comparison operand = .ok p ↔
      checkColumn column = .ok () ∧ p = .compare comparison operand :=
  check_bind_eq_ok_iff

theorem readOperand_comparison (column : String) (comparison : Comparison) (operand : Value) :
    target.readOperand column comparison.operator operand =
      readComparison column comparison operand := by
  cases comparison <;> rfl

theorem readOperand_membership_eq_ok_iff {column : String} {negated : Bool} {operand : Value}
    {p : Predicate} :
    target.readOperand column (membership negated) operand = .ok p ↔
      ∃ operands, collection? operand = some operands ∧
        (operands ≠ [] → checkColumn column = .ok ()) ∧ p = .isMember negated operands := by
  have hin : (Operator.isIn == Operator.notIn) = false := rfl
  rcases hv : collection? operand with _ | _ | ⟨v, vs⟩
  · cases negated <;> simp [readOperand, membership, hv]
  · cases negated <;> simp [readOperand, membership, hv, hin, eq_comm]
  · cases negated <;> simpa [readOperand, membership, hv, hin] using check_bind_eq_ok_iff

theorem readOperand_between_eq_ok_iff {column : String} {operand : Value} {p : Predicate} :
    target.readOperand column .between operand = .ok p ↔
      ∃ low high, pair? operand = some (low, high) ∧ checkColumn column = .ok () ∧
        p = .between low high := by
  unfold readOperand
  dsimp only
  rcases pair? operand with _ | ⟨low, high⟩
  · simp
  · refine check_bind_eq_ok_iff.trans ⟨?_, ?_⟩
    · rintro ⟨hc, rfl⟩
      exact ⟨low, high, rfl, hc, rfl⟩
    · rintro ⟨_, _, h, hc, rfl⟩
      cases h
      exact ⟨hc, rfl⟩

theorem readOperand_search_eq_ok_iff {column : String} {operand : Value} {p : Predicate} :
    target.readOperand column .search operand = .ok p ↔
      (operand.isPresent = true → target.checkSearch column = .ok ()) ∧ p = .search operand := by
  unfold readOperand
  dsimp only
  by_cases h : operand.isPresent = true
  · rw [if_pos h]
    simpa [h] using check_bind_eq_ok_iff
  · simp [h, pure, Except.pure, eq_comm]

/-- An operator compares, asks for a membership, or is one of four others. -/
theorem operator_cases (operator : Operator) :
    (∃ comparison : Comparison, operator = comparison.operator) ∨
      (∃ negated, operator = membership negated) ∨ operator = .between ∨ operator = .contains ∨
      operator = .search ∨ operator = .regex := by
  cases operator with
  | eq => exact .inl ⟨.eq, rfl⟩
  | neq => exact .inl ⟨.neq, rfl⟩
  | gt => exact .inl ⟨.gt, rfl⟩
  | gte => exact .inl ⟨.gte, rfl⟩
  | lt => exact .inl ⟨.lt, rfl⟩
  | lte => exact .inl ⟨.lte, rfl⟩
  | isIn => exact .inr (.inl ⟨false, rfl⟩)
  | notIn => exact .inr (.inl ⟨true, rfl⟩)
  | between | contains | search | regex => simp

theorem readOperand_eq_ok_iff {column : String} {operator : Operator} {operand : Value}
    {p : Predicate} :
    target.readOperand column operator operand = .ok p ↔
      ReadsOperand target column operator operand p := by
  constructor
  · intro h
    rcases operator_cases operator with ⟨comparison, rfl⟩ | ⟨negated, rfl⟩ | rfl | rfl | rfl | rfl
    · rw [readOperand_comparison, readComparison_eq_ok_iff] at h
      obtain ⟨hc, rfl⟩ := h
      exact .compare comparison hc
    · obtain ⟨operands, hv, hc, rfl⟩ := readOperand_membership_eq_ok_iff.mp h
      exact .isMember negated hv hc
    · obtain ⟨low, high, hv, hc, rfl⟩ := readOperand_between_eq_ok_iff.mp h
      exact .between hv hc
    · obtain ⟨hc, rfl⟩ := check_bind_eq_ok_iff.mp h
      exact .contains hc
    · obtain ⟨hc, rfl⟩ := readOperand_search_eq_ok_iff.mp h
      exact .search hc
    · obtain ⟨hc, rfl⟩ := check_bind_eq_ok_iff.mp h
      exact .matchesRegex hc
  · intro h
    cases h with
    | compare comparison hc =>
      rw [readOperand_comparison]
      exact readComparison_eq_ok_iff.mpr ⟨hc, rfl⟩
    | isMember negated hv hc => exact readOperand_membership_eq_ok_iff.mpr ⟨_, hv, hc, rfl⟩
    | between hv hc => exact readOperand_between_eq_ok_iff.mpr ⟨_, _, hv, hc, rfl⟩
    | contains hc | matchesRegex hc => exact check_bind_eq_ok_iff.mpr ⟨hc, rfl⟩
    | search hc => exact readOperand_search_eq_ok_iff.mpr ⟨hc, rfl⟩

theorem readsTest_of_outcome {column : String} {v : Value} {entry : Entry} {j : Journal}
    (h : (target.readTest column v).outcome j = .ok entry) :
    ∃ p, ReadsTest target column v p ∧ entry = .test column p := by
  unfold readTest at h
  split at h
  · split at h
    · simp [outcome_throw] at h
    · rename_i key operand hlast
      split at h
      · simp [outcome_throw] at h
      · rename_i operator hop
        -- The record about other operators has no part in the outcome.
        split at h <;>
          simp only [outcome_bind_eq_ok_iff, outcome_lift, outcome_pure, Except.ok.injEq,
            readOperand_eq_ok_iff] at h
        · obtain ⟨_, _, p, hp, rfl⟩ := h
          exact ⟨p, .operator hlast hop hp, rfl⟩
        · obtain ⟨p, hp, rfl⟩ := h
          exact ⟨p, .operator hlast hop hp, rfl⟩
  · rename_i hv
    simp only [outcome_bind_eq_ok_iff, outcome_lift, outcome_pure, Except.ok.injEq,
      readComparison_eq_ok_iff] at h
    obtain ⟨p, ⟨hc, rfl⟩, rfl⟩ := h
    exact ⟨_, .plain hv hc, rfl⟩

theorem ReadsTest.outcome {column : String} {v : Value} {p : Predicate}
    (h : ReadsTest target column v p) (j : Journal) :
    (target.readTest column v).outcome j = .ok (.test column p) := by
  cases h with
  | plain hv hc =>
    unfold readTest
    split
    · exact absurd rfl (hv _)
    · simp only [outcome_bind_eq_ok_iff, outcome_lift, outcome_pure, readComparison_eq_ok_iff]
      exact ⟨_, ⟨hc, rfl⟩, rfl⟩
  | operator hlast hop hp =>
    unfold readTest
    simp only [hlast, hop]
    split <;> simp only [outcome_bind_eq_ok_iff, outcome_emit, outcome_lift, outcome_pure,
      readOperand_eq_ok_iff]
    · exact ⟨(), trivial, p, hp, rfl⟩
    · exact ⟨p, hp, rfl⟩

/-! ## Entries -/

/-- Reads one member of an object. -/
def readEntry (target : ConditionTarget) (key : String) (v : Value) : Logged Error Entry :=
  match Combinator.ofName? key with
  | some combinator => target.readCombination combinator v
  | none =>
    if key = "$sql" then
      match v with
      | .text s => pure (.verbatim s)
      | _ => throw (.condition .verbatimNotText)
    else target.readTest key v

theorem readEntry_of_combinator {key : String} {combinator : Combinator}
    (hkey : Combinator.ofName? key = some combinator) (v : Value) :
    target.readEntry key v = target.readCombination combinator v := by
  unfold readEntry
  rw [hkey]

theorem readEntry_of_column {column : String} (hkey : IsColumnKey column) (v : Value) :
    target.readEntry column v = target.readTest column v := by
  unfold readEntry
  rw [hkey.1]
  dsimp only
  rw [if_neg hkey.2]

theorem readEntries_cons (key : String) (v : Value) (rest : List (String × Value)) :
    target.readEntries ((key, v) :: rest) = do
      let entry ← target.readEntry key v
      return entry :: (← target.readEntries rest) := by
  rw [readEntries.eq_def]
  unfold readEntry
  dsimp only
  cases Combinator.ofName? key with
  | some combinator => rfl
  | none =>
    by_cases hkey : key = "$sql"
    · simp only [if_pos hkey]
      cases v <;> rfl
    · simp only [if_neg hkey]

theorem readCombination_of_children {combinator : Combinator} {v : Value} {items : List Value}
    (h : children? v = some items) :
    target.readCombination combinator v = do
      return .combine combinator (← target.readChildren items) := by
  unfold children? at h
  split at h <;> simp only [Option.some.injEq, reduceCtorEq] at h
  all_goals
    subst h
    rw [readCombination]

/-- A member that stands for no combinator is a column or verbatim. -/
theorem readsEntry_of_outcome {key : String} {v : Value} {entry : Entry} {j : Journal}
    (hkey : Combinator.ofName? key = none)
    (h : (target.readEntry key v).outcome j = .ok entry) : ReadsEntry target key v entry := by
  by_cases hsql : key = "$sql"
  · subst hsql
    unfold readEntry at h
    rw [hkey] at h
    dsimp only at h
    rw [if_pos rfl] at h
    split at h
    · cases h
      exact .verbatim _
    · simp [outcome_throw] at h
  · rw [readEntry_of_column ⟨hkey, hsql⟩] at h
    obtain ⟨p, hp, rfl⟩ := readsTest_of_outcome h
    exact .test ⟨hkey, hsql⟩ hp

/-! ## Whole conditions -/

mutual

theorem reads_of_outcome : ∀ {v : Value} {c : Condition} {j : Journal},
    (target.read v).outcome j = .ok c → Reads target v c
  | .null, _, _, h => by
    rw [read, outcome_pure] at h
    cases h
    exact .null
  | .object members, _, _, h => by
    rw [read] at h
    exact .object (readsEntries_of_outcome h)
  | .bool _, _, _, h | .int _, _, _, h | .float _, _, _, h | .decimal _, _, _, h
  | .text _, _, _, h | .bytes _, _, _, h | .date _, _, _, h | .time _, _, _, h
  | .dateTime _, _, _, h | .list _, _, _, h | .tuple _, _, _, h | .set _, _, _, h
  | .frozenSet _, _, _, h => by simp [read, outcome_throw] at h

theorem readsEntries_of_outcome : ∀ {members : List (String × Value)} {entries : List Entry}
    {j : Journal}, (target.readEntries members).outcome j = .ok entries →
      ReadsEntries target members entries
  | [], _, _, h => by
    rw [readEntries, outcome_pure] at h
    cases h
    exact .nil
  | (key, v) :: rest, _, _, h => by
    simp only [readEntries_cons, outcome_bind_eq_ok_iff, outcome_pure, Except.ok.injEq] at h
    obtain ⟨entry, he, entries, hs, rfl⟩ := h
    refine .cons ?_ (readsEntries_of_outcome hs)
    rcases hkey : Combinator.ofName? key with _ | combinator
    · exact readsEntry_of_outcome hkey he
    · rw [readEntry_of_combinator hkey] at he
      exact readsEntry_of_combination hkey he

theorem readsEntry_of_combination : ∀ {key : String} {combinator : Combinator} {v : Value}
    {entry : Entry} {j : Journal}, Combinator.ofName? key = some combinator →
      (target.readCombination combinator v).outcome j = .ok entry → ReadsEntry target key v entry
  | _, _, .list items, _, _, hkey, h | _, _, .tuple items, _, _, hkey, h => by
    rw [readCombination_of_children rfl] at h
    simp only [outcome_bind_eq_ok_iff, outcome_pure, Except.ok.injEq] at h
    obtain ⟨children, hs, rfl⟩ := h
    exact .combine hkey rfl (readsChildren_of_outcome hs)
  | _, _, .null, _, _, _, h | _, _, .bool _, _, _, _, h | _, _, .int _, _, _, _, h
  | _, _, .float _, _, _, _, h | _, _, .decimal _, _, _, _, h | _, _, .text _, _, _, _, h
  | _, _, .bytes _, _, _, _, h | _, _, .date _, _, _, _, h | _, _, .time _, _, _, _, h
  | _, _, .dateTime _, _, _, _, h | _, _, .set _, _, _, _, h | _, _, .frozenSet _, _, _, _, h
  | _, _, .object _, _, _, _, h => by simp [readCombination, outcome_throw] at h

theorem readsChildren_of_outcome : ∀ {items : List Value} {children : List Condition}
    {j : Journal}, (target.readChildren items).outcome j = .ok children →
      ReadsChildren target items children
  | [], _, _, h => by
    rw [readChildren, outcome_pure] at h
    cases h
    exact .nil
  | v :: rest, _, _, h => by
    simp only [readChildren, outcome_bind_eq_ok_iff, outcome_pure, Except.ok.injEq] at h
    obtain ⟨child, hc, children, hs, rfl⟩ := h
    exact .cons (reads_of_outcome hc) (readsChildren_of_outcome hs)

end

mutual

theorem Reads.outcome {v : Value} {c : Condition} (j : Journal) :
    Reads target v c → (target.read v).outcome j = .ok c
  | .null => by rw [read, outcome_pure]
  | .object h => by
    rw [read]
    exact h.outcome j

theorem ReadsEntries.outcome {members : List (String × Value)} {entries : List Entry}
    (j : Journal) :
    ReadsEntries target members entries → (target.readEntries members).outcome j = .ok entries
  | .nil => by rw [readEntries, outcome_pure]
  | .cons h hs => by
    simp only [readEntries_cons, outcome_bind_eq_ok_iff, outcome_pure]
    exact ⟨_, h.outcome j, _, hs.outcome _, rfl⟩

theorem ReadsEntry.outcome {key : String} {v : Value} {entry : Entry} (j : Journal) :
    ReadsEntry target key v entry → (target.readEntry key v).outcome j = .ok entry
  | .test hkey h => by
    rw [readEntry_of_column hkey]
    exact h.outcome j
  | .verbatim sql => rfl
  | .combine hkey hv h => by
    rw [readEntry_of_combinator hkey, readCombination_of_children hv]
    simp only [outcome_bind_eq_ok_iff, outcome_pure]
    exact ⟨_, h.outcome j, rfl⟩

theorem ReadsChildren.outcome {items : List Value} {children : List Condition} (j : Journal) :
    ReadsChildren target items children → (target.readChildren items).outcome j = .ok children
  | .nil => by rw [readChildren, outcome_pure]
  | .cons h hs => by
    simp only [readChildren, outcome_bind_eq_ok_iff, outcome_pure]
    exact ⟨_, h.outcome j, _, hs.outcome _, rfl⟩

end

/-- **Reading.** Whatever the log holds, a value is read exactly as the rules say. -/
theorem outcome_read_eq_ok_iff {v : Value} {c : Condition} {j : Journal} :
    (target.read v).outcome j = .ok c ↔ Reads target v c :=
  ⟨reads_of_outcome, fun h => h.outcome j⟩

/-- A value compiles to the statement of the condition that it reads as. -/
theorem outcome_compile_eq_ok_iff {v : Value} {p : Sql.Prepared} {j : Journal} :
    (target.compile v).outcome j = .ok p ↔ ∃ c, Reads target v c ∧ p = target.prepare c := by
  unfold compile
  simp only [outcome_bind_eq_ok_iff, outcome_pure, outcome_read_eq_ok_iff, Except.ok.injEq]
  exact exists_congr fun c => and_congr_right fun _ => eq_comm

end SqlCompiler.ConditionTarget
