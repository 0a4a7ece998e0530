import SqlCompiler.Proofs.Condition.Reading
import SqlCompiler.Proofs.Condition.Tokens

/-!
# The filters of a condition

Every member of a condition that stands for a column is a filter, at any depth. Compiling renders
each of them once, in order, and at its own place, as the predicate of its last operator; only a
filter that searches for what counts as absent leaves no trace (`compile_filters`). Null and the
empty text are absent, but so are zero and false.
-/

namespace SqlCompiler

open Logic (Token joined)

/-! ## Filters -/

/-- A member of a condition that stands for a column: its place, and what it asks of the column. -/
structure Filter where
  place : Place
  column : String
  asked : Value

namespace Filter

/-- What a filter searches for, if its last operator is a search. -/
def term? (f : Filter) : Option Value :=
  match f.asked with
  | .object members =>
    members.getLast?.bind fun (key, operand) =>
      if Operator.ofName? key = some .search then some operand else none
  | _ => none

/-- Whether a filter searches for what counts as absent. -/
def isIdle (f : Filter) : Bool :=
  f.term?.any fun term => !term.isPresent

/-- Whether a filter searches for null or for the empty text. -/
def isBlank (f : Filter) : Bool :=
  match f.term? with
  | some .null => true
  | some (.text s) => s.isEmpty
  | _ => false

/-- A condition that is the filter alone, with the last one of its operators. -/
def alone (f : Filter) : Value :=
  .object [(f.column, match f.asked with
    | .object members => .object members.getLast?.toList
    | v => v)]

theorem isIdle_of_isBlank {f : Filter} (h : f.isBlank = true) : f.isIdle = true := by
  unfold isBlank at h
  unfold isIdle
  split at h
  · rename_i hterm
    rw [hterm]
    rfl
  · rename_i s hterm
    rw [hterm, Option.any_some, Value.isPresent, h]
    rfl
  · cases h

end Filter

namespace Condition

mutual

/-- The filters of a condition, in order. -/
def filters (place : Place) : Value → List Filter
  | .object members => memberFilters place 0 members
  | _ => []

/-- The filters of entries, of which the first is the `i`th of its condition. -/
def memberFilters (place : Place) (i : Nat) : List (String × Value) → List Filter
  | [] => []
  | entry :: rest => entryFilters (place ++ [i]) entry ++ memberFilters place (i + 1) rest

/-- The filters of an entry: itself, or those of what it combines. -/
def entryFilters (place : Place) : String × Value → List Filter
  | (key, v) =>
    match Combinator.ofName? key with
    | some _ => combinedFilters place v
    | none => if key = "$sql" then [] else [⟨place, key, v⟩]

/-- The filters of combined conditions. -/
def combinedFilters (place : Place) : Value → List Filter
  | .list items | .tuple items => itemFilters place 0 items
  | _ => []

/-- The filters of each of the values, of which the first is the `i`th. -/
def itemFilters (place : Place) (i : Nat) : List Value → List Filter
  | [] => []
  | v :: rest => filters (place ++ [i]) v ++ itemFilters place (i + 1) rest

end

end Condition

/-! ## The atoms of a text -/

/-- The atom of a token that is one. -/
def tokenAtom? : Token Atom → Option Atom
  | .atom a => some a
  | _ => none

/-- The atoms among tokens, in order. -/
def atoms (ts : List (Token Atom)) : List Atom :=
  ts.filterMap tokenAtom?

theorem atoms_joined {t : Token Atom} (ht : tokenAtom? t = none) (tss : List (List (Token Atom))) :
    atoms (joined t tss) = tss.flatMap atoms :=
  Logic.filterMap_joined ht tss

/-- An atom of a compiled condition and, if it is the predicate of a filter, the place of that. -/
structure Piece where
  atom : Atom
  place? : Option Place

/-- Whether an atom is the predicate of a filter. -/
def Piece.isPredicate (piece : Piece) : Bool :=
  piece.place?.isSome

namespace ConditionTarget

/-- The atoms of a conjunction; without any it is the constant `TRUE`. -/
def conjunctionPieces : List Piece → List Piece
  | [] => [⟨.constant true, none⟩]
  | pieces => pieces

mutual

/-- The atoms of an entry; none if nothing is asked. -/
def entryPieces (target : ConditionTarget) (place : Place) : Entry → List Piece
  | .test column predicate =>
    ((target.predicateFragment (columnPath column) predicate).map fun f =>
      ⟨predicateAtom place f predicate, some place⟩).toList
  | .verbatim sql => [⟨.entry place (parenthesized (.verbatim sql)), none⟩]
  | .combine _ [] => [⟨.constant true, none⟩]
  | .combine _ children => childPieces target place 0 children

/-- The atoms of entries, of which the first is the `i`th. -/
def entriesPieces (target : ConditionTarget) (place : Place) (i : Nat) : List Entry → List Piece
  | [] => []
  | entry :: rest =>
    entryPieces target (place ++ [i]) entry ++ entriesPieces target place (i + 1) rest

/-- The atoms of combined conditions, of which the first is the `i`th. -/
def childPieces (target : ConditionTarget) (place : Place) (i : Nat) :
    List (List Entry) → List Piece
  | [] => []
  | child :: rest =>
    conjunctionPieces (entriesPieces target (place ++ [i]) 0 child) ++
      childPieces target place (i + 1) rest

end

/-- The atoms of a compiled condition. -/
def pieces (target : ConditionTarget) (condition : Condition) : List Piece :=
  conjunctionPieces (target.entriesPieces [] 0 condition)

variable {target : ConditionTarget}

theorem conjunctionPieces_ne_nil (pieces : List Piece) : conjunctionPieces pieces ≠ [] := by
  cases pieces <;> exact List.cons_ne_nil _ _

theorem entryPieces_eq_nil_iff (place : Place) (entry : Entry) :
    target.entryPieces place entry = [] ↔ target.entryTokens place entry = none := by
  cases entry with
  | test column predicate =>
    unfold entryPieces entryTokens
    cases target.predicateFragment (columnPath column) predicate <;> simp
  | verbatim sql =>
    unfold entryPieces entryTokens
    simp
  | combine combinator children =>
    cases children with
    | nil =>
      unfold entryPieces entryTokens
      simp
    | cons child children =>
      unfold entryPieces entryTokens childPieces
      simp [conjunctionPieces_ne_nil]

theorem entriesPieces_eq_nil_iff (place : Place) (i : Nat) (entries : List Entry) :
    target.entriesPieces place i entries = [] ↔ target.entriesTokens place i entries = [] := by
  induction entries generalizing i with
  | nil =>
    unfold entriesPieces entriesTokens
    exact iff_of_true rfl rfl
  | cons entry entries ih =>
    have hentry : target.entryPieces (place ++ [i]) entry = [] ↔
        target.entryTokens (place ++ [i]) entry = none := entryPieces_eq_nil_iff _ entry
    unfold entriesPieces entriesTokens
    rw [List.append_eq_nil_iff, hentry, ih]
    cases target.entryTokens (place ++ [i]) entry <;> simp

/-- The atoms of a conjunction are those of its rows. -/
theorem map_atom_conjunctionPieces {pieces : List Piece} {tss : List (List (Token Atom))}
    (h : pieces.map Piece.atom = tss.flatMap atoms) (hnil : pieces = [] ↔ tss = []) :
    (conjunctionPieces pieces).map Piece.atom = atoms (conjunctionTokens tss) := by
  cases tss with
  | nil =>
    rw [hnil.mpr rfl]
    rfl
  | cons ts tss =>
    have hjoined : atoms (conjunctionTokens (ts :: tss)) = (ts :: tss).flatMap atoms :=
      atoms_joined rfl _
    rw [hjoined, ← h]
    cases pieces with
    | nil => cases hnil.mp rfl
    | cons piece pieces => rfl

mutual

theorem map_atom_entryPieces (place : Place) : ∀ entry : Entry,
    (target.entryPieces place entry).map Piece.atom =
      ((target.entryTokens place entry).map atoms).getD []
  | .test column predicate => by
    unfold entryPieces entryTokens
    cases target.predicateFragment (columnPath column) predicate <;> rfl
  | .verbatim sql => by
    unfold entryPieces entryTokens
    rfl
  | .combine _ [] => by
    unfold entryPieces entryTokens
    rfl
  | .combine combinator (child :: children) => by
    have hs := map_atom_childPieces place 0 (child :: children)
    have hconnective : tokenAtom? combinator.token = none := by cases combinator <;> rfl
    unfold entryPieces entryTokens
    rw [hs, ← atoms_joined hconnective]
    show _ = atoms (joined _ _ ++ [.closing])
    unfold atoms
    rw [List.filterMap_append]
    exact (List.append_nil _).symm

theorem map_atom_entriesPieces (place : Place) : ∀ (i : Nat) (entries : List Entry),
    (target.entriesPieces place i entries).map Piece.atom =
      (target.entriesTokens place i entries).flatMap atoms
  | _, [] => by
    unfold entriesPieces entriesTokens
    rfl
  | i, entry :: rest => by
    have h := map_atom_entryPieces (place ++ [i]) entry
    have hs := map_atom_entriesPieces place (i + 1) rest
    unfold entriesPieces entriesTokens
    rw [List.map_append, h, hs]
    cases target.entryTokens (place ++ [i]) entry <;> rfl

theorem map_atom_childPieces (place : Place) : ∀ (i : Nat) (children : List (List Entry)),
    (target.childPieces place i children).map Piece.atom =
      (target.childTokens place i children).flatMap atoms
  | _, [] => by
    unfold childPieces childTokens
    rfl
  | i, child :: rest => by
    have h := map_atom_entriesPieces (place ++ [i]) 0 child
    unfold childPieces childTokens
    rw [List.map_append, List.flatMap_cons, map_atom_childPieces place (i + 1) rest,
      map_atom_conjunctionPieces h (entriesPieces_eq_nil_iff _ _ _)]

end

/-- The pieces of a compiled condition are the atoms of its text. -/
theorem map_atom_pieces (condition : Condition) :
    (target.pieces condition).map Piece.atom = atoms (target.tokens condition) :=
  map_atom_conjunctionPieces (map_atom_entriesPieces [] 0 condition)
    (entriesPieces_eq_nil_iff [] 0 condition)

/-! ## Rendered filters -/

/-- An atom of a compiled condition is the predicate of a filter: it is marked with the place of the
filter, and it is what the filter compiles to on its own. -/
structure Renders (target : ConditionTarget) (f : Filter) (piece : Piece) : Prop where
  place : piece.place? = some f.place
  text : ∀ j, ∃ arguments, (target.compile f.alone).outcome j =
    .ok ⟨piece.atom.text target.profile.identifierQuote, arguments⟩

/-- The text of a condition that is a single predicate. -/
theorem render_conjunction_singleton (quote : String) (f : Sql.Fragment) :
    (conjunction [f]).render quote = f.render quote :=
  String.append_empty

theorem ReadsTest.alone {column : String} {v : Value} {p : Predicate} (hkey : IsColumnKey column)
    (h : ReadsTest target column v p) (place : Place) :
    Reads target (Filter.mk place column v).alone [.test column p] := by
  unfold Filter.alone
  refine .object (.cons (.test hkey ?_) .nil)
  cases h with
  | plain hv hc =>
    dsimp only
    split
    · exact absurd rfl (hv _)
    · exact .plain hv hc
  | operator hlast hop hp =>
    dsimp only
    rw [hlast]
    exact .operator rfl hop hp

/-- A predicate leaves no trace exactly if it searches for what counts as absent. -/
theorem ReadsOperand.predicateFragment_eq_none_iff {column : String} {operator : Operator}
    {v : Value} {p : Predicate} (h : ReadsOperand target column operator v p) :
    target.predicateFragment (columnPath column) p = none ↔
      operator = .search ∧ v.isPresent = false := by
  cases h with
  | compare comparison hc =>
    refine iff_of_false (Option.some_ne_none _) ?_
    cases comparison <;> simp [Comparison.operator]
  | @isMember v operands negated hv hc =>
    refine iff_of_false ?_ ?_
    · cases operands <;> exact Option.some_ne_none _
    · cases negated <;> simp [membership]
  | between | contains | matchesRegex => exact iff_of_false (Option.some_ne_none _) (by simp)
  | search hc =>
    unfold predicateFragment
    by_cases hv : v.isPresent = true
    · simp only [if_pos hv]
      cases target.searchTemplate? <;> simp [hv]
    · simp [hv]

theorem ReadsTest.predicateFragment_eq_none_iff {column : String} {v : Value} {p : Predicate}
    (h : ReadsTest target column v p) (place : Place) :
    target.predicateFragment (columnPath column) p = none ↔
      (Filter.mk place column v).isIdle = true := by
  unfold Filter.isIdle Filter.term?
  cases h with
  | plain hv hc =>
    refine iff_of_false (Option.some_ne_none _) ?_
    dsimp only
    split
    · exact absurd rfl (hv _)
    · simp
  | @operator members key operand operator p hlast hop hp =>
    rw [hp.predicateFragment_eq_none_iff]
    dsimp only
    rw [hlast, Option.bind_some]
    dsimp only
    rw [hop]
    by_cases hsearch : operator = .search
    · simp [hsearch]
    · simp [hsearch]

/-- The predicate of a filter that asks for something is rendered as it is on its own. -/
theorem ReadsTest.renders {column : String} {v : Value} {p : Predicate} {f : Sql.Fragment}
    (hkey : IsColumnKey column) (h : ReadsTest target column v p)
    (hf : target.predicateFragment (columnPath column) p = some f) (place : Place) :
    Renders target ⟨place, column, v⟩ ⟨predicateAtom place f p, some place⟩ := by
  have hfragment : target.fragment [.test column p] = conjunction [f] := by
    unfold fragment entryFragments entryFragment
    rw [hf]
    unfold entryFragments
    rfl
  refine ⟨rfl, fun j => ⟨target.arguments [.test column p], outcome_compile_eq_ok_iff.mpr
    ⟨_, h.alone hkey place, ?_⟩⟩⟩
  rw [prepare, hfragment, render_conjunction_singleton, text_predicateAtom place hf]

/-- The filters of a condition that ask for something. -/
def active (fs : List Filter) : List Filter :=
  fs.filter fun f => !f.isIdle

/-- The atoms that are predicates of filters. -/
def predicates (pieces : List Piece) : List Piece :=
  pieces.filter Piece.isPredicate

theorem predicates_conjunctionPieces (pieces : List Piece) :
    predicates (conjunctionPieces pieces) = predicates pieces := by
  cases pieces <;> rfl

theorem combinedFilters_of_children {v : Value} {items : List Value} (place : Place)
    (h : children? v = some items) :
    Condition.combinedFilters place v = Condition.itemFilters place 0 items := by
  cases v <;> cases h <;> rw [Condition.combinedFilters]

mutual

/-- The filters of a condition that ask for something are rendered in order, at their places. -/
theorem Reads.renders {v : Value} {c : Condition} (place : Place) : Reads target v c →
    List.Forall₂ (Renders target) (active (Condition.filters place v))
      (predicates (target.entriesPieces place 0 c))
  | .null => by
    unfold Condition.filters entriesPieces
    exact .nil
  | .object h => by
    unfold Condition.filters
    exact h.renders place 0

theorem ReadsEntries.renders {members : List (String × Value)} {entries : List Entry}
    (place : Place) (i : Nat) : ReadsEntries target members entries →
      List.Forall₂ (Renders target) (active (Condition.memberFilters place i members))
        (predicates (target.entriesPieces place i entries))
  | .nil => by
    unfold Condition.memberFilters entriesPieces
    exact .nil
  | .cons h hs => by
    unfold Condition.memberFilters entriesPieces active predicates
    rw [List.filter_append, List.filter_append]
    exact List.rel_append (h.renders (place ++ [i])) (hs.renders place (i + 1))

theorem ReadsEntry.renders {key : String} {v : Value} {entry : Entry} (place : Place) :
    ReadsEntry target key v entry →
      List.Forall₂ (Renders target) (active (Condition.entryFilters place (key, v)))
        (predicates (target.entryPieces place entry))
  | .test (p := p) hkey h => by
    have hidle := h.predicateFragment_eq_none_iff place
    unfold Condition.entryFilters entryPieces active predicates
    rw [hkey.1]
    simp only [if_neg hkey.2]
    rcases hf : target.predicateFragment (columnPath key) p with _ | f
    · rw [List.filter_cons_of_neg (by simp [hidle.mp hf])]
      exact .nil
    · have hactive : (Filter.mk place key v).isIdle = false := by
        rw [← Bool.not_eq_true, ← hidle, hf]
        exact nofun
      rw [List.filter_cons_of_pos (by simp [hactive])]
      exact .cons (h.renders hkey hf place) .nil
  | .verbatim sql => .nil
  | .combine hkey hv h => by
    have hchildren := h.renders place 0
    unfold Condition.entryFilters
    simp only [hkey]
    rw [combinedFilters_of_children place hv]
    -- A combination of nothing becomes a constant, which is no predicate.
    cases h with
    | nil =>
      unfold Condition.itemFilters
      exact .nil
    | cons hc hcs => exact hchildren

theorem ReadsChildren.renders {items : List Value} {children : List Condition} (place : Place)
    (i : Nat) : ReadsChildren target items children →
      List.Forall₂ (Renders target) (active (Condition.itemFilters place i items))
        (predicates (target.childPieces place i children))
  | .nil => by
    unfold Condition.itemFilters childPieces
    exact .nil
  | @ReadsChildren.cons _ v child _ _ h hs => by
    have hchild : List.Forall₂ (Renders target) (active (Condition.filters (place ++ [i]) v))
        (predicates (conjunctionPieces (target.entriesPieces (place ++ [i]) 0 child))) := by
      rw [predicates_conjunctionPieces]
      exact h.renders (place ++ [i])
    unfold Condition.itemFilters childPieces active predicates
    rw [List.filter_append, List.filter_append]
    exact List.rel_append hchild (hs.renders place (i + 1))

end

/-- Without the idle filters there are as many as without the blank ones exactly if the idle ones are
blank. -/
theorem length_active_add_iff (fs : List Filter) :
    (active fs).length + (fs.filter Filter.isBlank).length = fs.length ↔
      ∀ f ∈ fs, f.isIdle = true → f.isBlank = true := by
  have hblank : fs.filter Filter.isBlank = (fs.filter Filter.isIdle).filter Filter.isBlank := by
    rw [List.filter_filter]
    refine List.filter_congr fun f _ => ?_
    cases hf : f.isBlank
    · rfl
    · rw [Filter.isIdle_of_isBlank hf]
      rfl
  have hlength := List.length_eq_length_filter_add (l := fs) Filter.isIdle
  have hall : ((fs.filter Filter.isIdle).filter Filter.isBlank).length =
      (fs.filter Filter.isIdle).length ↔ ∀ f ∈ fs, f.isIdle = true → f.isBlank = true := by
    rw [List.length_filter_eq_length_iff]
    simp only [List.mem_filter, and_imp]
  unfold active
  rw [hblank, ← hall]
  omega

/-- **Filters of compiled conditions.** If a condition compiles, the atoms of its text are predicates
of filters, constants and verbatim pieces. The predicates are those of the filters that do not
search for what counts as absent, in order: each is marked with the place of its filter, and is what
that filter compiles to alone, with its last operator. So there are as many predicates as there are
filters without those that search for null or the empty text, exactly if no filter searches for
anything else that counts as absent. -/
theorem compile_filters {v : Value} {j : Log.Journal} {p : Sql.Prepared}
    (h : (target.compile v).outcome j = .ok p) :
    ∃ c, (target.read v).outcome j = .ok c ∧
      tokensText target.profile.identifierQuote (target.tokens c) = p.sql ∧
      (target.pieces c).map Piece.atom = atoms (target.tokens c) ∧
      List.Forall₂ (Renders target) (active (Condition.filters [] v))
        (predicates (target.pieces c)) ∧
      ((predicates (target.pieces c)).length +
            ((Condition.filters [] v).filter Filter.isBlank).length =
          (Condition.filters [] v).length ↔
        ∀ f ∈ Condition.filters [] v, f.isIdle = true → f.isBlank = true) := by
  obtain ⟨c, hread, rfl⟩ := outcome_compile_eq_ok_iff.mp h
  have hrenders : List.Forall₂ (Renders target) (active (Condition.filters [] v))
      (predicates (target.pieces c)) := by
    rw [pieces, predicates_conjunctionPieces]
    exact hread.renders []
  refine ⟨c, outcome_read_eq_ok_iff.mpr hread, text_tokens c, map_atom_pieces c, hrenders, ?_⟩
  rw [← hrenders.length_eq]
  exact length_active_add_iff _

/-- A search for the empty text among other filters: one with two operators, and one for a member of
nothing. -/
def sparseCondition : Value :=
  .object [
    ("or", .list [.object [("a", .object [("gt", .int 1), ("lt", .int 9)])],
      .object [("note", .object [("match", .text "")])]]),
    ("b", .object [("nin", .list [])])]

theorem compile_filters_sparseCondition :
    (compile ⟨Dialect.sqlite.profile, [], "english"⟩ sparseCondition).outcome .empty =
        .ok ⟨"(a < ? OR TRUE) AND TRUE", [.int 9]⟩ ∧
      ∃ c, (read ⟨Dialect.sqlite.profile, [], "english"⟩ sparseCondition).outcome .empty = .ok c ∧
        tokensText "\"" (tokens ⟨Dialect.sqlite.profile, [], "english"⟩ c) =
          "(a < ? OR TRUE) AND TRUE" ∧
        (pieces ⟨Dialect.sqlite.profile, [], "english"⟩ c).map Piece.atom =
          atoms (tokens ⟨Dialect.sqlite.profile, [], "english"⟩ c) ∧
        List.Forall₂ (Renders ⟨Dialect.sqlite.profile, [], "english"⟩)
          (active (Condition.filters [] sparseCondition))
          (predicates (pieces ⟨Dialect.sqlite.profile, [], "english"⟩ c)) ∧
        ((predicates (pieces ⟨Dialect.sqlite.profile, [], "english"⟩ c)).length +
              ((Condition.filters [] sparseCondition).filter Filter.isBlank).length =
            (Condition.filters [] sparseCondition).length ↔
          ∀ f ∈ Condition.filters [] sparseCondition, f.isIdle = true → f.isBlank = true) := by
  have h : (compile ⟨Dialect.sqlite.profile, [], "english"⟩ sparseCondition).outcome .empty =
      .ok ⟨"(a < ? OR TRUE) AND TRUE", [.int 9]⟩ := rfl
  exact ⟨h, compile_filters h⟩

/-- A search for zero is dropped, though zero is neither null nor the empty text. -/
theorem compile_searchedZero :
    (compile ⟨Dialect.sqlite.profile, [], "english"⟩
        (.object [("name", .object [("match", .int 0)])])).outcome .empty = .ok ⟨"TRUE", []⟩ ∧
      ∃ c, (read ⟨Dialect.sqlite.profile, [], "english"⟩
          (.object [("name", .object [("match", .int 0)])])).outcome .empty = .ok c ∧
        predicates (pieces ⟨Dialect.sqlite.profile, [], "english"⟩ c) = [] ∧
        Condition.filters [] (.object [("name", .object [("match", .int 0)])]) ≠ [] ∧
        (Condition.filters [] (.object [("name", .object [("match", .int 0)])])).filter
          Filter.isBlank = [] := by
  refine ⟨rfl, [.test "name" (.search (.int 0))], rfl, rfl, ?_, rfl⟩
  exact List.cons_ne_nil _ _

end ConditionTarget

end SqlCompiler
