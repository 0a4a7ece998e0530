import SqlCompiler.Proofs.Condition.Reading
import SqlCompiler.Proofs.Condition.Tokens

/-!
# The meaning of compiled conditions

What a condition means for a row follows from what its predicates and its verbatim pieces are for
that row: `Condition.meaning` says how, for the value that spells the condition. Read with the usual
precedence, the text of the compiled condition means the same (`compile_meaning`). The conditions of
an `or` are joined without parentheses of their own. They need none, since each of them is a
conjunction (`exists_conjunction`).
-/

namespace SqlCompiler

open Logic (Truth Formula Token joined parse? parse?_eq_some_iff IsOperand IsConjunction
  IsDisjunction)

/-! ## Meaning -/

/-- The truth of a combination of conditions. -/
def Combinator.truth : Combinator → List Truth → Truth
  | and, ts => Truth.all ts
  | or, ts => Truth.any ts

namespace Condition

/-- Whether a value is a collection without members. -/
def isEmptyCollection : Value → Bool
  | .list items | .tuple items | .set items | .frozenSet items => items.isEmpty
  | _ => false

/-- The truth of what an operator asks, where `t` is that of its predicate. Nothing is a member of
an empty collection, and a search for nothing asks for nothing. -/
def operandMeaning (t : Truth) : Operator → Value → Truth
  | .isIn, operand => if isEmptyCollection operand then .false else t
  | .notIn, operand => if isEmptyCollection operand then .true else t
  | .search, operand => if operand.isPresent then t else .true
  | _, _ => t

/-- The truth of a test of a column, where `t` is that of its predicate. Of several operators the
last one counts. -/
def testMeaning (t : Truth) : Value → Truth
  | .object members =>
    match members.getLast? with
    | none => t
    | some (key, operand) => (Operator.ofName? key).elim t (operandMeaning t · operand)
  | _ => t

mutual

/-- The truth of a condition whose predicates and verbatim pieces have the given truths: the
conjunction of its entries. Null asks for nothing. -/
def meaning (truth : Place → Truth) (place : Place) : Value → Truth
  | .object members => Truth.all (entryMeanings truth place 0 members)
  | _ => .true

/-- The truths of entries, of which the first is the `i`th of its condition. -/
def entryMeanings (truth : Place → Truth) (place : Place) (i : Nat) :
    List (String × Value) → List Truth
  | [] => []
  | entry :: rest =>
    entryMeaning truth (place ++ [i]) entry :: entryMeanings truth place (i + 1) rest

/-- The truth of an entry. -/
def entryMeaning (truth : Place → Truth) (place : Place) : String × Value → Truth
  | (key, v) =>
    match Combinator.ofName? key with
    | some combinator => combinationMeaning truth place combinator v
    | none => if key = "$sql" then truth place else testMeaning (truth place) v

/-- The truth of a combination. A combination of no conditions asks for nothing. -/
def combinationMeaning (truth : Place → Truth) (place : Place) (combinator : Combinator) :
    Value → Truth
  | .list [] | .tuple [] => .true
  | .list items | .tuple items => combinator.truth (childMeanings truth place 0 items)
  | _ => .true

/-- The truths of combined conditions, of which the first is the `i`th. -/
def childMeanings (truth : Place → Truth) (place : Place) (i : Nat) : List Value → List Truth
  | [] => []
  | v :: rest => meaning truth (place ++ [i]) v :: childMeanings truth place (i + 1) rest

end

end Condition

/-! ## The meaning of the text -/

/-- The truth of an atom, given those of the entries. -/
def Atom.truth (truth : Place → Truth) : Atom → Truth
  | constant value => if value then .true else .false
  | entry place _ => truth place

variable {target : ConditionTarget}

namespace ConditionTarget

open Condition

theorem isEmptyCollection_of_collection? {v : Value} {operands : List Value}
    (h : collection? v = some operands) : isEmptyCollection v = operands.isEmpty := by
  cases v <;> cases h <;> rfl

/-- The predicate of a column has the truth that is meant, and a predicate that leaves no trace is
meant to be true. -/
theorem ReadsOperand.atom {column : String} {operator : Operator} {v : Value} {p : Predicate}
    (h : ReadsOperand target column operator v p) (place : Place) :
    (target.predicateFragment (columnPath column) p = none ∧
        ∀ t, operandMeaning t operator v = .true) ∨
      ∃ f, target.predicateFragment (columnPath column) p = some f ∧
        ∀ truth,
          (predicateAtom place f p).truth truth = operandMeaning (truth place) operator v := by
  cases h with
  | compare comparison hc =>
    refine .inr ⟨_, rfl, fun truth => ?_⟩
    cases comparison <;> rfl
  | @isMember v operands negated hv hc =>
    have hempty := isEmptyCollection_of_collection? hv
    cases operands with
    | nil =>
      refine .inr ⟨_, rfl, fun truth => ?_⟩
      cases negated <;> simp [membership, operandMeaning, hempty, predicateAtom, Atom.truth]
    | cons w ws =>
      refine .inr ⟨_, rfl, fun truth => ?_⟩
      cases negated <;> simp [membership, operandMeaning, hempty, predicateAtom, Atom.truth]
  | between hv hc => exact .inr ⟨_, rfl, fun truth => rfl⟩
  | contains hc => exact .inr ⟨_, rfl, fun truth => rfl⟩
  | matchesRegex hc => exact .inr ⟨_, rfl, fun truth => rfl⟩
  | search hc =>
    unfold predicateFragment operandMeaning
    by_cases hv : v.isPresent = true
    · simp only [if_pos hv]
      cases target.searchTemplate? <;> exact .inr ⟨_, rfl, fun truth => rfl⟩
    · simp only [if_neg hv]
      exact .inl ⟨trivial, fun t => trivial⟩

theorem ReadsTest.atom {column : String} {v : Value} {p : Predicate}
    (h : ReadsTest target column v p) (place : Place) :
    (target.predicateFragment (columnPath column) p = none ∧ ∀ t, testMeaning t v = .true) ∨
      ∃ f, target.predicateFragment (columnPath column) p = some f ∧
        ∀ truth, (predicateAtom place f p).truth truth = testMeaning (truth place) v := by
  cases h with
  | plain hv hc =>
    refine .inr ⟨_, rfl, fun truth => ?_⟩
    unfold testMeaning
    split
    · exact absurd rfl (hv _)
    · rfl
  | operator hlast hop hp =>
    unfold testMeaning
    simp only [hlast, hop, Option.elim_some]
    exact hp.atom place

/-- Operands in a row are a conjunction, also if there are none. -/
theorem exists_conjunction_of_operands {tss : List (List (Token Atom))} {fs : List (Formula Atom)}
    (h : List.Forall₂ IsOperand tss fs) :
    ∃ f, IsConjunction (conjunctionTokens tss) f ∧ ∀ truth,
      f.eval (Atom.truth truth) = Truth.all (fs.map (Formula.eval (Atom.truth truth))) := by
  cases h with
  | nil => exact ⟨.atom (.constant true), .operand (.atom _), fun truth => rfl⟩
  | cons h hs =>
    obtain ⟨f, hf, heval⟩ :=
      Logic.exists_conjunction_joined (.cons (.operand h) (hs.imp fun _ _ => .operand))
        (List.cons_ne_nil _ _)
    exact ⟨f, hf, fun truth => heval _⟩

/-- Conjunctions joined by a combinator have the truth of the combination. -/
theorem exists_combination {tss : List (List (Token Atom))} {fs : List (Formula Atom)}
    (combinator : Combinator) (h : List.Forall₂ IsConjunction tss fs) (hne : tss ≠ []) :
    ∃ f, IsDisjunction (joined combinator.token tss) f ∧ ∀ truth, f.eval (Atom.truth truth) =
      combinator.truth (fs.map (Formula.eval (Atom.truth truth))) := by
  cases combinator with
  | and =>
    obtain ⟨f, hf, heval⟩ := Logic.exists_conjunction_joined h hne
    exact ⟨f, .conjunction hf, fun truth => heval _⟩
  | or =>
    obtain ⟨f, hf, heval⟩ := Logic.exists_disjunction_joined h hne
    exact ⟨f, hf, fun truth => heval _⟩

theorem combinationMeaning_of_nil (truth : Place → Truth) (place : Place)
    (combinator : Combinator) {v : Value} (h : children? v = some []) :
    combinationMeaning truth place combinator v = .true := by
  cases v <;> cases h <;> rfl

theorem combinationMeaning_of_cons (truth : Place → Truth) (place : Place)
    (combinator : Combinator) {v w : Value} {items : List Value}
    (h : children? v = some (w :: items)) :
    combinationMeaning truth place combinator v =
      combinator.truth (childMeanings truth place 0 (w :: items)) := by
  cases v <;> cases h <;> rfl

mutual

/-- The tokens of a condition are a conjunction that means what the condition means. -/
theorem exists_conjunction {v : Value} {c : Condition} (place : Place) : Reads target v c →
    ∃ f, IsConjunction (conjunctionTokens (target.entriesTokens place 0 c)) f ∧
      ∀ truth, f.eval (Atom.truth truth) = meaning truth place v
  | .null => ⟨.atom (.constant true), .operand (.atom _), fun truth => rfl⟩
  | .object h => by
    obtain ⟨fs, hfs, hall⟩ := exists_operands place 0 h
    obtain ⟨f, hf, heval⟩ := exists_conjunction_of_operands hfs
    refine ⟨f, hf, fun truth => ?_⟩
    rw [heval, hall]
    rfl

theorem exists_operands {members : List (String × Value)} {entries : List Entry} (place : Place)
    (i : Nat) : ReadsEntries target members entries →
      ∃ fs, List.Forall₂ IsOperand (target.entriesTokens place i entries) fs ∧
        ∀ truth, Truth.all (fs.map (Formula.eval (Atom.truth truth))) =
          Truth.all (entryMeanings truth place i members)
  | .nil => ⟨[], .nil, fun truth => rfl⟩
  | .cons h hs => by
    obtain ⟨fs, hfs, hall⟩ := exists_operands place (i + 1) hs
    rcases exists_operand (place ++ [i]) h with ⟨hnone, htrue⟩ | ⟨ts, f, hsome, hf, heval⟩
    · refine ⟨fs, ?_, fun truth => ?_⟩
      · unfold entriesTokens
        rwa [hnone]
      · unfold entryMeanings
        rw [hall, htrue, Truth.all_cons, Truth.true_and]
    · refine ⟨f :: fs, ?_, fun truth => ?_⟩
      · unfold entriesTokens
        rw [hsome]
        exact .cons hf hfs
      · unfold entryMeanings
        rw [List.map_cons, Truth.all_cons, heval, hall, Truth.all_cons]

theorem exists_operand {key : String} {v : Value} {entry : Entry} (place : Place) :
    ReadsEntry target key v entry →
      (target.entryTokens place entry = none ∧ ∀ truth, entryMeaning truth place (key, v) = .true) ∨
        ∃ ts f, target.entryTokens place entry = some ts ∧ IsOperand ts f ∧
          ∀ truth, f.eval (Atom.truth truth) = entryMeaning truth place (key, v)
  | .test hkey h => by
    unfold entryTokens entryMeaning
    rw [hkey.1]
    simp only [if_neg hkey.2]
    rcases h.atom place with ⟨hnone, htrue⟩ | ⟨f, hsome, htruth⟩
    · rw [hnone]
      exact .inl ⟨rfl, fun truth => htrue _⟩
    · rw [hsome]
      exact .inr ⟨_, _, rfl, .atom _, htruth⟩
  | .verbatim sql => .inr ⟨_, _, rfl, .atom _, fun truth => rfl⟩
  | .combine hkey hv h => by
    obtain ⟨fs, hfs, hmap⟩ := exists_conjunctions place 0 h
    unfold entryMeaning
    simp only [hkey]
    -- A combination of nothing is a constant; any other one is an operand by its parentheses.
    cases h with
    | nil =>
      refine .inr ⟨_, .atom (.constant true), rfl, .atom _, fun truth => ?_⟩
      rw [combinationMeaning_of_nil truth place _ hv]
      rfl
    | cons hc hcs =>
      obtain ⟨f, hf, heval⟩ := exists_combination _ hfs (List.cons_ne_nil _ _)
      refine .inr ⟨_, f, rfl, .parenthesized hf, fun truth => ?_⟩
      rw [heval, hmap, combinationMeaning_of_cons truth place _ hv]

theorem exists_conjunctions {items : List Value} {children : List Condition} (place : Place)
    (i : Nat) : ReadsChildren target items children →
      ∃ fs, List.Forall₂ IsConjunction (target.childTokens place i children) fs ∧
        ∀ truth, fs.map (Formula.eval (Atom.truth truth)) = childMeanings truth place i items
  | .nil => ⟨[], .nil, fun truth => rfl⟩
  | .cons h hs => by
    obtain ⟨f, hf, heval⟩ := exists_conjunction (place ++ [i]) h
    obtain ⟨fs, hfs, hmap⟩ := exists_conjunctions place (i + 1) hs
    refine ⟨f :: fs, ?_, fun truth => ?_⟩
    · unfold childTokens
      exact .cons hf hfs
    · unfold childMeanings
      rw [List.map_cons, heval, hmap]

end

/-- **The meaning of compiled conditions.** The text of a condition that compiles is a row of tokens
whose formula, read with the usual precedence, has the truth that the condition is meant to have,
whatever its predicates and its verbatim pieces are for a row. These are atoms at different places,
so the truths of any two of them are independent. -/
theorem compile_meaning {v : Value} {j : Log.Journal} {p : Sql.Prepared}
    (h : (target.compile v).outcome j = .ok p) :
    ∃ c, (target.read v).outcome j = .ok c ∧
      tokensText target.profile.identifierQuote (target.tokens c) = p.sql ∧
      (places (target.tokens c)).Nodup ∧
      ∃ f, parse? (target.tokens c) = some f ∧
        ∀ truth, f.eval (Atom.truth truth) = meaning truth [] v := by
  obtain ⟨c, hread, rfl⟩ := outcome_compile_eq_ok_iff.mp h
  obtain ⟨f, hf, heval⟩ := exists_conjunction [] hread
  exact ⟨c, outcome_read_eq_ok_iff.mpr hread, text_tokens c, nodup_places_tokens c, f,
    parse?_eq_some_iff.mpr (.conjunction hf), heval⟩

/-- Indices of documents in English, in PostgreSQL. -/
def documents : ConditionTarget :=
  ⟨.postgres, ["body"], "english"⟩

/-- A disjunction of a conjunction, of conditions that ask for nothing, and of a piece of SQL with
an `OR` of its own. -/
def nestedCondition : Value :=
  .object [
    ("or", .list [.object [("a", .int 1), ("b", .object [("in", .list [])])],
      .object [("and", .tuple [.null, .object [("c", .object [("match", .text "")])]])],
      .object [("$sql", .text "d OR e")]]),
    ("f", .object [("nin", .list [.int 2, .int 3])])]

theorem compile_meaning_nestedCondition :
    (documents.compile nestedCondition).outcome .empty =
        .ok ⟨"(a = ? AND FALSE OR (TRUE AND TRUE) OR (d OR e)) AND f NOT IN (?,?)",
          [.int 1, .int 2, .int 3]⟩ ∧
      ∃ c, (documents.read nestedCondition).outcome .empty = .ok c ∧
        tokensText "\"" (documents.tokens c) =
          "(a = ? AND FALSE OR (TRUE AND TRUE) OR (d OR e)) AND f NOT IN (?,?)" ∧
        (places (documents.tokens c)).Nodup ∧
        ∃ f, parse? (documents.tokens c) = some f ∧
          ∀ truth, f.eval (Atom.truth truth) = meaning truth [] nestedCondition := by
  have h : (documents.compile nestedCondition).outcome .empty =
      .ok ⟨"(a = ? AND FALSE OR (TRUE AND TRUE) OR (d OR e)) AND f NOT IN (?,?)",
        [.int 1, .int 2, .int 3]⟩ := rfl
  exact ⟨h, compile_meaning h⟩

end ConditionTarget

end SqlCompiler
