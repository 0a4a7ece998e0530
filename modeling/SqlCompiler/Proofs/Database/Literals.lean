import SqlCompiler.Proofs.Database.Preparation
import SqlCompiler.Proofs.Sql.Stripping

/-!
# Literals of prepared statements

Numbering leaves the literals of a statement alone, and removing the null ordering does not know of
them. So a statement keeps its literals through preparation exactly if the dialect keeps the null
ordering, or if it stands in no literal and does not run two of them together (`prepare_literals`).
-/

namespace SqlCompiler.Database

open Sql

variable {parameters : Value} {arguments : List Value}

/-- Arguments in order are taken as they are. -/
theorem outcome_prepare_positional (profile : Profile) (sql : String) (j : Log.Journal)
    (hnamed : ∀ named, parameters ≠ .object named)
    (hpositional : positional parameters = .ok arguments) :
    (prepare profile sql parameters).outcome j = .ok ⟨adapt profile sql, arguments⟩ := by
  have hbound : (bound sql parameters).outcome j = .ok ⟨sql, arguments⟩ := by
    unfold bound
    split
    · exact absurd rfl (hnamed _)
    · rw [hpositional]
      rfl
  unfold prepare
  rw [Log.outcome_bind]
  show ((bound sql parameters).outcome j >>= _) = _
  rw [hbound]
  rfl

/-- Of all that a dialect does to a text, only removing the null ordering can change literals. -/
theorem literalTexts_adapt (d : Dialect) (sql : String) :
    literalTexts (adapt d.profile sql).toList =
      literalTexts (if d = .mysql then sql.toList else stripped sql.toList) := by
  cases d with
  | mysql => rfl
  | sqlite => exact congrArg literalTexts (toList_stripNullOrdering sql)
  | postgres =>
    show literalTexts (numberMarks sql).toList = literalTexts (stripped sql.toList)
    unfold numberMarks
    rw [String.toList_ofList, literalTexts_numberTokens, toList_stripNullOrdering]

/-- **Literals through preparation.** A statement with arguments in order is prepared for every
dialect. Its literals are then what they were if the dialect is MySQL, or if the null ordering
stands in none of them and takes no text between two of them away, and else they are not. -/
theorem prepare_literals (d : Dialect) (sql : String) (j : Log.Journal)
    (hnamed : ∀ named, parameters ≠ .object named)
    (hpositional : positional parameters = .ok arguments) :
    ∃ p, (prepare d.profile sql parameters).outcome j = .ok p ∧ p.arguments = arguments ∧
      (literalTexts p.sql.toList = literalTexts sql.toList ↔
        d = .mysql ∨
          (∀ l ∈ literalTexts sql.toList, ¬ HasNullOrdering l) ∧ LiteralsApart [] sql.toList) := by
  refine ⟨_, outcome_prepare_positional d.profile sql j hnamed hpositional, rfl, ?_⟩
  rw [literalTexts_adapt]
  by_cases hd : d = .mysql
  · rw [if_pos hd]
    exact iff_of_true rfl (.inl hd)
  · rw [if_neg hd, literalTexts_stripped_eq_iff, or_iff_right hd]

/-- A statement whose null ordering is outside of literals, with an argument for its only mark. -/
theorem prepare_literals_mark :
    (∀ named, Value.tuple [.int 1] ≠ .object named) ∧
      positional (.tuple [.int 1]) = .ok [.int 1] ∧
      (prepare Dialect.postgres.profile "SELECT 'it''s ?' WHERE a = ? ORDER BY NULL"
          (.tuple [.int 1])).outcome .empty =
        .ok ⟨"SELECT 'it''s ?' WHERE a = $1", [.int 1]⟩ ∧
      literalTexts "SELECT 'it''s ?' WHERE a = $1".toList = ["'it''s ?'".toList] ∧
      literalTexts "SELECT 'it''s ?' WHERE a = ? ORDER BY NULL".toList = ["'it''s ?'".toList] ∧
      (∀ l ∈ ["'it''s ?'".toList], ¬ HasNullOrdering l) ∧
      LiteralsApart [] "SELECT 'it''s ?' WHERE a = ? ORDER BY NULL".toList := by
  have hbefore : literalTexts "SELECT 'it''s ?' WHERE a = ? ORDER BY NULL".toList =
      ["'it''s ?'".toList] := by
    decide +kernel
  have hafter : literalTexts "SELECT 'it''s ?' WHERE a = $1".toList = ["'it''s ?'".toList] := by
    decide +kernel
  have hsql : adapt Dialect.postgres.profile "SELECT 'it''s ?' WHERE a = ? ORDER BY NULL" =
      "SELECT 'it''s ?' WHERE a = $1" := by
    decide +kernel
  have hprepared := @outcome_prepare_positional (.tuple [.int 1]) [.int 1]
    Dialect.postgres.profile "SELECT 'it''s ?' WHERE a = ? ORDER BY NULL" .empty nofun rfl
  rw [hsql] at hprepared
  obtain ⟨p, hp, -, hiff⟩ := @prepare_literals (.tuple [.int 1]) [.int 1] .postgres
    "SELECT 'it''s ?' WHERE a = ? ORDER BY NULL" .empty nofun rfl
  cases hprepared.symm.trans hp
  rw [hbefore] at hiff
  obtain hmysql | ⟨hclause, hapart⟩ := hiff.mp hafter
  · cases hmysql
  · exact ⟨nofun, rfl, hprepared, hafter, hbefore, hclause, hapart⟩

/-- A literal that is the clause loses it: of the two apostrophes nothing is left between. -/
theorem prepare_literalClause :
    ∃ p, (prepare Dialect.sqlite.profile "SELECT 'ORDER BY NULL'" (.list [])).outcome .empty = .ok p ∧
      p.sql = "SELECT ''" ∧
      literalTexts p.sql.toList ≠ literalTexts "SELECT 'ORDER BY NULL'".toList := by
  refine ⟨_, outcome_prepare_positional _ _ _ nofun rfl, ?_, ?_⟩
  · decide +kernel
  · decide +kernel

end SqlCompiler.Database
