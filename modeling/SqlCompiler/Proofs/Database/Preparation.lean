import SqlCompiler.Database.Basic
import SqlCompiler.Proofs.Log.Outcome
import SqlCompiler.Proofs.Sql.Binding

/-!
# Prepared statements

Preparing a statement is three passes over its text: binding, removal of the null ordering, and
numbering, of which a dialect has the last two or not. A statement without question marks outside of
literals keeps its markers and arguments aligned through all of them (`prepare_aligned`): the passes
behind the first take away text only, and the last numbers exactly the markers.
-/

namespace SqlCompiler

namespace Sql

/-- The text of a bound statement, its markers in a style: question marks, or numbers from one
on. -/
def markedText (style : PlaceholderStyle) (cells : List BoundCell) : List Char :=
  match style with
  | .question => boundText cells
  | .numbered => numberCells 1 (cells.map BoundCell.cell)

theorem markedValues_filter_isTelling (cells : List BoundCell) :
    markedValues (cells.filter (isTelling ∘ Cell.char ∘ BoundCell.cell)) = markedValues cells := by
  unfold markedValues
  rw [List.filterMap_filter]
  congr 1
  funext cell
  cases cell with
  | marker v => rfl
  | plain c => exact ite_self none

/-- Removing the null ordering of a bound statement keeps some of its places, the markers and the
apostrophes among them. -/
theorem exists_kept_boundText (cells : List BoundCell) :
    ∃ kept : List BoundCell, stripNullOrdering (String.ofList (boundText cells)) =
        String.ofList (boundText kept) ∧
      kept.Sublist cells ∧ kept.filter (isTelling ∘ Cell.char ∘ BoundCell.cell) =
        cells.filter (isTelling ∘ Cell.char ∘ BoundCell.cell) := by
  have htext : ∀ cells, boundText cells = cells.map (Cell.char ∘ BoundCell.cell) := fun cells =>
    List.map_map
  have hclause : ∀ c ∈ nullOrdering, isTelling c = false := by
    have hall : nullOrdering.all (fun c => !isTelling c) = true := by decide
    simpa using hall
  obtain ⟨kept, hstrip, hsub, hfilter⟩ := exists_kept
    (fun _ => isTelling_eq_false_of_isBlank) hclause (Cell.char ∘ BoundCell.cell)
    (boundText cells).length none cells
  refine ⟨kept, ?_, hsub, hfilter⟩
  unfold stripNullOrdering
  rw [String.toList_ofList, htext kept, ← hstrip, htext cells]

/-- Numbering a text in which literals tell the markers apart numbers the markers. -/
theorem numberOutside_boundText {cells : List BoundCell}
    (h : MarksAgree [] (cells.map BoundCell.cell)) :
    numberTokens 1 (markedTokens (boundText cells)) = markedText .numbered cells := by
  rw [numberTokens_markedTokens _ 1 [] rfl]
  exact (numberOutside_cellText_eq_iff _ 1 []).mpr h

/-- Binding with its record has the outcome of binding. -/
theorem outcome_bind_named (sql : String) (named : Members) (j : Log.Journal) :
    (bind sql named true).outcome j =
      (bindNamed sql named true).mapError Error.missingParameter := by
  unfold bind
  rw [Log.outcome_bind, Log.outcome_lift]
  cases (bindNamed sql named true).mapError Error.missingParameter <;> rfl

end Sql

namespace Database

open Sql

/-- Adapting a bound statement to a dialect keeps some of its places, the markers and the
apostrophes among them, and writes the markers in the style of the dialect. -/
theorem exists_kept_adapt (d : Dialect) {cells : List BoundCell}
    (h : MarksAgree [] (cells.map BoundCell.cell)) :
    ∃ kept : List BoundCell,
      (adapt d.profile (String.ofList (boundText cells))).toList =
        markedText d.profile.placeholderStyle kept ∧
      kept.Sublist cells ∧ markedValues kept = markedValues cells ∧
      MarksAgree [] (kept.map BoundCell.cell) ∧
      String.ofList (boundText kept) =
        if d.profile.stripsNullOrdering then stripNullOrdering (String.ofList (boundText cells))
        else String.ofList (boundText cells) := by
  obtain ⟨kept, hstrip, hsub, hfilter⟩ := exists_kept_boundText cells
  have hvalues : markedValues kept = markedValues cells := by
    rw [← markedValues_filter_isTelling, hfilter, markedValues_filter_isTelling]
  have hagree : MarksAgree [] (kept.map BoundCell.cell) := by
    refine h.of_filter_eq ?_
    rw [List.filter_map, List.filter_map]
    exact congrArg _ hfilter
  cases d with
  | mysql => exact ⟨cells, String.toList_ofList, List.Sublist.refl _, rfl, h, rfl⟩
  | sqlite =>
    refine ⟨kept, ?_, hsub, hvalues, hagree, hstrip.symm⟩
    show (stripNullOrdering _).toList = boundText kept
    rw [hstrip, String.toList_ofList]
  | postgres =>
    refine ⟨kept, ?_, hsub, hvalues, hagree, hstrip.symm⟩
    show (numberMarks _).toList = markedText .numbered kept
    unfold numberMarks
    rw [String.toList_ofList, hstrip, String.toList_ofList]
    exact numberOutside_boundText hagree

/-- How a prepared statement belongs to the places of a bound one. The places `kept` are those that
are left when a dialect removes the null ordering, all markers among them. The prepared text is
theirs, with the markers written in the style of the dialect, and the arguments are the values that
the markers stand for. -/
structure Aligned (d : Dialect) (places kept : List BoundCell) (p : Prepared) : Prop where
  text : p.sql.toList = markedText d.profile.placeholderStyle kept
  arguments : p.arguments = markedValues kept
  markers : (kept.map BoundCell.cell).count .placeholder = p.arguments.length
  openMarks : d.profile.placeholderStyle = .question →
    Sql.openMarks [] p.sql.toList = p.arguments.length
  sublist : kept.Sublist places
  values : markedValues kept = markedValues places
  stripped : String.ofList (boundText kept) =
    if d.profile.stripsNullOrdering then stripNullOrdering (String.ofList (boundText places))
    else String.ofList (boundText places)

/-- Preparing binds by the rule, and adapts what has been bound. -/
theorem outcome_prepare_named {sql : String} {named : Members} (profile : Profile)
    (j : Log.Journal)
    (hnamed : ∀ before name, Mentions sql.toList before name → (named.get? name).isSome) :
    (prepare profile sql (.object named)).outcome j =
      .ok ⟨adapt profile (String.ofList (boundText (boundCells named (namedTokens sql.toList)))),
        markedValues (boundCells named (namedTokens sql.toList))⟩ := by
  have hbound : bindNamed sql named true =
      .ok ⟨String.ofList (boundText (boundCells named (namedTokens sql.toList))),
        markedValues (boundCells named (namedTokens sql.toList))⟩ := by
    rw [bindNamed_eq, bindOutside_of_mentions true hnamed]
    rfl
  unfold prepare
  rw [Log.outcome_bind]
  show ((bind sql named true).outcome j >>= _) = _
  rw [outcome_bind_named, hbound]
  rfl

/-- **Markers and arguments.** If a statement has no question marks outside of literals and all
parameters that it mentions have values, it is bound by the rule, preparing it succeeds for every
dialect, and the markers of the prepared statement are aligned with its arguments: they are `$1`,
`$2` and so on from left to right, or question marks, which are then the only ones outside of
literals. -/
theorem prepare_aligned (d : Dialect) {sql : String} {named : Members} (j : Log.Journal)
    (hmarks : openMarks [] sql.toList = 0)
    (hnamed : ∀ before name, Mentions sql.toList before name → (named.get? name).isSome) :
    ∃ (p : Prepared) (places kept : List BoundCell),
      bindOutside named true [] sql.toList = .ok places ∧
        (prepare d.profile sql (.object named)).outcome j = .ok p ∧
        Aligned d places kept p := by
  obtain ⟨kept, htext, hsub, hvalues, hagree, hkept⟩ :=
    exists_kept_adapt d (marksAgree_boundCells named hmarks)
  have hcount := count_placeholder_map_cell kept
  have hopen : openMarks [] (boundText kept) = _ := openMarks_eq_count hagree
  refine ⟨_, _, kept, bindOutside_of_mentions true hnamed,
    outcome_prepare_named d.profile j hnamed, ?_⟩
  constructor
  case text => exact htext
  case arguments => exact hvalues.symm
  case markers => exact hcount.trans (congrArg List.length hvalues)
  case openMarks =>
    intro hstyle
    rw [hstyle] at htext
    calc Sql.openMarks [] (adapt d.profile _).toList
        = Sql.openMarks [] (boundText kept) := congrArg _ htext
      _ = (markedValues kept).length := hopen.trans hcount
      _ = (markedValues (boundCells named _)).length := congrArg List.length hvalues
  case sublist => exact hsub
  case values => exact hvalues
  case stripped => exact hkept

/-- A statement with a question mark in a literal, a list, an empty list that makes a null ordering,
and a parameter that is mentioned twice. -/
def reportTemplate : String :=
  "SELECT '?' WHERE a = :a AND b IN (:b) AND :a > 0 ORDER BY :c"

/-- Values for the parameters of `reportTemplate`, and one more. -/
def reportValues : Members :=
  [("a", .text "?"), ("b", .list [.int 1, .null]), ("c", .tuple []), ("d", .int 2)]

/-- The prepared statement has the members of the list as arguments, and no null ordering. -/
theorem prepare_aligned_report :
    openMarks [] reportTemplate.toList = 0 ∧
      (∀ before name, Mentions reportTemplate.toList before name →
        (reportValues.get? name).isSome) ∧
      (prepare Dialect.postgres.profile reportTemplate (.object reportValues)).outcome .empty =
        .ok ⟨"SELECT '?' WHERE a = $1 AND b IN ($2,$3) AND $4 > 0",
          [.text "?", .int 1, .null, .text "?"]⟩ ∧
      ∃ places kept, bindOutside reportValues true [] reportTemplate.toList = .ok places ∧
        Aligned .postgres places kept
          ⟨"SELECT '?' WHERE a = $1 AND b IN ($2,$3) AND $4 > 0",
            [.text "?", .int 1, .null, .text "?"]⟩ := by
  have hmarks : openMarks [] reportTemplate.toList = 0 := by decide +kernel
  have hnames : parameterNames (namedTokens reportTemplate.toList) = ["a", "b", "a", "c"] := by
    decide +kernel
  have hvalues : ∀ name ∈ ["a", "b", "a", "c"], (reportValues.get? name).isSome := by
    decide +kernel
  have hnamed : ∀ before name, Mentions reportTemplate.toList before name →
      (reportValues.get? name).isSome := fun before name hmentions =>
    hvalues name (hnames ▸ mem_parameterNames_namedTokens.mpr ⟨before, hmentions⟩)
  have hsql : adapt Dialect.postgres.profile
      (String.ofList (boundText (boundCells reportValues (namedTokens reportTemplate.toList)))) =
        "SELECT '?' WHERE a = $1 AND b IN ($2,$3) AND $4 > 0" := by
    decide +kernel
  have harguments : markedValues (boundCells reportValues (namedTokens reportTemplate.toList)) =
      [.text "?", .int 1, .null, .text "?"] := by
    rw [markedValues_boundCells, hnames]
    rfl
  have hprepared := outcome_prepare_named Dialect.postgres.profile .empty hnamed
  rw [hsql, harguments] at hprepared
  obtain ⟨p, places, kept, hplaces, hp, haligned⟩ :=
    prepare_aligned .postgres .empty hmarks hnamed
  cases hprepared.symm.trans hp
  exact ⟨hmarks, hnamed, hprepared, places, kept, hplaces, haligned⟩

end Database

end SqlCompiler
