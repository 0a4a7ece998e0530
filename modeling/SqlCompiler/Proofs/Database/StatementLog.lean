import SqlCompiler.Proofs.Database.Requests
import SqlCompiler.Proofs.Sql.Inlining

/-!
# Records of statements

A statement that ran leaves one record, in which its arguments are written in
(`statementRecords_perform`). The record is to show each argument in the place that it was bound
for, and the rest of the statement as it is. That is so exactly if nothing else in the statement
looks like a mark (`showsArguments_iff`): arguments are written in place of what looks like a mark,
in literals as well.
-/

namespace SqlCompiler

open Sql

/-- The request to run a statement. -/
def Request.statement (operation : Operation) (sql : String) (parameters : Value)
    (timing : Timing) : Request :=
  match operation with
  | .query => .query sql parameters timing
  | .execute => .execute sql parameters timing

/-- The number of rows that an answer is about. -/
def Answer.rowCount : Answer → Int
  | rows found => found.length
  | outcome done => done.affectedRows
  | statements _ => 0

/-- The level and the text of what the database wrote itself. -/
def statementRecords (records : List Log.Record) : List (Log.Level × String) :=
  (records.filter (·.source.logger = databaseSource.logger)).map fun r => (r.level, r.message)

theorem statementRecords_append (records more : List Log.Record) :
    statementRecords (records ++ more) = statementRecords records ++ statementRecords more := by
  unfold statementRecords
  rw [List.filter_append, List.map_append]

namespace Database

variable {σ α : Type} {db : Database σ} {operation : Operation} {timing : Timing}
  {p : Prepared} {s s' : Session σ}

/-! ## The record of a statement -/

/-- What preparing writes is no record of the database. -/
theorem statementRecords_prepare (profile : Profile) (sql : String) (parameters : Value)
    (j : Log.Journal) :
    ∃ written, ((prepare profile sql parameters).run j).2.records = j.records ++ written ∧
      statementRecords written = [] := by
  unfold prepare bound
  split
  · rename_i named
    unfold Sql.bind
    rcases (bindNamed sql named true).mapError Error.missingParameter with e | p
    · exact ⟨[], (List.append_nil _).symm, rfl⟩
    · exact ⟨[_], rfl, rfl⟩
  · refine ⟨[], ?_, rfl⟩
    rcases positional parameters with e | arguments <;> exact (List.append_nil _).symm

/-- A statement that was sent and answered is recorded. -/
theorem records_send {run : String → List Value → σ → Except ClientFailure α × σ} {rows : α → Int}
    {a : α} (hlevel : db.threshold = .debug)
    (h : (db.send operation run rows timing p).run s = (.ok a, s')) :
    ∃ written, s'.journal.records = s.journal.records ++ written ∧
      statementRecords written = [(.debug, ranMessage p (rows a) timing.milliseconds)] := by
  rcases hreply : run p.sql p.arguments s.client with ⟨f | b, state⟩
  · rw [send_failed db operation hreply] at h
    split at h <;> cases h
  · rw [send_answered db operation hreply] at h
    cases h
    refine ⟨_, rfl, ?_⟩
    unfold answerRecords
    rw [if_pos (by rw [hlevel])]
    rfl

/-- A statement that was prepared, sent and answered is recorded. -/
theorem records_prepared {run : String → List Value → σ → Except ClientFailure α × σ}
    {rows : α → Int} {a : α} {sql : String} {parameters : Value} (hlevel : db.threshold = .debug)
    (hprepared : db.prepared? sql parameters = .ok p)
    (h : (Access.logged (prepare db.profile sql parameters) >>= fun p =>
      db.send operation run rows timing p).run s = (.ok a, s')) :
    ∃ written, s'.journal.records = s.journal.records ++ written ∧
      statementRecords written = [(.debug, ranMessage p (rows a) timing.milliseconds)] := by
  obtain ⟨written, hwritten, hnone⟩ := statementRecords_prepare db.profile sql parameters s.journal
  have hlogged : (Access.logged (prepare db.profile sql parameters)).run s =
      (.ok p, ⟨s.client, ((prepare db.profile sql parameters).run s.journal).2⟩) := by
    rw [← hprepared]
    unfold prepared?
    rw [(quiet_prepare db.profile sql parameters).outcome .empty s.journal]
    rfl
  rw [run_bind, hlogged] at h
  obtain ⟨more, hmore, hran⟩ := records_send hlevel h
  refine ⟨written ++ more, ?_, ?_⟩
  · rw [hmore, hwritten, List.append_assoc]
  · rw [statementRecords_append, hnone, hran]
    rfl

/-- **The record of a statement.** A statement that ran leaves one record of the database, in which
its arguments are written in. -/
theorem statementRecords_perform {sql : String} {parameters : Value} {a : Answer}
    (hlevel : db.threshold = .debug) (hprepared : db.prepared? sql parameters = .ok p)
    (h : (db.perform (.statement operation sql parameters timing)).run s = (.ok a, s')) :
    ∃ written, s'.journal.records = s.journal.records ++ written ∧
      statementRecords written = [(.debug, ranMessage p a.rowCount timing.milliseconds)] := by
  cases operation with
  | query =>
    obtain ⟨found, hrun, rfl⟩ := Access.exists_of_run_return h
    unfold query at hrun
    have hran := records_prepared hlevel hprepared hrun
    exact hran
  | execute =>
    obtain ⟨done, hrun, rfl⟩ := Access.exists_of_run_return h
    unfold execute at hrun
    have hran := records_prepared hlevel hprepared hrun
    exact hran

/-! ## Arguments in their places -/

/-- The text of a statement for a dialect, before its places are numbered. -/
def settled (profile : Profile) (sql : String) : String :=
  if profile.stripsNullOrdering then stripNullOrdering sql else sql

/-- A text with the literals of arguments in its places. -/
def filled (sql : String) (arguments : List Value) : String :=
  String.ofList (fillOutside (argumentText arguments) [] sql.toList)

/-- What a record says about the rows. -/
def rowsText (rows milliseconds : Int) : String :=
  "  [" ++ intText rows ++ (if rows = 1 then " row in " else " rows in ") ++ intText milliseconds
    ++ "ms]"

/-- A statement is adapted by writing marks in its places. -/
theorem toList_adapt (d : Dialect) (sql : String) :
    (adapt d.profile sql).toList =
      fillOutside (markText d.profile.placeholderStyle 1) [] (settled d.profile sql).toList := by
  cases d with
  | mysql => exact (fillOutside_question 1 [] sql.toList).symm
  | sqlite => exact (fillOutside_question 1 [] (stripNullOrdering sql).toList).symm
  | postgres =>
    show (numberMarks sql).toList =
      fillOutside (numberText 1) [] (stripNullOrdering sql).toList
    unfold numberMarks
    rw [String.toList_ofList, numberTokens_markedTokens _ 1 [] rfl, numberOutside_eq_fillOutside]

/-- A prepared statement on one line is the statement on one line with marks in its places. -/
theorem onOneLine_adapt (d : Dialect) (sql : String) :
    (onOneLine (adapt d.profile sql)).toList =
      fillOutside (markText d.profile.placeholderStyle 1) []
        (onOneLine (settled d.profile sql)).toList := by
  rw [← onOneLine_fillOutside (isOneLine_markText d.profile.placeholderStyle 1), ← toList_adapt,
    String.ofList_toList]

theorem ranMessage_eq (sql : String) (arguments : List Value) (rows milliseconds : Int) :
    ranMessage ⟨sql, arguments⟩ rows milliseconds =
      Sql.inline (onOneLine sql) arguments ++ rowsText rows milliseconds := by
  unfold ranMessage rowsText
  simp only [String.append_assoc]

theorem prepared?_of_bound {sql text : String} {parameters : Value} {arguments : List Value}
    (h : (bound text parameters).outcome .empty = .ok ⟨sql, arguments⟩) :
    db.prepared? text parameters = .ok ⟨adapt db.profile sql, arguments⟩ := by
  unfold prepared? prepare
  rw [Log.outcome_bind, h]
  rfl

/-- The record of a statement shows its arguments in their places, whatever they are and whatever a
database and its client are: where a statement with these arguments ran, the one record of the
database is the statement on one line with the literal of each argument in its place, and with what
is said about the rows. -/
def ShowsArguments (d : Dialect) (sql : String) : Prop :=
  ∀ {σ : Type} (db : Database σ) (operation : Operation) (text : String) (parameters : Value)
    (timing : Timing) (arguments : List Value) (s s' : Session σ) (a : Answer),
    db.profile = d.profile → db.threshold = .debug →
    (bound text parameters).outcome .empty = .ok ⟨sql, arguments⟩ →
    arguments.length = openMarks [] (settled d.profile sql).toList →
    (db.perform (.statement operation text parameters timing)).run s = (.ok a, s') →
    ∃ written, s'.journal.records = s.journal.records ++ written ∧
      statementRecords written =
        [(.debug, filled (onOneLine (settled d.profile sql)) arguments ++
          rowsText a.rowCount timing.milliseconds)]

/-- A client over nothing at all: every statement runs, and gives no rows. -/
def emptyClient : Client Unit where
  query _ _ state := (.ok [], state)
  execute _ _ state := (.ok ⟨0, .null⟩, state)
  close state := (.ok (), state)

/-- What the record of a prepared statement shows is what is written in place of its marks. -/
theorem inline_eq_filled_iff (d : Dialect) (sql : String) (arguments : List Value) :
    Sql.inline (onOneLine (adapt d.profile sql)) arguments =
        filled (onOneLine (settled d.profile sql)) arguments ↔
      inlineMarks arguments (fillOutside (markText d.profile.placeholderStyle 1) []
          (onOneLine (settled d.profile sql)).toList) =
        fillOutside (argumentText arguments) [] (onOneLine (settled d.profile sql)).toList := by
  unfold Sql.inline filled
  rw [onOneLine_adapt, String.ofList_inj]

/-- A statement whose record shows its arguments gets them written in their places: run it on a
client that answers everything. -/
theorem ShowsArguments.inline_eq {d : Dialect} {sql : String} (h : ShowsArguments d sql)
    {arguments : List Value}
    (hcount : arguments.length = openMarks [] (settled d.profile sql).toList) :
    Sql.inline (onOneLine (adapt d.profile sql)) arguments =
      filled (onOneLine (settled d.profile sql)) arguments := by
  let db : Database Unit := ⟨emptyClient, d.profile, {}, .debug⟩
  rcases hrun : (db.perform (.statement .query sql (.list arguments) .none)).run ⟨(), .empty⟩
    with ⟨_ | a, s'⟩
  · cases hrun
  have hprepared : db.prepared? sql (.list arguments) = .ok ⟨adapt db.profile sql, arguments⟩ :=
    prepared?_of_bound rfl
  obtain ⟨written, hwritten, hshown⟩ := h db .query sql (.list arguments) .none arguments
    ⟨(), .empty⟩ s' a rfl rfl rfl hcount hrun
  obtain ⟨more, hmore, hran⟩ := statementRecords_perform rfl hprepared hrun
  obtain rfl := List.append_cancel_left (hwritten.symm.trans hmore)
  rw [hran, ranMessage_eq] at hshown
  exact (String.append_left_inj _).mp (Prod.mk.inj (List.cons.inj hshown).1).2

/-- **Arguments in records.** The record of a statement shows its arguments in their places exactly
if the marks of the statement are alone. Such a record is the statement with its arguments in their
places, put on one line, if the literals of the arguments are on one line. -/
theorem showsArguments_iff (d : Dialect) (sql : String) :
    (ShowsArguments d sql ↔
      MarksAlone d.profile.placeholderStyle [] (onOneLine (settled d.profile sql)).toList) ∧
    ∀ arguments : List Value, (∀ v ∈ arguments, Text.IsOneLine (literal v).toList) →
      filled (onOneLine (settled d.profile sql)) arguments =
        onOneLine (filled (settled d.profile sql) arguments) := by
  refine ⟨?_, fun arguments harguments => ?_⟩
  · rw [← inlineMarks_eq_iff]
    constructor
    · intro h arguments hcount
      rw [openMarks_onOneLine] at hcount
      exact (inline_eq_filled_iff d sql arguments).mp (h.inline_eq hcount)
    · intro h σ db operation text parameters timing arguments s s' a hprofile hlevel hbound hcount
        hrun
      obtain ⟨written, hwritten, hran⟩ := statementRecords_perform hlevel
        (prepared?_of_bound hbound) hrun
      rw [← openMarks_onOneLine] at hcount
      rw [ranMessage_eq, hprofile,
        (inline_eq_filled_iff d sql arguments).mpr (h arguments hcount)] at hran
      exact ⟨written, hwritten, hran⟩
  · rw [← String.toList_inj]
    unfold filled
    rw [String.toList_ofList]
    exact (onOneLine_fillOutside (isOneLine_argumentText harguments) _).symm

/-- A statement on two lines with one place, and an argument with an apostrophe. -/
theorem showsArguments_name :
    (∀ v ∈ [Value.text "it's"], Text.IsOneLine (literal v).toList) ∧
      ShowsArguments .postgres "SELECT ?\n AS a" ∧
      filled (onOneLine (settled Dialect.postgres.profile "SELECT ?\n AS a")) [.text "it's"] =
        onOneLine (filled (settled Dialect.postgres.profile "SELECT ?\n AS a") [.text "it's"]) := by
  have hline : ∀ v ∈ [Value.text "it's"], Text.IsOneLine (literal v).toList := by
    intro v hv
    obtain rfl := List.mem_singleton.mp hv
    exact Text.isOneLine_of_all (by decide +kernel) (by decide +kernel)
  obtain ⟨hshows, hfilled⟩ := showsArguments_iff .postgres "SELECT ?\n AS a"
  exact ⟨hline, hshows.mpr (by decide +kernel), hfilled [.text "it's"] hline⟩

/-- A question mark in a literal gets the argument, and the place gets none. -/
theorem performed_markInLiteral :
    ∃ a s', ((⟨emptyClient, Dialect.sqlite.profile, {}, .debug⟩ : Database Unit).perform
          (.statement .query "SELECT '?', ?" (.list [.int 1]) .none)).run ⟨(), .empty⟩ =
        (.ok a, s') ∧
      statementRecords s'.journal.records = [(.debug, "SELECT '1', '?'  [0 rows in 0ms]")] ∧
      filled (onOneLine (settled Dialect.sqlite.profile "SELECT '?', ?")) [.int 1] ++
        rowsText a.rowCount Timing.none.milliseconds = "SELECT '?', 1  [0 rows in 0ms]" ∧
      ¬ ShowsArguments .sqlite "SELECT '?', ?" := by
  let db : Database Unit := ⟨emptyClient, Dialect.sqlite.profile, {}, .debug⟩
  rcases hrun : (db.perform (.statement .query "SELECT '?', ?" (.list [.int 1]) .none)).run
    ⟨(), .empty⟩ with ⟨_ | a, s'⟩
  · cases hrun
  have hrecords : statementRecords ((db.perform (.statement .query "SELECT '?', ?"
      (.list [.int 1]) .none)).run ⟨(), .empty⟩).2.journal.records =
        [(.debug, "SELECT '1', '?'  [0 rows in 0ms]")] := by
    decide +kernel
  rw [hrun] at hrecords
  have ha : a.rowCount = 0 := by
    cases hrun
    rfl
  have hshown : filled (onOneLine (settled Dialect.sqlite.profile "SELECT '?', ?")) [.int 1] ++
      rowsText 0 Timing.none.milliseconds = "SELECT '?', 1  [0 rows in 0ms]" := by
    decide +kernel
  refine ⟨a, s', rfl, hrecords, ha ▸ hshown, fun h => ?_⟩
  obtain ⟨written, hwritten, hran⟩ := h db .query "SELECT '?', ?" (.list [.int 1]) .none [.int 1]
    ⟨(), .empty⟩ s' a rfl rfl rfl (by decide +kernel) hrun
  rw [hwritten] at hrecords
  have hmessage := hran.symm.trans hrecords
  rw [ha, hshown] at hmessage
  exact absurd hmessage (by decide)

end Database

end SqlCompiler
