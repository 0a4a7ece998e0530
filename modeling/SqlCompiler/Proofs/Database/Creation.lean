import SqlCompiler.Database.Script
import SqlCompiler.Proofs.Database.Preparation

/-!
# Created tables

The statements that create a table are compiled for a dialect and then run like any others, so they
are adapted to the dialect once more. A client that runs all of them is sent the adapted texts, one
call each and without arguments (`run_createTable`). Adapting leaves a text as it is only if it is
untouched: it has no null ordering where the dialect removes that, and no question mark outside of
literals where the dialect numbers them (`adapt_eq_self_iff`).
-/

namespace SqlCompiler

/-! ## Untouched statements -/

namespace Sql

theorem numberCells_map_plain (next : Nat) (s : List Char) :
    numberCells next (s.map Cell.plain) = s := by
  induction s with
  | nil => rfl
  | cons c s ih => exact congrArg (c :: ·) ih

/-- In a text all of whose question marks are just text, literals tell them from markers exactly if
there is none outside. -/
theorem marksAgree_map_plain_iff (s : List Char) :
    MarksAgree [] (s.map Cell.plain) ↔ openMarks [] s = 0 := by
  constructor
  · intro h
    have hopen := openMarks_eq_count h
    rwa [Fragment.cellText_map_plain, Fragment.count_placeholder_map_plain] at hopen
  · intro h before cell after hcells hmark
    obtain ⟨before, more, rfl, rfl, hmore⟩ := List.map_eq_append_iff.mp hcells
    obtain ⟨c, after, rfl, rfl, rfl⟩ := List.map_eq_cons_iff.mp hmore
    obtain rfl : c = '?' := hmark
    have hin := inLiteral_of_openMarks_eq_zero h rfl
    rw [Fragment.cellText_map_plain, Fragment.cellText_map_plain]
    exact iff_of_false (fun h => by cases h) (not_not_intro hin)

/-- Numbering leaves a text as it is exactly if there is nothing to remove and nothing to number. -/
theorem numberMarks_eq_self_iff {s : String} :
    numberMarks s = s ↔ ¬ HasNullOrdering s.toList ∧ openMarks [] s.toList = 0 := by
  have hnumber : ∀ t : List Char, numberOutside 1 [] t = t ↔ openMarks [] t = 0 := by
    intro t
    have hiff := numberOutside_cellText_eq_iff (t.map Cell.plain) 1 []
    rwa [Fragment.cellText_map_plain, numberCells_map_plain, marksAgree_map_plain_iff] at hiff
  have hmarks : (numberMarks s).toList = numberOutside 1 [] (stripNullOrdering s).toList := by
    unfold numberMarks
    rw [String.toList_ofList, numberTokens_markedTokens _ 1 [] rfl]
  rw [← stripNullOrdering_eq_iff, ← hnumber, ← String.toList_inj, hmarks]
  constructor
  · intro h
    have hcount := congrArg (List.count 'O') h
    rw [count_numberOutside] at hcount
    have hstrip := stripNullOrdering_eq_of_count hcount
    rw [hstrip] at h
    exact ⟨hstrip, h⟩
  · rintro ⟨hstrip, h⟩
    rw [hstrip, h]

end Sql

/-! ## Runs -/

/-- The operations of a client, with the calls kept beside its state. -/
def Client.recorded {σ : Type} (client : Client σ) : Client (σ × List ClientCall) where
  query sql arguments s :=
    let (reply, state) := client.query sql arguments s.1
    (reply, state, s.2 ++ [.query sql arguments])
  execute sql arguments s :=
    let (reply, state) := client.execute sql arguments s.1
    (reply, state, s.2 ++ [.execute sql arguments])
  close s :=
    let (reply, state) := client.close s.1
    (reply, state, s.2 ++ [.close])

/-- The state of a client after statements without arguments, if it runs all of them. -/
def Client.runAll? {σ : Type} (client : Client σ) : List String → σ → Option σ
  | [], s => some s
  | sql :: rest, s =>
    match client.execute sql [] s with
    | (.ok _, s) => client.runAll? rest s
    | (.error _, _) => none

theorem Client.runAll?_recorded {σ : Type} (client : Client σ) (texts : List String)
    (s : σ) (calls : List ClientCall) :
    client.recorded.runAll? texts (s, calls) =
      (client.runAll? texts s).map fun s => (s, calls ++ texts.map (.execute · [])) := by
  induction texts generalizing s calls with
  | nil =>
    unfold runAll?
    rw [List.map_nil, List.append_nil]
    rfl
  | cons sql texts ih =>
    unfold runAll?
    rcases hreply : client.execute sql [] s with ⟨_ | outcome, state⟩
    · simp only [recorded, hreply]
      rfl
    · simp only [recorded, hreply]
      refine (ih state (calls ++ [.execute sql []])).trans ?_
      rw [List.append_assoc]
      rfl

namespace Access

variable {σ α β : Type}

/-- A computation that returns something made of what another one gives. -/
theorem exists_of_run_return {action : Access σ α} {f : α → β} {s s' : Session σ} {y : β}
    (h : (action >>= fun x => pure (f x)).run s = (.ok y, s')) :
    ∃ x, action.run s = (.ok x, s') ∧ f x = y := by
  rw [run_bind] at h
  rcases haction : action.run s with ⟨e | x, last⟩
  · rw [haction] at h
    cases h
  · rw [haction] at h
    cases h
    exact ⟨x, rfl, rfl⟩

theorem run_block {change : Log.Change} {action : Access σ α} {result : Except Error α}
    {s : Session σ} {state : σ} {journal : Log.Journal}
    (h : action.run { s with journal := s.journal.enter change } = (result, ⟨state, journal⟩)) :
    (block change action).run s = (result, ⟨state, journal.leave⟩) := by
  show ((action.run _).1, Session.mk (action.run _).2.client (action.run _).2.journal.leave) = _
  rw [h]

end Access

namespace Database

open Sql

variable {σ : Type}

/-- A statement that a dialect sends as it is. -/
def Untouched (d : Dialect) (sql : String) : Prop :=
  (d.profile.stripsNullOrdering = true → ¬ HasNullOrdering sql.toList) ∧
    (d.profile.placeholderStyle = .numbered → openMarks [] sql.toList = 0)

theorem adapt_eq_self_iff (d : Dialect) {sql : String} :
    adapt d.profile sql = sql ↔ Untouched d sql := by
  cases d with
  | mysql => exact iff_of_true rfl ⟨nofun, nofun⟩
  | sqlite =>
    refine stripNullOrdering_eq_iff.trans ⟨fun h => ⟨fun _ => h, nofun⟩, fun h => h.1 rfl⟩
  | postgres =>
    refine numberMarks_eq_self_iff.trans ⟨fun h => ⟨fun _ => h.1, fun _ => h.2⟩, ?_⟩
    exact fun h => ⟨h.1 rfl, h.2 rfl⟩

/-- Writing a record does not touch the client. -/
theorem run_emit (db : Database σ) (level : Log.Level) (message : String) (s : Session σ) :
    ∃ journal, (db.emit level message).run s = (.ok (), ⟨s.client, journal⟩) := by
  unfold emit
  split
  · exact ⟨_, rfl⟩
  · exact ⟨s.journal, rfl⟩

theorem run_send {db : Database σ} {p : Prepared} {s : Session σ} {outcome : Outcome} {state : σ}
    (h : db.client.execute p.sql p.arguments s.client = (.ok outcome, state)) (timing : Timing) :
    ∃ journal, (db.send .execute db.client.execute Outcome.affectedRows timing p).run s =
      (.ok outcome, ⟨state, journal⟩) := by
  have hcall : (Access.call (db.client.execute p.sql p.arguments)).run
      { s with journal := s.journal.enter (db.context .execute) } =
        (.ok (.ok outcome), ⟨state, s.journal.enter (db.context .execute)⟩) := by
    show (Except.ok (db.client.execute p.sql p.arguments s.client).1,
      Session.mk (db.client.execute p.sql p.arguments s.client).2 _) = _
    rw [h]
  obtain ⟨journal, hemit⟩ := run_emit db .debug
    (ranMessage p outcome.affectedRows timing.milliseconds)
    ⟨state, s.journal.enter (db.context .execute)⟩
  refine ⟨journal.leave, ?_⟩
  unfold send
  refine Access.run_block ?_
  rw [run_bind, hcall]
  dsimp only
  rw [run_bind, hemit]
  rfl

/-- A statement without parameters is sent in the form of the dialect, without arguments. -/
theorem run_execute {db : Database σ} {sql : String} {s : Session σ} {outcome : Outcome} {state : σ}
    (h : db.client.execute (adapt db.profile sql) [] s.client = (.ok outcome, state))
    (timing : Timing) :
    ∃ journal, (db.execute sql .null timing).run s = (.ok outcome, ⟨state, journal⟩) := by
  obtain ⟨journal, hsend⟩ := run_send (p := ⟨adapt db.profile sql, []⟩) h timing
  refine ⟨journal, ?_⟩
  unfold execute
  rw [run_bind]
  exact hsend

theorem run_executeAll {db : Database σ} {texts : List String} {s : Session σ} {state : σ}
    (h : db.client.runAll? (texts.map (adapt db.profile)) s.client = some state) :
    ∃ journal, (db.executeAll texts).run s = (.ok (), ⟨state, journal⟩) := by
  induction texts generalizing s with
  | nil =>
    cases h
    exact ⟨s.journal, rfl⟩
  | cons sql texts ih =>
    rw [List.map_cons, Client.runAll?] at h
    rcases hreply : db.client.execute (adapt db.profile sql) [] s.client with ⟨_ | outcome, next⟩
    · rw [hreply] at h
      cases h
    · rw [hreply] at h
      obtain ⟨journal, hexecute⟩ := run_execute hreply .none
      obtain ⟨journal', hrest⟩ := ih (s := ⟨next, journal⟩) h
      refine ⟨journal', ?_⟩
      unfold executeAll
      rw [run_bind, hexecute]
      exact hrest

/-! ## Creating a table -/

/-- The statements of a schema that is given as a value. -/
def compiled (target : Ddl.Target) (schema : Value) (table : Option String) :
    Log.Logged Error (List String) := do
  target.statements (← Schema.ofValue schema) table

theorem run_createTable {db : Database σ} {schema : Value} {table : Option String}
    {texts : List String} {s : Session σ} {state : σ}
    (hcompiled : (compiled ⟨db.profile, db.settings⟩ schema table).outcome s.journal = .ok texts)
    (h : db.client.runAll? (texts.map (adapt db.profile)) s.client = some state) :
    ∃ journal, (db.createTable schema true table).run s = (.ok texts, ⟨state, journal⟩) := by
  have hlogged : ∃ journal, (Access.logged
      (compiled ⟨db.profile, db.settings⟩ schema table)).run s =
        (.ok texts, ⟨s.client, journal⟩) := by
    refine ⟨((compiled ⟨db.profile, db.settings⟩ schema table).run s.journal).2, ?_⟩
    rw [← hcompiled]
    rfl
  obtain ⟨journal, hlogged⟩ := hlogged
  obtain ⟨journal', hall⟩ := run_executeAll (s := ⟨s.client, journal⟩) h
  refine ⟨journal', ?_⟩
  show ((Access.logged (compiled ⟨db.profile, db.settings⟩ schema table) >>= fun texts =>
    db.executeAll texts >>= fun _ => pure texts).run s) = _
  rw [run_bind, hlogged]
  dsimp only
  rw [run_bind, hall]
  rfl

/-- **What creating a table sends.** If a schema compiles and the client runs what it is sent, the
compiled statements are returned, and the client gets their adapted texts in order, one call each
and without arguments. Those are the compiled statements exactly if every one is untouched. -/
theorem createTable_calls (client : Client σ) (d : Dialect) (settings : CompilerSettings)
    (threshold : Log.Level) {schema : Value} {table : Option String} {texts : List String}
    {s : Session (σ × List ClientCall)} {state : σ}
    (hcompiled : (compiled ⟨d.profile, settings⟩ schema table).outcome s.journal = .ok texts)
    (h : client.runAll? (texts.map (adapt d.profile)) s.client.1 = some state) :
    ∃ journal,
      (createTable ⟨client.recorded, d.profile, settings, threshold⟩ schema true table).run s =
        (.ok texts, ⟨(state, s.client.2 ++ texts.map fun sql => .execute (adapt d.profile sql) []),
          journal⟩) ∧
      ((texts.map fun sql => ClientCall.execute (adapt d.profile sql) []) =
        texts.map (.execute · []) ↔ ∀ sql ∈ texts, Untouched d sql) := by
  have hrecorded := client.runAll?_recorded (texts.map (adapt d.profile)) s.client.1 s.client.2
  rw [h, List.map_map] at hrecorded
  obtain ⟨journal, hrun⟩ := @run_createTable _ ⟨client.recorded, d.profile, settings, threshold⟩
    schema table texts s _ hcompiled hrecorded
  refine ⟨journal, hrun, ?_, ?_⟩
  · intro heq sql hsql
    have hsent := List.map_inj_left.mp heq sql hsql
    exact (adapt_eq_self_iff d).mp (ClientCall.execute.inj hsent).1
  · intro hall
    refine List.map_inj_left.mpr fun sql hsql => ?_
    exact congrArg (ClientCall.execute · []) ((adapt_eq_self_iff d).mpr (hall sql hsql))

/-- A column whose default and whose check have question marks in literals. -/
def literalsSchema : Value :=
  .object [("table", .text "t"), ("properties", .object [("a", .object
    [("default", .text "?"), ("constraint", .text "a <> '\'?'")])])]

/-- The statements of `literalsSchema`. -/
def literalsTexts : List String :=
  ["CREATE TABLE IF NOT EXISTS t (\n    a VARCHAR(128) DEFAULT '?',\n" ++
    "    CONSTRAINT t_a CHECK (a <> '\'?')\n);"]

/-- The client of a script, which runs all statements of `literalsSchema`. -/
theorem createTable_calls_literals :
    (compiled ⟨Dialect.postgres.profile, {}⟩ literalsSchema none).outcome .empty =
        .ok literalsTexts ∧
      Script.client.runAll? (literalsTexts.map (adapt Dialect.postgres.profile)) ⟨[], []⟩ = some
        ⟨[], literalsTexts.map fun sql => .execute (adapt Dialect.postgres.profile sql) []⟩ ∧
      ∃ journal,
        (createTable ⟨Script.client.recorded, Dialect.postgres.profile, {}, .warning⟩
            literalsSchema true none).run ⟨(⟨[], []⟩, []), .empty⟩ =
          (.ok literalsTexts,
            ⟨(⟨[], literalsTexts.map fun sql => .execute (adapt Dialect.postgres.profile sql) []⟩,
              [] ++ literalsTexts.map fun sql => .execute (adapt Dialect.postgres.profile sql) []),
              journal⟩) ∧
        ((literalsTexts.map fun sql =>
            ClientCall.execute (adapt Dialect.postgres.profile sql) []) =
          literalsTexts.map (.execute · []) ↔ ∀ sql ∈ literalsTexts, Untouched .postgres sql) := by
  have hcompiled : (compiled ⟨Dialect.postgres.profile, {}⟩ literalsSchema none).outcome .empty =
      .ok literalsTexts := Log.eq_ok_of_toOption (by decide +kernel)
  have hruns : Script.client.runAll? (literalsTexts.map (adapt Dialect.postgres.profile)) ⟨[], []⟩ =
      some ⟨[], literalsTexts.map fun sql => .execute (adapt Dialect.postgres.profile sql) []⟩ :=
    rfl
  exact ⟨hcompiled, hruns, createTable_calls Script.client .postgres {} .warning hcompiled hruns⟩

/-- A name with a question mark, which is sent as a name with a number. -/
theorem createTable_markedName :
    ∃ texts calls journal,
      (createTable ⟨Script.client, Dialect.postgres.profile, {}, .warning⟩
          (.object [("table", .text "t"), ("properties", .object [("a?", .object [])])]) true
          none).run ⟨⟨[], []⟩, .empty⟩ = (.ok texts, ⟨⟨[], calls⟩, journal⟩) ∧
        texts = ["CREATE TABLE IF NOT EXISTS t (\n    \"a?\" VARCHAR(128)\n);"] ∧
        calls = [.execute "CREATE TABLE IF NOT EXISTS t (\n    \"a$1\" VARCHAR(128)\n);" []] ∧
        calls ≠ texts.map (.execute · []) := by
  have hcompiled : (compiled ⟨Dialect.postgres.profile, {}⟩
      (.object [("table", .text "t"), ("properties", .object [("a?", .object [])])])
      none).outcome .empty =
        .ok ["CREATE TABLE IF NOT EXISTS t (\n    \"a?\" VARCHAR(128)\n);"] :=
    Log.eq_ok_of_toOption (by decide +kernel)
  have hadapt : adapt Dialect.postgres.profile
      "CREATE TABLE IF NOT EXISTS t (\n    \"a?\" VARCHAR(128)\n);" =
        "CREATE TABLE IF NOT EXISTS t (\n    \"a$1\" VARCHAR(128)\n);" := by
    decide +kernel
  obtain ⟨journal, hrun⟩ := @run_createTable _
    ⟨Script.client, Dialect.postgres.profile, {}, .warning⟩ _ none _ ⟨⟨[], []⟩, .empty⟩ _ hcompiled
    rfl
  rw [hadapt] at hrun
  refine ⟨_, _, journal, hrun, rfl, rfl, ?_⟩
  intro h
  have hsql := (ClientCall.execute.inj (List.cons.inj h).1).1
  exact absurd hsql (by decide +kernel)

end Database

end SqlCompiler
