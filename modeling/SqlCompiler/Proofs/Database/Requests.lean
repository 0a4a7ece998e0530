import SqlCompiler.Proofs.Database.Creation
import SqlCompiler.Proofs.Text.OneLine

/-!
# Runs of requests

What a database does for its callers, request after request, whatever the client replies. A request
has a plan, the prepared statements that it runs (`Request.plan`). The client is sent the plan, one
call a statement, up to the first statement that it fails, and how that statement fails decides what
the caller sees and what the log records (`Sent`), with the statement on one line
(`Sending.shown`). A request without a plan sends nothing. So every run of requests is one whose
requests are served one by one (`performAll_follows`).
-/

namespace SqlCompiler

/-! ## Requests -/

/-- What a caller can ask of a database. -/
inductive Request
  | query (sql : String) (parameters : Value) (timing : Timing)
  | execute (sql : String) (parameters : Value) (timing : Timing)
  | createTable (schema : Value) (run : Bool) (table : Option String)

/-- What a request gives. -/
inductive Answer
  | rows (rows : List Row)
  | outcome (outcome : Outcome)
  | statements (texts : List String)

/-- A prepared statement, and the operation of the client that it is for. -/
structure Sending where
  operation : Operation
  prepared : Sql.Prepared

/-- The call that a client gets. -/
def Sending.call : Sending → ClientCall
  | ⟨.query, p⟩ => .query p.sql p.arguments
  | ⟨.execute, p⟩ => .execute p.sql p.arguments

/-- The statement as errors and records show it: its pieces without blanks, with one space between
each two. -/
def Sending.shown (step : Sending) : String :=
  String.ofList (Text.oneLine step.prepared.sql.toList)

/-- The error that a failure of the client ends in. -/
def Sending.error (step : Sending) (f : ClientFailure) : DriverError where
  message := step.operation.name ++ " failed: " ++ f.text
  operation := some step.operation.name
  sql := some step.shown
  cause := some f.kind

theorem onOneLine_eq_shown (step : Sending) : Sql.onOneLine step.prepared.sql = step.shown := by
  unfold Sql.onOneLine
  rw [Text.trimBoth_collapseBlanks]
  rfl

theorem driverError_eq (step : Sending) (f : ClientFailure) :
    driverError step.operation f step.prepared = step.error f := by
  unfold driverError
  rw [onOneLine_eq_shown]
  rfl

namespace Client

variable {σ : Type}

/-- The reply of a client, and its state after it. -/
def answer (client : Client σ) (step : Sending) (state : σ) : Except ClientFailure Answer × σ :=
  match step.operation with
  | .query =>
    let (reply, state) := client.query step.prepared.sql step.prepared.arguments state
    (reply.map .rows, state)
  | .execute =>
    let (reply, state) := client.execute step.prepared.sql step.prepared.arguments state
    (reply.map .outcome, state)

/-- A client that answers every one of the statements that it is sent. -/
inductive Answers (client : Client σ) : List Sending → σ → List Answer → σ → Prop
  | nil {state : σ} : Answers client [] state [] state
  | cons {step : Sending} {steps : List Sending} {state next last : σ} {a : Answer}
      {answers : List Answer} (head : client.answer step state = (.ok a, next))
      (tail : Answers client steps next answers last) :
      Answers client (step :: steps) state (a :: answers) last

theorem Answers.append {client : Client σ} {steps more : List Sending} {state next last : σ}
    {answers others : List Answer} (h : client.Answers steps state answers next)
    (hmore : client.Answers more next others last) :
    client.Answers (steps ++ more) state (answers ++ others) last := by
  induction h with
  | nil => exact hmore
  | cons head tail ih => exact .cons head (ih hmore)

end Client

namespace Database

variable {σ α : Type}

/-- Runs a request. -/
def perform (db : Database σ) : Request → Access σ Answer
  | .query sql parameters timing => return .rows (← db.query sql parameters timing)
  | .execute sql parameters timing => return .outcome (← db.execute sql parameters timing)
  | .createTable schema run table => return .statements (← db.createTable schema run table)

/-- Runs requests one after the other, whatever becomes of each: what each ended in, and the session
after it. -/
def performAll (db : Database σ) :
    List Request → Session σ → List (Except Error Answer × Session σ)
  | [], _ => []
  | r :: rest, s => (db.perform r).run s :: performAll db rest ((db.perform r).run s).2

/-- A database whose client keeps its calls. -/
def recorded (db : Database σ) : Database (σ × List ClientCall) :=
  ⟨db.client.recorded, db.profile, db.settings, db.threshold⟩

/-- A statement with its arguments, adapted to the dialect. -/
def prepared? (db : Database σ) (sql : String) (parameters : Value) : Except Error Sql.Prepared :=
  (prepare db.profile sql parameters).outcome .empty

/-- The statements of a schema, in the dialect. -/
def compiled? (db : Database σ) (schema : Value) (table : Option String) :
    Except Error (List String) :=
  (compiled ⟨db.profile, db.settings⟩ schema table).outcome .empty

end Database

namespace Request

variable {σ : Type}

/-- The prepared statements that a request runs. -/
def plan (db : Database σ) : Request → Except Error (List Sending)
  | query sql parameters _ => do return [⟨.query, ← db.prepared? sql parameters⟩]
  | execute sql parameters _ => do return [⟨.execute, ← db.prepared? sql parameters⟩]
  | createTable schema run table => do
    let texts ← db.compiled? schema table
    if run then texts.mapM fun sql => return ⟨.execute, ← db.prepared? sql .null⟩ else return []

/-- What a request gives when its statements gave `answers`: the answer of its only statement, or
the statements of its table. -/
def Gives (db : Database σ) (answers : List Answer) : Request → Answer → Prop
  | createTable schema _ table, a => ∃ texts, db.compiled? schema table = .ok texts ∧
    a = .statements texts
  | _, a => answers = [a]

end Request

/-! ## What is sent -/

namespace Database

variable {σ α : Type}

/-- The record about a statement that the client failed: the failure, the statement and its
arguments. A log that keeps weightier records only keeps none. -/
def failureRecords (db : Database σ) (active : Log.Context) (step : Sending) (f : ClientFailure) :
    List Log.Record :=
  if db.threshold.rank ≤ Log.Level.error.rank then
    [⟨databaseSource, .error, step.operation.name ++ " failed: " ++ f.text ++ " | " ++ step.shown
        ++ " | " ++ (Value.list step.prepared.arguments).display,
      (active.enter (db.context step.operation)).members, []⟩]
  else []

/-- The record about a statement that the client answered, in a log that keeps such records. -/
def answerRecords (db : Database σ) (active : Log.Context) (step : Sending)
    (rows milliseconds : Int) : List Log.Record :=
  if db.threshold.rank ≤ Log.Level.debug.rank then
    [⟨databaseSource, .debug, ranMessage step.prepared rows milliseconds,
      (active.enter (db.context step.operation)).members, []⟩]
  else []

/-- What becomes of statements that are sent in the context `active`: what they give or the error
they end in, the last state of the client, the statements that were sent, and the records of errors.
After a failure nothing is sent. A failure of the library's own passes through, and any other one is
the cause of a driver error. -/
inductive Sent (db : Database σ) (active : Log.Context) (state : σ) (steps : List Sending) :
    Except Error (List Answer) → σ → List Sending → List Log.Record → Prop
  | answered {answers : List Answer} {last : σ}
      (answers_all : db.client.Answers steps state answers last) :
      Sent db active state steps (.ok answers) last steps []
  | wrapped {before after : List Sending} {step : Sending} {answers : List Answer} {next last : σ}
      {f : ClientFailure} (split : steps = before ++ step :: after)
      (answers_before : db.client.Answers before state answers next)
      (fails : db.client.answer step next = (.error f, last)) (foreign : f.isOurs = false) :
      Sent db active state steps (.error (.driver (step.error f))) last (before ++ [step])
        (db.failureRecords active step f)
  | passed {before after : List Sending} {step : Sending} {answers : List Answer} {next last : σ}
      {f : ClientFailure} (split : steps = before ++ step :: after)
      (answers_before : db.client.Answers before state answers next)
      (fails : db.client.answer step next = (.error f, last)) (ours : f.isOurs = true) :
      Sent db active state steps (.error (.client f)) last (before ++ [step]) []

namespace Sent

variable {db : Database σ} {active : Log.Context} {state next last : σ}
  {steps more sent others : List Sending} {errors records : List Log.Record}

theorem append {answers : List Answer} {result : Except Error (List Answer)}
    (h : Sent db active state steps (.ok answers) next sent errors)
    (hmore : Sent db active next more result last others records) :
    Sent db active state (steps ++ more) (result.map (answers ++ ·)) last (sent ++ others)
      (errors ++ records) := by
  obtain ⟨hall⟩ := h
  cases hmore with
  | answered hmore => exact .answered (hall.append hmore)
  | wrapped split hbefore fails foreign =>
    subst split
    rw [← List.append_assoc, ← List.append_assoc]
    exact .wrapped rfl (hall.append hbefore) fails foreign
  | passed split hbefore fails ours =>
    subst split
    rw [← List.append_assoc, ← List.append_assoc]
    exact .passed rfl (hall.append hbefore) fails ours

/-- What comes behind a failure does not matter. -/
theorem append_right {e : Error} (h : Sent db active state steps (.error e) last sent errors)
    (more : List Sending) : Sent db active state (steps ++ more) (.error e) last sent errors := by
  cases h with
  | wrapped split hbefore fails foreign =>
    subst split
    rw [List.append_assoc, List.cons_append]
    exact .wrapped rfl hbefore fails foreign
  | passed split hbefore fails ours =>
    subst split
    rw [List.append_assoc, List.cons_append]
    exact .passed rfl hbefore fails ours

end Sent

/-- What becomes of a request. One that has no plan ends in the error of its preparation or
compilation, and sends nothing. -/
inductive Served (db : Database σ) (active : Log.Context) (state : σ) (r : Request) :
    Except Error Answer → σ → List Sending → List Log.Record → Prop
  | refused {e : Error} (unplanned : r.plan db = .error e) :
      Served db active state r (.error e) state [] []
  | failed {steps sent : List Sending} {e : Error} {last : σ} {errors : List Log.Record}
      (planned : r.plan db = .ok steps)
      (course : Sent db active state steps (.error e) last sent errors) :
      Served db active state r (.error e) last sent errors
  | answered {steps sent : List Sending} {answers : List Answer} {a : Answer} {last : σ}
      {errors : List Log.Record} (planned : r.plan db = .ok steps)
      (course : Sent db active state steps (.ok answers) last sent errors)
      (gives : r.Gives db answers a) :
      Served db active state r (.ok a) last sent errors

/-- What a session is left with: the calls and the records of errors that are new. The open contexts
are those that were open before. -/
structure Leaves (s : Session (σ × List ClientCall)) (sent : List Sending)
    (errors : List Log.Record) (s' : Session (σ × List ClientCall)) : Prop where
  calls : s'.client.2 = s.client.2 ++ sent.map Sending.call
  contexts : s'.journal.contexts = s.journal.contexts
  records : ∃ written, s'.journal.records = s.journal.records ++ written ∧
    written.filter (·.level = .error) = errors

/-- A run of requests in which each is served in turn, in the state and the context that the one
before it left. -/
inductive Follows (db : Database σ) : Session (σ × List ClientCall) → List Request →
    List (Except Error Answer × Session (σ × List ClientCall)) → Prop
  | nil {s : Session (σ × List ClientCall)} : Follows db s [] []
  | cons {s next : Session (σ × List ClientCall)} {r : Request} {rest : List Request}
      {result : Except Error Answer} {sent : List Sending} {errors : List Log.Record}
      {ends : List (Except Error Answer × Session (σ × List ClientCall))}
      (served : Served db s.journal.active s.client.1 r result next.client.1 sent errors)
      (leaves : Leaves s sent errors next) (tail : Follows db next rest ends) :
      Follows db s (r :: rest) ((result, next) :: ends)

namespace Leaves

variable {s next last : Session (σ × List ClientCall)} {sent others : List Sending}
  {errors records : List Log.Record}

theorem trans (h : Leaves s sent errors next) (hnext : Leaves next others records last) :
    Leaves s (sent ++ others) (errors ++ records) last where
  calls := by rw [hnext.calls, h.calls, List.map_append, List.append_assoc]
  contexts := hnext.contexts.trans h.contexts
  records := by
    obtain ⟨written, hwritten, rfl⟩ := h.records
    obtain ⟨more, hmore, rfl⟩ := hnext.records
    exact ⟨written ++ more, by rw [hmore, hwritten, List.append_assoc],
      List.filter_append _ _⟩

theorem active_eq (h : Leaves s sent errors next) : next.journal.active = s.journal.active :=
  congrArg (·.head?.getD .empty) h.contexts

end Leaves

theorem filter_error_eq_nil {written : List Log.Record} (h : ∀ r ∈ written, r.level ≠ .error) :
    written.filter (·.level = .error) = [] := by
  refine List.filter_eq_nil_iff.mpr fun r hr => ?_
  simpa using h r hr

/-! ## Preparing and compiling -/

theorem quiet_prepare (profile : Profile) (sql : String) (parameters : Value) :
    Log.Quiet (prepare profile sql parameters) := by
  refine Log.Quiet.bind ?_ fun p => Log.quiet_pure _
  unfold bound
  split
  · exact (Log.quiet_lift _).bind fun p => (Log.quiet_emit (by decide)).bind fun _ =>
      Log.quiet_pure p
  · exact (Log.quiet_lift _).bind fun _ => Log.quiet_pure _

theorem quiet_compiled (target : Ddl.Target) (schema : Value) (table : Option String) :
    Log.Quiet (compiled target schema table) := by
  refine (Log.quiet_lift _).bind fun s => (Log.quiet_lift _).bind fun named => ?_
  exact ((Log.quiet_emit (by decide)).block _).bind fun _ => Log.quiet_pure _

/-- A quiet computation of the log, in a session. -/
theorem run_logged {action : Log.Logged Error α} (h : Log.Quiet action)
    (s : Session (σ × List ClientCall)) :
    ∃ journal, (Access.logged action).run s = (action.outcome .empty, ⟨s.client, journal⟩) ∧
      Leaves s [] [] ⟨s.client, journal⟩ := by
  obtain ⟨written, hrun, hwritten⟩ := h.journal s.journal
  refine ⟨(action.run s.journal).2, ?_, ?_⟩
  · rw [← h.outcome s.journal]
    rfl
  · rw [hrun]
    exact ⟨(List.append_nil _).symm, rfl, written, rfl, filter_error_eq_nil hwritten⟩

/-! ## Sending -/

/-- How an operation goes on after the reply to its statement. -/
def conclude (db : Database σ) (operation : Operation) (rows : α → Int) (timing : Timing)
    (p : Sql.Prepared) : Except ClientFailure α → Access σ α
  | .error f => db.fail operation p f
  | .ok a => do
    db.emit .debug (ranMessage p (rows a) timing.milliseconds)
    return a

section Sending

variable (db : Database σ) (operation : Operation)
  {run : String → List Value → σ → Except ClientFailure α × σ} {p : Sql.Prepared} {s : Session σ}
  {state : σ}

/-- A statement is sent in a block of its own, and the reply decides how the block goes on. -/
theorem run_send_of_reply {rows : α → Int} {timing : Timing} {reply : Except ClientFailure α}
    {result : Except Error α} {journal : Log.Journal}
    (h : run p.sql p.arguments s.client = (reply, state))
    (hends : (db.conclude operation rows timing p reply).run
      ⟨state, s.journal.enter (db.context operation)⟩ = (result, ⟨state, journal⟩)) :
    (db.send operation run rows timing p).run s = (result, ⟨state, journal.leave⟩) := by
  have hcall : (Access.call (run p.sql p.arguments)).run
      { s with journal := s.journal.enter (db.context operation) } =
        (.ok reply, ⟨state, s.journal.enter (db.context operation)⟩) := by
    show (Except.ok (run p.sql p.arguments s.client).1,
      Session.mk (run p.sql p.arguments s.client).2 _) = _
    rw [h]
  unfold send
  refine Access.run_block ?_
  rw [run_bind, hcall]
  cases reply <;> exact hends

theorem send_answered {a : α} (h : run p.sql p.arguments s.client = (.ok a, state))
    (rows : α → Int) (timing : Timing) :
    (db.send operation run rows timing p).run s =
      (.ok a, ⟨state, s.journal.contexts, s.journal.records ++
        db.answerRecords s.journal.active ⟨operation, p⟩ (rows a) timing.milliseconds⟩) := by
  have hemit : (db.emit .debug (ranMessage p (rows a) timing.milliseconds)).run
      ⟨state, s.journal.enter (db.context operation)⟩ = (.ok (), ⟨state,
        (s.journal.enter (db.context operation)).contexts, s.journal.records ++
          db.answerRecords s.journal.active ⟨operation, p⟩ (rows a) timing.milliseconds⟩) := by
    unfold emit answerRecords
    split
    · rfl
    · rw [List.append_nil]
      rfl
  have hends : (db.conclude operation rows timing p (.ok a)).run
      ⟨state, s.journal.enter (db.context operation)⟩ = (.ok a, ⟨state,
        (s.journal.enter (db.context operation)).contexts, s.journal.records ++
          db.answerRecords s.journal.active ⟨operation, p⟩ (rows a) timing.milliseconds⟩) := by
    unfold conclude
    rw [run_bind, hemit]
    rfl
  exact run_send_of_reply db operation h hends

theorem send_failed {f : ClientFailure} (h : run p.sql p.arguments s.client = (.error f, state))
    (rows : α → Int) (timing : Timing) :
    (db.send operation run rows timing p).run s =
      if f.isOurs then (.error (.client f), ⟨state, s.journal⟩)
      else (.error (.driver (Sending.error ⟨operation, p⟩ f)), ⟨state, s.journal.contexts,
        s.journal.records ++ db.failureRecords s.journal.active ⟨operation, p⟩ f⟩) := by
  have hfail : (db.fail operation p f : Access σ α).run
      ⟨state, s.journal.enter (db.context operation)⟩ =
        if f.isOurs then (.error (.client f), ⟨state, s.journal.enter (db.context operation)⟩)
        else (.error (.driver (Sending.error ⟨operation, p⟩ f)),
          ⟨state, (s.journal.enter (db.context operation)).contexts,
            s.journal.records ++ db.failureRecords s.journal.active ⟨operation, p⟩ f⟩) := by
    unfold fail failureRecords emit failedRecord
    rw [← driverError_eq, ← onOneLine_eq_shown]
    split
    · rfl
    · split
      · rfl
      · rw [List.append_nil]
        rfl
  split at hfail
  case isTrue hours =>
    rw [if_pos hours, run_send_of_reply db operation h hfail]
    rfl
  case isFalse hforeign =>
    rw [if_neg hforeign, run_send_of_reply db operation h hfail]
    rfl

end Sending

/-! ## Serving -/

section Serving

variable {db : Database σ}

/-- One statement, sent to a client that keeps its calls. The operation `run` is that of the client,
with answers of its own kind. -/
theorem send_sent {operation : Operation} {p : Sql.Prepared}
    {run : String → List Value → σ × List ClientCall →
      Except ClientFailure α × (σ × List ClientCall)}
    (wrap : α → Answer) (rows : α → Int) (timing : Timing) {s : Session (σ × List ClientCall)}
    (hreply : db.client.answer ⟨operation, p⟩ s.client.1 =
      ((run p.sql p.arguments s.client).1.map wrap, (run p.sql p.arguments s.client).2.1))
    (hcalls : (run p.sql p.arguments s.client).2.2 =
      s.client.2 ++ [Sending.call ⟨operation, p⟩]) :
    ∃ result next errors, (db.recorded.send operation run rows timing p).run s = (result, next) ∧
      Sent db s.journal.active s.client.1 [⟨operation, p⟩] (result.map fun a => [wrap a])
        next.client.1 [⟨operation, p⟩] errors ∧
      Leaves s [⟨operation, p⟩] errors next := by
  rcases hrun : run p.sql p.arguments s.client with ⟨f | a, state, calls⟩
  all_goals
    rw [hrun] at hreply hcalls
    obtain rfl : calls = _ := hcalls
  · have hsend := send_failed db.recorded operation hrun rows timing
    split at hsend
    case isTrue hours =>
      refine ⟨_, _, [], hsend, .passed (List.nil_append _).symm .nil hreply hours, rfl, rfl, [],
        ?_, rfl⟩
      exact (List.append_nil _).symm
    case isFalse hforeign =>
      refine ⟨_, _, db.failureRecords s.journal.active ⟨operation, p⟩ f, hsend,
        .wrapped (List.nil_append _).symm .nil hreply (Bool.not_eq_true _ ▸ hforeign), rfl,
        rfl, _, rfl, ?_⟩
      show (db.failureRecords s.journal.active ⟨operation, p⟩ f).filter _ = _
      unfold failureRecords
      split <;> rfl
  · refine ⟨_, _, [], send_answered db.recorded operation hrun rows timing,
      .answered (.cons hreply .nil), rfl, rfl, _, rfl, ?_⟩
    unfold answerRecords
    split <;> rfl

/-- What becomes of a statement that is to be prepared first. -/
def PreparedSent (db : Database σ) (active : Log.Context) (state : σ) (operation : Operation)
    (prepared : Except Error Sql.Prepared) (result : Except Error (List Answer)) (last : σ)
    (sent : List Sending) (errors : List Log.Record) : Prop :=
  match prepared with
  | .error e => result = .error e ∧ last = state ∧ sent = [] ∧ errors = []
  | .ok p => Sent db active state [⟨operation, p⟩] result last sent errors

/-- One statement, prepared and then sent. -/
theorem prepared_sent {operation : Operation}
    {run : String → List Value → σ × List ClientCall →
      Except ClientFailure α × (σ × List ClientCall)}
    (wrap : α → Answer) (rows : α → Int) (timing : Timing)
    (hreply : ∀ (p : Sql.Prepared) (c : σ × List ClientCall),
      db.client.answer ⟨operation, p⟩ c.1 =
        ((run p.sql p.arguments c).1.map wrap, (run p.sql p.arguments c).2.1))
    (hcalls : ∀ (p : Sql.Prepared) (c : σ × List ClientCall),
      (run p.sql p.arguments c).2.2 = c.2 ++ [Sending.call ⟨operation, p⟩])
    (sql : String) (parameters : Value) (s : Session (σ × List ClientCall)) :
    ∃ result next sent errors,
      (Access.logged (prepare db.profile sql parameters) >>= fun p =>
        db.recorded.send operation run rows timing p).run s = (result, next) ∧
      Leaves s sent errors next ∧
      PreparedSent db s.journal.active s.client.1 operation (db.prepared? sql parameters)
        (result.map fun a => [wrap a]) next.client.1 sent errors := by
  obtain ⟨journal, hlogged, hleaves⟩ := run_logged (quiet_prepare db.profile sql parameters) s
  replace hlogged : _ = (db.prepared? sql parameters, _) := hlogged
  rw [run_bind, hlogged]
  cases db.prepared? sql parameters with
  | error e => exact ⟨_, _, [], [], rfl, hleaves, rfl, rfl, rfl, rfl⟩
  | ok p =>
    obtain ⟨result, next, errors, hsend, hsent, hnext⟩ :=
      send_sent (s := ⟨s.client, journal⟩) wrap rows timing (hreply p s.client) (hcalls p s.client)
    rw [hleaves.active_eq] at hsent
    exact ⟨result, next, _, errors, hsend, hleaves.trans hnext, hsent⟩

theorem execute_sent (sql : String) (parameters : Value) (timing : Timing)
    (s : Session (σ × List ClientCall)) :
    ∃ result next sent errors,
      (db.recorded.execute sql parameters timing).run s = (result, next) ∧
      Leaves s sent errors next ∧
      PreparedSent db s.journal.active s.client.1 .execute (db.prepared? sql parameters)
        (result.map fun a => [.outcome a]) next.client.1 sent errors :=
  prepared_sent .outcome Outcome.affectedRows timing (fun _ _ => rfl) (fun _ _ => rfl) sql
    parameters s

theorem query_sent (sql : String) (parameters : Value) (timing : Timing)
    (s : Session (σ × List ClientCall)) :
    ∃ result next sent errors,
      (db.recorded.query sql parameters timing).run s = (result, next) ∧
      Leaves s sent errors next ∧
      PreparedSent db s.journal.active s.client.1 .query (db.prepared? sql parameters)
        (result.map fun a => [.rows a]) next.client.1 sent errors :=
  prepared_sent .rows (fun rows => rows.length) timing (fun _ _ => rfl) (fun _ _ => rfl) sql
    parameters s

variable (db) in
/-- The statements of a table go out one after the other, until one fails. -/
theorem executeAll_sent (texts : List String) (s : Session (σ × List ClientCall)) :
    ∃ (result : Except Error (List Answer)) (next : _) (sent : _) (errors : _),
      (db.recorded.executeAll texts).run s = (result.map fun _ => (), next) ∧
      Sent db s.journal.active s.client.1
        (texts.map fun sql => ⟨.execute, ⟨adapt db.profile sql, []⟩⟩) result next.client.1 sent
        errors ∧
      Leaves s sent errors next := by
  induction texts generalizing s with
  | nil =>
    refine ⟨.ok [], s, [], [], rfl, .answered .nil, (List.append_nil _).symm, rfl, [], ?_, rfl⟩
    exact (List.append_nil _).symm
  | cons sql texts ih =>
    obtain ⟨result, next, sent, errors, hrun, hleaves, hsent⟩ := execute_sent sql .null .none s
    replace hsent : Sent db s.journal.active s.client.1 [⟨.execute, ⟨adapt db.profile sql, []⟩⟩]
      (result.map fun a => [.outcome a]) next.client.1 sent errors := hsent
    unfold executeAll
    rw [run_bind, hrun]
    cases result with
    | error e => exact ⟨.error e, next, sent, errors, rfl, hsent.append_right _, hleaves⟩
    | ok outcome =>
      obtain ⟨result, last, others, records, hrest, hsent', hlast⟩ := ih next
      rw [hleaves.active_eq] at hsent'
      refine ⟨_, last, _, _, ?_, hsent.append hsent', hleaves.trans hlast⟩
      refine hrest.trans ?_
      cases result <;> rfl

theorem plan_createTable_of_compiled {schema : Value} {table : Option String} {texts : List String}
    (h : db.compiled? schema table = .ok texts) :
    (Request.createTable schema true table).plan db =
      .ok (texts.map fun sql => ⟨.execute, ⟨adapt db.profile sql, []⟩⟩) := by
  show (db.compiled? schema table >>= fun texts =>
    texts.mapM fun sql => pure (Sending.mk .execute ⟨adapt db.profile sql, []⟩)) = _
  rw [h]
  exact List.mapM_pure

/-- A single statement is served as it is sent. -/
theorem Served.of_sent {active : Log.Context} {state last : σ} {r : Request} {operation : Operation}
    {prepared : Except Error Sql.Prepared} {wrap : α → Answer} {result : Except Error α}
    {sent : List Sending} {errors : List Log.Record}
    (hplan : r.plan db = prepared >>= fun p => .ok [⟨operation, p⟩])
    (hgives : ∀ a, r.Gives db [wrap a] (wrap a))
    (h : PreparedSent db active state operation prepared (result.map fun a => [wrap a]) last sent
      errors) :
    Served db active state r (result.map wrap) last sent errors := by
  cases prepared with
  | error e =>
    obtain ⟨hresult, rfl, rfl, rfl⟩ := h
    cases result with
    | error e' =>
      cases hresult
      exact .refused hplan
    | ok a => cases hresult
  | ok p =>
    cases result with
    | error e => exact .failed hplan h
    | ok a => exact .answered hplan h (hgives a)

theorem createTable_served (schema : Value) (run : Bool) (table : Option String)
    (s : Session (σ × List ClientCall)) :
    ∃ (result : Except Error (List String)) (next : _) (sent : _) (errors : _),
      (db.recorded.createTable schema run table).run s = (result, next) ∧
      Served db s.journal.active s.client.1 (.createTable schema run table)
        (result.map .statements) next.client.1 sent errors ∧
      Leaves s sent errors next := by
  obtain ⟨journal, hlogged, hleaves⟩ :=
    run_logged (quiet_compiled ⟨db.profile, db.settings⟩ schema table) s
  replace hlogged : _ = (db.compiled? schema table, _) := hlogged
  have hbind : db.recorded.createTable schema run table =
      Access.logged (compiled ⟨db.profile, db.settings⟩ schema table) >>= fun texts =>
        (if run then db.recorded.executeAll texts else pure ()) >>= fun _ => pure texts := by
    cases run <;> rfl
  rw [hbind, run_bind, hlogged]
  rcases hcompiled : db.compiled? schema table with e | texts
  · refine ⟨_, _, [], [], rfl, .refused ?_, hleaves⟩
    show (db.compiled? schema table >>= _) = _
    rw [hcompiled]
    rfl
  cases run with
  | false =>
    refine ⟨.ok texts, _, [], [], rfl, .answered ?_ (.answered .nil) ⟨texts, hcompiled, rfl⟩,
      hleaves⟩
    show (db.compiled? schema table >>= _) = _
    rw [hcompiled]
    rfl
  | true =>
    obtain ⟨result, next, sent, errors, hall, hsent, hnext⟩ :=
      executeAll_sent db texts ⟨s.client, journal⟩
    rw [hleaves.active_eq] at hsent
    have hplan := plan_createTable_of_compiled hcompiled
    dsimp only
    rw [if_pos rfl, run_bind, hall]
    refine ⟨result.map fun _ => texts, next, _, _, ?_, ?_, hleaves.trans hnext⟩
    · cases result <;> rfl
    · cases result with
      | error e => exact .failed hplan hsent
      | ok answers => exact .answered hplan hsent ⟨texts, hcompiled, rfl⟩

variable (db) in
/-- **A request is served.** Whatever a client replies, running a request comes to what its plan and
the replies decide, and the context of the log is what it was. -/
theorem perform_served (r : Request) (s : Session (σ × List ClientCall)) :
    ∃ result next sent errors, (db.recorded.perform r).run s = (result, next) ∧
      Served db s.journal.active s.client.1 r result next.client.1 sent errors ∧
      Leaves s sent errors next := by
  cases r with
  | query sql parameters timing =>
    obtain ⟨result, next, sent, errors, hrun, hleaves, hsent⟩ := query_sent sql parameters timing s
    refine ⟨result.map .rows, next, sent, errors, ?_, .of_sent rfl (fun _ => rfl) hsent, hleaves⟩
    unfold perform
    rw [run_bind, hrun]
    cases result <;> rfl
  | execute sql parameters timing =>
    obtain ⟨result, next, sent, errors, hrun, hleaves, hsent⟩ :=
      execute_sent sql parameters timing s
    refine ⟨result.map .outcome, next, sent, errors, ?_, .of_sent rfl (fun _ => rfl) hsent,
      hleaves⟩
    unfold perform
    rw [run_bind, hrun]
    cases result <;> rfl
  | createTable schema run table =>
    obtain ⟨result, next, sent, errors, hrun, hserved, hleaves⟩ :=
      createTable_served schema run table s
    refine ⟨result.map .statements, next, sent, errors, ?_, hserved, hleaves⟩
    unfold perform
    rw [run_bind, hrun]
    cases result <;> rfl

/-- **Every run of requests is served.** For every client and every sequence of requests, each
request is served in the state that the one before it left: its plan is sent in order and no further
than the first failure, and the calls and records of errors are those of what was sent. The context
after every request is the one before the first. -/
theorem performAll_follows (db : Database σ) (requests : List Request)
    (s : Session (σ × List ClientCall)) :
    Follows db s requests (db.recorded.performAll requests s) ∧
      ∀ ends ∈ db.recorded.performAll requests s,
        ends.2.journal.contexts = s.journal.contexts := by
  induction requests generalizing s with
  | nil => exact ⟨.nil, nofun⟩
  | cons r rest ih =>
    obtain ⟨result, next, sent, errors, hrun, hserved, hleaves⟩ := perform_served db r s
    obtain ⟨hfollows, hcontexts⟩ := ih next
    unfold performAll
    rw [hrun]
    refine ⟨.cons hserved hleaves hfollows, fun ends hends => ?_⟩
    rcases List.mem_cons.mp hends with rfl | hends
    · exact hleaves.contexts
    · exact (hcontexts ends hends).trans hleaves.contexts

/-- A statement of two lines that a lost connection fails, and the one behind it. -/
theorem performAll_follows_lines :
    let db : Database Script := ⟨Script.client, Dialect.postgres.profile, {}, .warning⟩
    let requests : List Request :=
      [.query "SELECT name\n\tFROM  t WHERE id = ?\n" (.list [.int 7]) .none,
        .execute "DELETE FROM t" .null .none]
    let s : Session (Script × List ClientCall) :=
      ⟨(⟨[{ failure := some ⟨"OSError", .system, "connection lost"⟩ }], []⟩, []), .empty⟩
    let ends := db.recorded.performAll requests s
    Follows db s requests ends ∧
      (∀ last ∈ ends, last.2.journal.contexts = s.journal.contexts) ∧
      ends.map (·.1) =
        [.error (.driver ⟨"query failed: connection lost", some "query",
            some "SELECT name FROM t WHERE id = $1", some "OSError"⟩),
          .ok (.outcome ⟨0, .null⟩)] ∧
      ends.map (·.2.journal.records.map (·.message)) =
        [["query failed: connection lost | SELECT name FROM t WHERE id = $1 | [7]"],
          ["query failed: connection lost | SELECT name FROM t WHERE id = $1 | [7]"]] ∧
      ends.map (·.2.client.2) =
        [[.query "SELECT name\n\tFROM  t WHERE id = $1\n" [.int 7]],
          [.query "SELECT name\n\tFROM  t WHERE id = $1\n" [.int 7],
            .execute "DELETE FROM t" []]] := by
  intro db requests s ends
  obtain ⟨hfollows, hcontexts⟩ := performAll_follows db requests s
  have hselect : adapt Dialect.postgres.profile "SELECT name\n\tFROM  t WHERE id = ?\n" =
      "SELECT name\n\tFROM  t WHERE id = $1\n" := by decide +kernel
  have hdelete : adapt Dialect.postgres.profile "DELETE FROM t" = "DELETE FROM t" := by
    decide +kernel
  have herror : driverError .query ⟨"OSError", .system, "connection lost"⟩
      ⟨"SELECT name\n\tFROM  t WHERE id = $1\n", [.int 7]⟩ =
        ⟨"query failed: connection lost", some "query",
          some "SELECT name FROM t WHERE id = $1", some "OSError"⟩ := by
    decide +kernel
  refine ⟨hfollows, hcontexts, ?_, ?_, ?_⟩
  · rw [← herror, ← hselect]
    rfl
  · decide +kernel
  · rw [← hselect, ← hdelete]
    rfl

end Serving

end Database

end SqlCompiler
