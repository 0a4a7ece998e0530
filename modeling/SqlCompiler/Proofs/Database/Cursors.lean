import SqlCompiler.Database.Connect
import SqlCompiler.Proofs.Database.Requests

/-!
# Cursors

What becomes of the cursors that a client obtains, over every driver. A driver is observed by one
that numbers the cursors as it hands them out and notes what happens to each (`Driver.recorded`).
Work on a cursor only ever uses this cursor, and ends with the first use that fails (`UsesOnly`), so
a client that obtains a cursor is left with it released behind its last use, and a failure of a use
is what its caller sees (`Tidy`). This holds of every call in a sequence of calls, whatever the
driver does (`answerAll_tidy`).
-/

namespace SqlCompiler

/-! ## Recordings -/

/-- How a cursor is released: its context is left, or it is closed. -/
inductive Release
  | left
  | closed
deriving DecidableEq

/-- What happens with a cursor: it is obtained, or could not be obtained, is used, or is released.
Cursors are numbered in the order in which they are obtained. -/
inductive CursorEvent
  | obtained (n : Nat)
  | refused (f : ClientFailure)
  | used (n : Nat) (failure : Option ClientFailure)
  | released (n : Nat) (how : Release) (failure : Option ClientFailure)

namespace CursorEvent

/-- The cursor that an event is about. -/
def cursor? : CursorEvent → Option Nat
  | obtained n | used n _ | released n _ _ => some n
  | refused _ => none

/-- The failure that an event is. -/
def failure? : CursorEvent → Option ClientFailure
  | obtained _ => none
  | refused f => some f
  | used _ failure | released _ _ failure => failure

end CursorEvent

/-- The state of a driver, the number of cursors it has handed out, and what happened with them,
oldest first. -/
structure Recording (σ : Type) where
  state : σ
  cursors : Nat
  events : List CursorEvent

/-- The failure of a result. -/
def failureOf {α : Type} : Except ClientFailure α → Option ClientFailure
  | .ok _ => none
  | .error f => some f

namespace Driving

variable {σ κ α β : Type}

/-- A step that obtains a cursor, which gets the next number. -/
def obtaining (step : Driving σ κ) : Driving (Recording σ) (Nat × κ) :=
  ExceptT.mk fun r =>
    match step.run r.state with
    | (.ok c, s) => (.ok (r.cursors, c), ⟨s, r.cursors + 1, r.events ++ [.obtained r.cursors]⟩)
    | (.error f, s) => (.error f, ⟨s, r.cursors, r.events ++ [.refused f]⟩)

/-- A step that is noted as an event. -/
def noting (event : Option ClientFailure → CursorEvent) (step : Driving σ α) :
    Driving (Recording σ) α :=
  ExceptT.mk fun r =>
    let (result, s) := step.run r.state
    (result, { r with state := s, events := r.events ++ [event (failureOf result)] })

/-- A step that is about no cursor. -/
def unnoted (step : Driving σ α) : Driving (Recording σ) α :=
  ExceptT.mk fun r =>
    let (result, s) := step.run r.state
    (result, { r with state := s })

end Driving

open Driving in
/-- A driver whose cursors are numbered, and that notes what happens with them. -/
def Driver.recorded {σ κ : Type} (d : Driver σ κ) : Driver (Recording σ) (Nat × κ) where
  cursor := obtaining d.cursor
  runOnNew sql arguments := obtaining (d.runOnNew sql arguments)
  run c sql arguments := noting (.used c.1) (d.run c.2 sql arguments)
  isDescribed c := noting (.used c.1) (d.isDescribed c.2)
  rowCount c := noting (.used c.1) (d.rowCount c.2)
  lastRow c := noting (.used c.1) (d.lastRow c.2)
  fetchOne c := noting (.used c.1) (d.fetchOne c.2)
  fetchAll c := noting (.used c.1) (d.fetchAll c.2)
  leaveCursor c := noting (.released c.1 .left) (d.leaveCursor c.2)
  closeCursor c := noting (.released c.1 .closed) (d.closeCursor c.2)
  close := unnoted d.close

/-! ## Work on one cursor -/

/-- Uses of a cursor of which only the last may fail. -/
def usesOf (n k : Nat) (failure : Option ClientFailure) : List CursorEvent :=
  List.replicate k (.used n none) ++ failure.toList.map fun f => .used n (some f)

theorem usesOf_append (n k m : Nat) (failure : Option ClientFailure) :
    usesOf n k none ++ usesOf n m failure = usesOf n (k + m) failure := by
  unfold usesOf
  rw [List.replicate_add, Option.toList_none, List.map_nil, List.append_nil, List.append_assoc]

namespace Driving

variable {σ κ α β : Type}

/-- A computation on a recording that does what another one does, and that only uses the cursor `n`
and ends with the first use that fails. -/
def UsesOnly (n : Nat) (a : Driving (Recording σ) α) (b : Driving σ α) : Prop :=
  ∀ r, ∃ k, a.run r = ((b.run r.state).1,
    ⟨(b.run r.state).2, r.cursors, r.events ++ usesOf n k (failureOf (b.run r.state).1)⟩)

theorem usesOnly_pure (n : Nat) (x : α) :
    UsesOnly n (pure x : Driving (Recording σ) α) (pure x) := fun r =>
  ⟨0, congrArg (fun events => (Except.ok x, Recording.mk r.state r.cursors events))
    (List.append_nil r.events).symm⟩

theorem usesOnly_noting (n : Nat) (step : Driving σ α) :
    UsesOnly n (noting (.used n) step) step := by
  intro r
  show ∃ k, ((step.run r.state).1, Recording.mk (step.run r.state).2 r.cursors
    (r.events ++ [.used n (failureOf (step.run r.state).1)])) = _
  cases (step.run r.state).1 with
  | error f => exact ⟨0, rfl⟩
  | ok x => exact ⟨1, rfl⟩

theorem UsesOnly.bind {n : Nat} {a : Driving (Recording σ) α} {b : Driving σ α}
    {f : α → Driving (Recording σ) β} {g : α → Driving σ β} (h : UsesOnly n a b)
    (hf : ∀ x, UsesOnly n (f x) (g x)) : UsesOnly n (a >>= f) (b >>= g) := by
  intro r
  obtain ⟨k, ha⟩ := h r
  rw [run_bind, run_bind, ha]
  rcases b.run r.state with ⟨e | x, s⟩
  · exact ⟨k, rfl⟩
  · obtain ⟨m, hx⟩ := hf x ⟨s, r.cursors, r.events ++ usesOf n k none⟩
    refine ⟨k + m, hx.trans ?_⟩
    rw [List.append_assoc, usesOf_append]

/-! ## Cursors that are held -/

theorem run_releasing (release : Driving σ Unit) (action : Driving σ α) (s : σ) :
    (releasing release action).run s =
      match release.run (action.run s).2 with
      | (.ok (), last) => ((action.run s).1, last)
      | (.error f, last) => (.error f, last) := rfl

theorem run_obtaining (step : Driving σ κ) (r : Recording σ) :
    (obtaining step).run r =
      match step.run r.state with
      | (.ok c, s) => (.ok (r.cursors, c), ⟨s, r.cursors + 1, r.events ++ [.obtained r.cursors]⟩)
      | (.error f, s) => (.error f, ⟨s, r.cursors, r.events ++ [.refused f]⟩) := rfl

theorem run_noting (event : Option ClientFailure → CursorEvent) (step : Driving σ α)
    (r : Recording σ) :
    (noting event step).run r = ((step.run r.state).1, ⟨(step.run r.state).2, r.cursors,
      r.events ++ [event (failureOf (step.run r.state).1)]⟩) := rfl

/-- What happens in a computation that obtains at most one cursor, the one with the number `n`. If
it cannot be obtained, that is all. Otherwise it is used and then released, and a failure of
releasing takes the place of what the uses came to. The second number is that of the next cursor. -/
inductive Holds (how : Release) (n : Nat) :
    Except ClientFailure α → Nat → List CursorEvent → Prop
  | refused (f : ClientFailure) : Holds how n (.error f) n [.refused f]
  | released (k : Nat) (result : Except ClientFailure α) (failure : Option ClientFailure) :
      Holds how n (failure.elim result .error) (n + 1)
        (.obtained n :: (usesOf n k (failureOf result) ++ [.released n how failure]))

theorem Holds.map {how : Release} {n next : Nat} {result : Except ClientFailure α}
    {own : List CursorEvent} (h : Holds how n result next own) (f : α → β) :
    Holds how n (result.map f) next own := by
  cases h with
  | refused e => exact .refused e
  | released k result failure =>
    have hmap : (failure.elim result Except.error).map f =
        failure.elim (result.map f) Except.error := by
      cases failure <;> rfl
    have hfailure : failureOf result = failureOf (result.map f) := by
      cases result <;> rfl
    rw [hmap, hfailure]
    exact .released k _ failure

/-- A computation on a recording that does what another one does, and that holds a cursor for it. -/
def HoldsCursor (how : Release) (a : Driving (Recording σ) α) (b : Driving σ α) : Prop :=
  ∀ r, ∃ next own,
    a.run r = ((b.run r.state).1, ⟨(b.run r.state).2, next, r.events ++ own⟩) ∧
    Holds how r.cursors (b.run r.state).1 next own

/-- A cursor that is obtained and released around work on it. -/
theorem withCursor_holds {how : Release} {obtain : Driving σ κ} {release : κ → Driving σ Unit}
    {action : κ → Driving σ α} {observed : Nat × κ → Driving (Recording σ) α}
    (h : ∀ n c, UsesOnly n (observed (n, c)) (action c)) :
    HoldsCursor how
      (withCursor (obtaining obtain) (fun c => noting (.released c.1 how) (release c.2)) observed)
      (withCursor obtain release action) := by
  intro r
  unfold withCursor
  rw [run_bind, run_bind, run_obtaining]
  rcases obtain.run r.state with ⟨f | c, s⟩
  · exact ⟨_, _, rfl, .refused f⟩
  dsimp only
  obtain ⟨k, hk⟩ := h r.cursors c ⟨s, r.cursors + 1, r.events ++ [.obtained r.cursors]⟩
  rw [run_releasing, run_releasing, hk, run_noting]
  rcases (action c).run s with ⟨result, s⟩
  dsimp only
  refine ⟨r.cursors + 1, .obtained r.cursors :: (usesOf r.cursors k (failureOf result) ++
    [.released r.cursors how (failureOf ((release c).run s).1)]), ?_⟩
  have hevents : r.events ++ [.obtained r.cursors] ++ usesOf r.cursors k (failureOf result) ++
      [.released r.cursors how (failureOf ((release c).run s).1)] =
        r.events ++ .obtained r.cursors :: (usesOf r.cursors k (failureOf result) ++
          [.released r.cursors how (failureOf ((release c).run s).1)]) := by
    simp only [List.append_assoc, List.cons_append, List.nil_append]
  rw [hevents]
  rcases (release c).run s with ⟨f | _, s⟩
  · exact ⟨rfl, .released k result (some f)⟩
  · exact ⟨rfl, .released k result none⟩

/-! ## What computations give -/

variable {P : α → Prop} {Q : β → Prop}

/-- A computation whose results, if it succeeds, are such as `P` says. -/
def Gives (P : α → Prop) (a : Driving σ α) : Prop :=
  ∀ s x, (a.run s).1 = .ok x → P x

theorem gives_pure {x : α} (h : P x) : Gives P (pure x : Driving σ α) := by
  rintro s _ ⟨⟩
  exact h

theorem Gives.bind {a : Driving σ α} {f : α → Driving σ β} (h : Gives P a)
    (hf : ∀ x, P x → Gives Q (f x)) : Gives Q (a >>= f) := by
  intro s y hy
  rw [run_bind] at hy
  rcases ha : a.run s with ⟨e | x, last⟩
  · rw [ha] at hy
    cases hy
  · rw [ha] at hy
    exact hf x (h s x (congrArg Prod.fst ha)) last y hy

theorem gives_true (a : Driving σ α) : Gives (fun _ => True) a := fun _ _ _ => trivial

theorem gives_withCursor {obtain : Driving σ κ} {release : κ → Driving σ Unit}
    {action : κ → Driving σ α} (h : ∀ c, Gives P (action c)) :
    Gives P (withCursor obtain release action) := by
  refine (gives_true obtain).bind fun c _ s x hx => ?_
  rw [run_releasing] at hx
  split at hx
  · exact h c s x hx
  · cases hx

end Driving

/-! ## Tidy calls -/

/-- What a call leaves behind, given what happened before it and in it. The call asks for a cursor,
and every cursor that it has to do with is one that it obtained itself, whose whole story lies in
the call: it is obtained, used, and released once, and that is the end of it. Unless releasing
fails, the call fails exactly as something that happened in it. -/
structure Tidy {α : Type} (how : Release) (earlier own : List CursorEvent)
    (result : Except ClientFailure α) : Prop where
  asked : (∃ n, .obtained n ∈ own) ∨ ∃ f, own = [.refused f]
  own_cursor : ∀ e ∈ own, ∀ n, e.cursor? = some n →
    .obtained n ∈ own ∧ ∀ e ∈ earlier, e.cursor? ≠ some n
  released_once : ∀ n, .obtained n ∈ own → ∃ before between failure after,
    own = before ++ .obtained n :: (between ++ .released n how failure :: after) ∧
      (∀ e ∈ between, e.cursor? = some n → ∃ failure, e = .used n failure) ∧
      ∀ e ∈ before ++ after, e.cursor? ≠ some n
  failure_iff : (∀ n f, .released n how (some f) ∉ own) →
    ∀ f, result = .error f ↔ ∃ e ∈ own, e.failure? = some f

/-- The cursors of events have numbers below `n`. -/
def NumberedBelow (n : Nat) (events : List CursorEvent) : Prop :=
  ∀ e ∈ events, ∀ m, e.cursor? = some m → m < n

theorem mem_usesOf {n k : Nat} {failure : Option ClientFailure} {e : CursorEvent}
    (h : e ∈ usesOf n k failure) : ∃ failure, e = .used n failure := by
  rcases List.mem_append.mp h with h | h
  · exact ⟨none, List.eq_of_mem_replicate h⟩
  · obtain ⟨f, -, rfl⟩ := List.mem_map.mp h
    exact ⟨some f, rfl⟩

theorem exists_failure_usesOf_iff {n k : Nat} {failure : Option ClientFailure} {f : ClientFailure} :
    (∃ e ∈ usesOf n k failure, e.failure? = some f) ↔ failure = some f := by
  constructor
  · rintro ⟨e, he, hf⟩
    rcases List.mem_append.mp he with he | he
    · cases List.eq_of_mem_replicate he
      cases hf
    · obtain ⟨g, hg, rfl⟩ := List.mem_map.mp he
      cases hf
      exact Option.mem_toList.mp hg
  · rintro rfl
    exact ⟨.used n (some f), List.mem_append_right _ List.mem_cons_self, rfl⟩

theorem failureOf_eq_some_iff {α : Type} {result : Except ClientFailure α} {f : ClientFailure} :
    failureOf result = some f ↔ result = .error f := by
  cases result with
  | ok x => exact ⟨nofun, nofun⟩
  | error g => exact ⟨fun h => Option.some.inj h ▸ rfl, fun h => Except.error.inj h ▸ rfl⟩

namespace Driving.Holds

variable {α : Type} {how : Release} {n next : Nat} {result : Except ClientFailure α}
  {own : List CursorEvent}

/-- Everything that happens is about the one cursor. -/
theorem cursor?_eq (h : Holds how n result next own) {e : CursorEvent} (he : e ∈ own) {m : Nat}
    (hm : e.cursor? = some m) : m = n ∧ next = n + 1 ∧ .obtained n ∈ own := by
  cases h with
  | refused f =>
    cases List.mem_singleton.mp he
    cases hm
  | released k result failure =>
    refine ⟨?_, rfl, List.mem_cons_self⟩
    rcases List.mem_cons.mp he with rfl | he
    · exact (Option.some.inj hm).symm
    rcases List.mem_append.mp he with he | he
    · obtain ⟨_, rfl⟩ := mem_usesOf he
      exact (Option.some.inj hm).symm
    · cases List.mem_singleton.mp he
      exact (Option.some.inj hm).symm

theorem le_next (h : Holds how n result next own) : n ≤ next := by
  cases h with
  | refused f => exact Nat.le_refl n
  | released k result failure => exact Nat.le_succ n

theorem tidy (h : Holds how n result next own) {earlier : List CursorEvent}
    (hearlier : NumberedBelow n earlier) : Tidy how earlier own result where
  asked := by
    cases h with
    | refused f => exact .inr ⟨f, rfl⟩
    | released k result failure => exact .inl ⟨n, List.mem_cons_self⟩
  own_cursor e he m hm := by
    obtain ⟨rfl, -, hobtained⟩ := h.cursor?_eq he hm
    exact ⟨hobtained, fun e he hm => Nat.lt_irrefl _ (hearlier e he _ hm)⟩
  released_once m hm := by
    obtain ⟨rfl, -, -⟩ := h.cursor?_eq hm rfl
    cases h with
    | refused f => cases List.mem_singleton.mp hm
    | released k result failure =>
      exact ⟨[], usesOf m k (failureOf result), failure, [], rfl, fun e he _ => mem_usesOf he,
        nofun⟩
  failure_iff hquiet f := by
    cases h with
    | refused g =>
      constructor
      · rintro ⟨⟩
        exact ⟨_, List.mem_singleton_self _, rfl⟩
      · rintro ⟨e, he, hf⟩
        cases List.mem_singleton.mp he
        cases hf
        rfl
    | released k result failure =>
      cases failure with
      | some g =>
        refine absurd ?_ (hquiet n g)
        exact List.mem_cons_of_mem _ (List.mem_append_right _ List.mem_cons_self)
      | none =>
        have hresult : result = .error f ↔
            ∃ e ∈ usesOf n k (failureOf result), e.failure? = some f :=
          failureOf_eq_some_iff.symm.trans exists_failure_usesOf_iff.symm
        refine hresult.trans ?_
        constructor
        · rintro ⟨e, he, hf⟩
          exact ⟨e, List.mem_cons_of_mem _ (List.mem_append_left _ he), hf⟩
        · rintro ⟨e, he, hf⟩
          rcases List.mem_cons.mp he with rfl | he
          · cases hf
          rcases List.mem_append.mp he with he | he
          · exact ⟨e, he, hf⟩
          · cases List.mem_singleton.mp he
            cases hf

end Driving.Holds

/-! ## Calls of clients -/

/-- How the cursors of a client are released. -/
def ClientChoice.release : ClientChoice → Release
  | .file _ => .closed
  | .server _ => .left

section Clients

variable {σ κ : Type} (d : Driver σ κ)

open Driving

theorem usesOnly_affectedRows (n : Nat) (c : κ) :
    UsesOnly n (d.recorded.affectedRows (n, c)) (d.affectedRows c) :=
  (usesOnly_noting n _).bind fun _ => usesOnly_pure n _

theorem postgresQuery_holds (sql : String) (arguments : List Value) :
    HoldsCursor .left (Postgres.query d.recorded sql arguments)
      (Postgres.query d sql arguments) := by
  refine withCursor_holds fun n c => ?_
  refine (usesOnly_noting n _).bind fun _ => (usesOnly_noting n _).bind fun described => ?_
  cases described with
  | true => exact usesOnly_noting n _
  | false => exact usesOnly_pure n _

theorem postgresExecute_holds (sql : String) (arguments : List Value) :
    HoldsCursor .left (Postgres.execute d.recorded sql arguments)
      (Postgres.execute d sql arguments) := by
  refine withCursor_holds fun n c => ?_
  refine (usesOnly_noting n _).bind fun _ => (usesOnly_noting n _).bind fun described => ?_
  have hrest (row : Option Row) :=
    (usesOnly_affectedRows d n c).bind fun count =>
      usesOnly_pure n (Outcome.mk count (((row.bind List.head?).map (·.2)).getD .null))
  cases described with
  | true => exact (usesOnly_noting n _).bind hrest
  | false => exact (usesOnly_pure n none).bind hrest

theorem sqliteQuery_holds (sql : String) (arguments : List Value) :
    HoldsCursor .closed (Sqlite.query d.recorded sql arguments)
      (Sqlite.query d sql arguments) :=
  withCursor_holds fun n _ => usesOnly_noting n _

theorem sqliteExecute_holds (sql : String) (arguments : List Value) :
    HoldsCursor .closed (Sqlite.execute d.recorded sql arguments)
      (Sqlite.execute d sql arguments) :=
  withCursor_holds fun n c => (usesOnly_affectedRows d n c).bind fun _ =>
    (usesOnly_noting n _).bind fun _ => usesOnly_pure n _

/-- Every call of a client holds a cursor, which it releases in its own way. -/
theorem answer_holds (choice : ClientChoice) (step : Sending) (r : Recording σ) :
    ∃ next own,
      (choice.over d.recorded).answer step r =
        (((choice.over d).answer step r.state).1,
          ⟨((choice.over d).answer step r.state).2, next, r.events ++ own⟩) ∧
      Holds choice.release r.cursors ((choice.over d).answer step r.state).1 next own := by
  obtain ⟨_ | _, p⟩ := step
  · have hquery : HoldsCursor choice.release
        (ExceptT.mk ((choice.over d.recorded).query p.sql p.arguments))
        (ExceptT.mk ((choice.over d).query p.sql p.arguments)) := by
      cases choice with
      | file => exact sqliteQuery_holds d p.sql p.arguments
      | server => exact postgresQuery_holds d p.sql p.arguments
    obtain ⟨next, own, hrun, hholds⟩ := hquery r
    exact ⟨next, own, congrArg (fun x => (x.1.map Answer.rows, x.2)) hrun,
      hholds.map Answer.rows⟩
  · have hexecute : HoldsCursor choice.release
        (ExceptT.mk ((choice.over d.recorded).execute p.sql p.arguments))
        (ExceptT.mk ((choice.over d).execute p.sql p.arguments)) := by
      cases choice with
      | file => exact sqliteExecute_holds d p.sql p.arguments
      | server => exact postgresExecute_holds d p.sql p.arguments
    obtain ⟨next, own, hrun, hholds⟩ := hexecute r
    exact ⟨next, own, congrArg (fun x => (x.1.map Answer.outcome, x.2)) hrun,
      hholds.map Answer.outcome⟩

theorem gives_affectedRows (c : κ) : Gives (0 ≤ ·) (d.affectedRows c) :=
  (gives_true _).bind fun _ _ => gives_pure (Int.le_max_right _ _)

theorem gives_execute (choice : ClientChoice) (sql : String) (arguments : List Value) :
    Gives (fun o : Outcome => 0 ≤ o.affectedRows)
      (ExceptT.mk ((choice.over d).execute sql arguments)) := by
  cases choice with
  | file =>
    exact gives_withCursor fun c => (gives_affectedRows d c).bind fun count hcount =>
      (gives_true _).bind fun _ _ => gives_pure hcount
  | server =>
    refine gives_withCursor fun c => (gives_true _).bind fun _ _ => (gives_true _).bind
      fun described _ => ?_
    have hrest (row : Option Row) : Gives (fun o : Outcome => 0 ≤ o.affectedRows)
        (d.affectedRows c >>= fun count =>
          pure ⟨count, ((row.bind List.head?).map (·.2)).getD .null⟩) :=
      (gives_affectedRows d c).bind fun count hcount => gives_pure hcount
    cases described with
    | true => exact (gives_true _).bind fun row _ => hrest row
    | false => exact (gives_true _).bind fun row _ => hrest row

theorem affectedRows_nonneg (choice : ClientChoice) (step : Sending) (s : σ) {o : Outcome}
    (h : ((choice.over d).answer step s).1 = .ok (.outcome o)) : 0 ≤ o.affectedRows := by
  obtain ⟨_ | _, p⟩ := step
  · change (((choice.over d).query p.sql p.arguments s).1.map Answer.rows) = _ at h
    cases hquery : ((choice.over d).query p.sql p.arguments s).1
    all_goals
      rw [hquery] at h
      cases h
  · change (((choice.over d).execute p.sql p.arguments s).1.map Answer.outcome) = _ at h
    cases hexecute : ((choice.over d).execute p.sql p.arguments s).1 with
    | error f =>
      rw [hexecute] at h
      cases h
    | ok o =>
      rw [hexecute] at h
      cases h
      exact gives_execute d choice p.sql p.arguments s _ hexecute

end Clients

/-! ## Sequences of calls -/

/-- Calls of a client, one after the other, whatever becomes of each: what it gave, and the state
after it. -/
def Client.answerAll {σ : Type} (client : Client σ) :
    List Sending → σ → List (Except ClientFailure Answer × σ)
  | [], _ => []
  | step :: rest, s => client.answer step s :: client.answerAll rest (client.answer step s).2

/-- Calls each of which is tidy, given what happened before it, and tells no negative number of
affected rows. -/
inductive TidyCalls {σ : Type} (how : Release) :
    List CursorEvent → List (Except ClientFailure Answer × Recording σ) → Prop
  | nil {earlier : List CursorEvent} : TidyCalls how earlier []
  | cons {earlier own : List CursorEvent} {result : Except ClientFailure Answer}
      {next : Recording σ} {rest : List (Except ClientFailure Answer × Recording σ)}
      (events : next.events = earlier ++ own) (tidy : Tidy how earlier own result)
      (affected : ∀ o, result = .ok (.outcome o) → 0 ≤ o.affectedRows)
      (tail : TidyCalls how next.events rest) : TidyCalls how earlier ((result, next) :: rest)

section Calls

variable {σ κ : Type}

/-- One call, in a recording whose cursors are numbered. -/
theorem answer_tidy (choice : ClientChoice) (d : Driver σ κ) (step : Sending) {r : Recording σ}
    (hr : NumberedBelow r.cursors r.events) :
    ∃ next own,
      (choice.over d.recorded).answer step r =
        (((choice.over d).answer step r.state).1,
          ⟨((choice.over d).answer step r.state).2, next, r.events ++ own⟩) ∧
      Tidy choice.release r.events own ((choice.over d).answer step r.state).1 ∧
      NumberedBelow next (r.events ++ own) := by
  obtain ⟨next, own, hanswer, hholds⟩ := answer_holds d choice step r
  refine ⟨next, own, hanswer, hholds.tidy hr, fun e he m hm => ?_⟩
  rcases List.mem_append.mp he with he | he
  · exact Nat.lt_of_lt_of_le (hr e he m hm) hholds.le_next
  · obtain ⟨rfl, rfl, -⟩ := hholds.cursor?_eq he hm
    exact Nat.lt_succ_self _

theorem answerAll_tidy_from (choice : ClientChoice) (d : Driver σ κ) (steps : List Sending)
    {r : Recording σ} (hr : NumberedBelow r.cursors r.events) :
    TidyCalls choice.release r.events ((choice.over d.recorded).answerAll steps r) ∧
      ((choice.over d.recorded).answerAll steps r).map (fun (result, r) => (result, r.state)) =
        (choice.over d).answerAll steps r.state := by
  induction steps generalizing r with
  | nil => exact ⟨.nil, rfl⟩
  | cons step rest ih =>
    obtain ⟨next, own, hanswer, htidy, hnext⟩ := answer_tidy choice d step hr
    obtain ⟨htail, hstates⟩ :=
      ih (r := ⟨((choice.over d).answer step r.state).2, next, r.events ++ own⟩) hnext
    unfold Client.answerAll
    rw [hanswer]
    refine ⟨.cons rfl htidy (fun o => affectedRows_nonneg d choice step r.state) htail, ?_⟩
    rw [List.map_cons, hstates]

/-- **Clients release every cursor.** For every driver and every sequence of calls, each call has to
do with cursors that it obtained itself and no earlier call did, releases each of them once, behind
its last use, and fails as the driver fails it, unless releasing fails. The number of affected rows
is not negative. The calls give what they give without a recording. -/
theorem answerAll_tidy (choice : ClientChoice) (d : Driver σ κ) (steps : List Sending) (s : σ) :
    TidyCalls choice.release [] ((choice.over d.recorded).answerAll steps ⟨s, 0, []⟩) ∧
      ((choice.over d.recorded).answerAll steps ⟨s, 0, []⟩).map
          (fun (result, r) => (result, r.state)) =
        (choice.over d).answerAll steps s :=
  answerAll_tidy_from choice d steps (r := ⟨s, 0, []⟩) (by rintro e ⟨⟩)

/-- A cursor is left behind a failure to take its rows. -/
example (f : ClientFailure) :
    (((ClientChoice.server "").over Connection.driver.recorded).answerAll
      [⟨.query, ⟨"SELECT 1", []⟩⟩]
      ⟨⟨[{ described := true, fetchFailure := some f }], []⟩, 0, []⟩).map (·.2.events) =
        [[.obtained 0, .used 0 none, .used 0 none, .used 0 (some f), .released 0 .left none]] :=
  rfl

end Calls

end SqlCompiler
