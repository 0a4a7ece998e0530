import Mathlib.Data.List.Forall2
import SqlCompiler.Log.Basic

/-!
# Outcomes of logged computations

How computations with a state run that are put together from others (`run_bind`, `run_tryCatch`),
and what a logged computation comes to, apart from the records it leaves. One that is put together
from two succeeds exactly when the first succeeds and then the second, from the journal that the
first leaves behind (`outcome_bind_eq_ok_iff`). A quiet computation comes to the same with every
journal, and leaves behind the context it found and no record of an error (`Quiet`).
-/

namespace SqlCompiler

/-! ## Runs -/

section Run

variable {ε σ α β : Type}

/-- A computation that is put together from two runs the second from the state that the first
leaves behind, if that succeeds. -/
theorem run_bind (a : ExceptT ε (StateM σ) α) (f : α → ExceptT ε (StateM σ) β) (s : σ) :
    (a >>= f).run s =
      match a.run s with
      | (.ok x, s) => (f x).run s
      | (.error e, s) => (.error e, s) := by
  show ExceptT.bindCont f (a.run s).1 (a.run s).2 = _
  rcases a.run s with ⟨_ | _, _⟩ <;> rfl

/-- A handler runs from the state that a failed computation leaves behind. -/
theorem run_tryCatch (a : ExceptT ε (StateM σ) α) (handler : ε → ExceptT ε (StateM σ) α) (s : σ) :
    (tryCatch a handler).run s =
      match a.run s with
      | (.ok x, s) => (.ok x, s)
      | (.error e, s) => (handler e).run s := by
  unfold tryCatch instMonadExceptOfMonadExceptOf
  simp only [tryCatchThe, MonadExceptOf.tryCatch, ExceptT.tryCatch, ExceptT.run_mk, bind,
    StateT.bind]
  rcases h : a.run s with ⟨_ | _, _⟩
  all_goals
    rw [show a s = _ from h]
    rfl

end Run

namespace Log

variable {ε α β : Type}

/-! ## Outcomes -/

/-- The result of a computation that starts with the journal `j`. -/
def Logged.outcome (a : Logged ε α) (j : Journal) : Except ε α :=
  (a.run j).1

theorem outcome_pure (x : α) (j : Journal) : (pure x : Logged ε α).outcome j = .ok x := rfl

theorem outcome_throw (e : ε) (j : Journal) :
    (throw e : Logged ε α).outcome j = .error e := rfl

theorem outcome_emit (source : Source) (level : Level) (message : String) (j : Journal) :
    (emit source level message : Logged ε Unit).outcome j = .ok () := rfl

theorem outcome_lift (x : Except ε α) (j : Journal) : (liftM x : Logged ε α).outcome j = x := by
  cases x <;> rfl

theorem outcome_bind (a : Logged ε α) (f : α → Logged ε β) (j : Journal) :
    (a >>= f).outcome j = a.outcome j >>= fun x => (f x).outcome (a.run j).2 := by
  show (ExceptT.bindCont f (a.run j).1 (a.run j).2).1 = _
  unfold Logged.outcome
  cases (a.run j).1 <;> rfl

theorem outcome_bind_of_eq_ok {a : Logged ε α} {f : α → Logged ε β} {j : Journal} {x : α}
    (h : a.outcome j = .ok x) : (a >>= f).outcome j = (f x).outcome (a.run j).2 := by
  rw [outcome_bind, h]
  rfl

theorem outcome_bind_eq_ok_iff {a : Logged ε α} {f : α → Logged ε β} {j : Journal} {y : β} :
    (a >>= f).outcome j = .ok y ↔
      ∃ x, a.outcome j = .ok x ∧ (f x).outcome (a.run j).2 = .ok y := by
  rw [outcome_bind]
  cases a.outcome j <;> simp [bind, Except.bind]

theorem bind_eq_ok_iff {x : Except ε α} {f : α → Except ε β} {y : β} :
    (x >>= f) = .ok y ↔ ∃ a, x = .ok a ∧ f a = .ok y := by
  cases x <;> simp [bind, Except.bind]

/-- Members under names are computed one by one. -/
theorem mapM_named_eq_ok_iff {f : α → Except ε β} {as : List (String × α)}
    {bs : List (String × β)} : as.mapM (fun (name, a) => return (name, ← f a)) = .ok bs ↔
      List.Forall₂ (fun p q => p.1 = q.1 ∧ f p.2 = .ok q.2) as bs := by
  induction as generalizing bs with
  | nil =>
    rw [List.forall₂_nil_left_iff]
    exact ⟨fun h => (Except.ok.inj h).symm, fun h => h ▸ rfl⟩
  | cons p as ih =>
    rw [List.mapM_cons, bind_eq_ok_iff, List.forall₂_cons_left_iff]
    constructor
    · rintro ⟨q, hq, h⟩
      obtain ⟨b, hb, hq⟩ := bind_eq_ok_iff.mp hq
      obtain ⟨rest, hrest, h⟩ := bind_eq_ok_iff.mp h
      cases hq
      exact ⟨_, rest, ⟨rfl, hb⟩, ih.mp hrest, (Except.ok.inj h).symm⟩
    · rintro ⟨⟨_, b⟩, rest, ⟨rfl, hb⟩, hrest, rfl⟩
      exact ⟨_, bind_eq_ok_iff.mpr ⟨b, hb, rfl⟩, bind_eq_ok_iff.mpr ⟨rest, ih.mpr hrest, rfl⟩⟩

/-- A result that is not lost when the error is. -/
theorem eq_ok_of_toOption {x : Except ε α} {y : α} (h : x.toOption = some y) : x = .ok y := by
  cases x with
  | error e => cases h
  | ok x =>
    cases h
    rfl

/-- A computation that does not succeed fails. -/
theorem exists_error_of_forall_ne_ok {a : Logged ε α} {j : Journal}
    (h : ∀ x, a.outcome j ≠ .ok x) : ∃ e, a.outcome j = .error e := by
  rcases ha : a.outcome j with e | x
  · exact ⟨e, rfl⟩
  · exact absurd ha (h x)

/-! ## Quiet computations -/

/-- A computation whose outcome does not depend on the journal, that ends in the context it began
in, and that writes no record of an error. -/
structure Quiet (a : Logged ε α) : Prop where
  outcome : ∀ j j', a.outcome j = a.outcome j'
  journal : ∀ j, ∃ written, (a.run j).2 = ⟨j.contexts, j.records ++ written⟩ ∧
    ∀ r ∈ written, r.level ≠ .error

theorem quiet_pure (x : α) : Quiet (pure x : Logged ε α) where
  outcome _ _ := rfl
  journal j := ⟨[], by rw [List.append_nil]; rfl, nofun⟩

theorem quiet_lift (x : Except ε α) : Quiet (liftM x : Logged ε α) where
  outcome j j' := (outcome_lift x j).trans (outcome_lift x j').symm
  journal j := ⟨[], by rw [List.append_nil]; cases x <;> rfl, nofun⟩

theorem quiet_emit {source : Source} {level : Level} {message : String} (h : level ≠ .error) :
    Quiet (emit source level message : Logged ε Unit) where
  outcome _ _ := rfl
  journal j := by
    refine ⟨[⟨source, level, message, j.active.members, []⟩], rfl, fun r hr => ?_⟩
    rwa [List.mem_singleton.mp hr]

theorem Quiet.bind {a : Logged ε α} {f : α → Logged ε β} (ha : Quiet a) (hf : ∀ x, Quiet (f x)) :
    Quiet (a >>= f) where
  outcome j j' := by
    rw [outcome_bind, outcome_bind, ha.outcome j j']
    cases a.outcome j' with
    | error e => rfl
    | ok x => exact (hf x).outcome _ _
  journal j := by
    obtain ⟨written, hrun, hwritten⟩ := ha.journal j
    have hbind : ((a >>= f).run j).2 =
        match (a.run j).1 with
        | .ok x => ((f x).run (a.run j).2).2
        | .error _ => (a.run j).2 := by
      show (ExceptT.bindCont f (a.run j).1 (a.run j).2).2 = _
      cases (a.run j).1 <;> rfl
    rw [hbind]
    cases (a.run j).1 with
    | error e => exact ⟨written, hrun, hwritten⟩
    | ok x =>
      obtain ⟨more, hmore, hnone⟩ := (hf x).journal (a.run j).2
      refine ⟨written ++ more, ?_, fun r hr => ?_⟩
      · dsimp only
        rw [hmore, hrun, List.append_assoc]
      · exact (List.mem_append.mp hr).elim (hwritten r) (hnone r)

theorem Quiet.block {a : Logged ε α} (change : Change) (h : Quiet a) :
    Quiet (Log.block change a) where
  outcome j j' := h.outcome (j.enter change) (j'.enter change)
  journal j := by
    obtain ⟨written, hrun, hwritten⟩ := h.journal (j.enter change)
    refine ⟨written, ?_, hwritten⟩
    show ((a.run (j.enter change)).2).leave = _
    rw [hrun]
    rfl

end Log

end SqlCompiler
