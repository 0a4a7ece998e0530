import Mathlib.Data.List.Forall2

/-!
# Boolean expressions and their precedence

A boolean expression of SQL is true, false or unknown. It is written as a row of tokens, in which
`AND` binds tighter than `OR` and parentheses bind tightest. `parse?` reads such a row in one pass;
what it accepts, and the formula it gives, is exactly what the usual grammar says
(`parse?_eq_some_iff`), so every row has at most one formula.

Conjunctions that are joined by `AND` are one conjunction, and joined by `OR` one disjunction
(`exists_conjunction_joined`, `exists_disjunction_joined`). The grammar brackets the operands
otherwise than they were joined; the truth is the same.
-/

namespace SqlCompiler.Logic

/-! ## Truth values -/

/-- What a condition can be for a row. -/
inductive Truth
  | false
  | unknown
  | true
deriving DecidableEq, Repr

namespace Truth

/-- The conjunction: false if either is, true if both are. -/
def and : Truth → Truth → Truth
  | false, _ => false
  | true, t => t
  | unknown, false => false
  | unknown, _ => unknown

/-- The disjunction: true if either is, false if both are. -/
def or : Truth → Truth → Truth
  | true, _ => true
  | false, t => t
  | unknown, true => true
  | unknown, _ => unknown

@[simp] theorem true_and (t : Truth) : true.and t = t := rfl

@[simp] theorem and_true (t : Truth) : t.and true = t := by cases t <;> rfl

@[simp] theorem or_false (t : Truth) : t.or false = t := by cases t <;> rfl

theorem and_assoc (s t u : Truth) : (s.and t).and u = s.and (t.and u) := by
  cases s <;> cases t <;> cases u <;> rfl

theorem or_assoc (s t u : Truth) : (s.or t).or u = s.or (t.or u) := by
  cases s <;> cases t <;> cases u <;> rfl

/-- The conjunction of all; without any it is true. -/
def all (ts : List Truth) : Truth :=
  ts.foldr and true

/-- The disjunction of all; without any it is false. -/
def any (ts : List Truth) : Truth :=
  ts.foldr or false

@[simp] theorem all_cons (t : Truth) (ts : List Truth) : all (t :: ts) = t.and (all ts) := rfl

end Truth

/-! ## Formulas and tokens -/

variable {α : Type}

/-- A boolean expression over atoms. -/
inductive Formula (α : Type)
  | atom (a : α)
  | and (f g : Formula α)
  | or (f g : Formula α)
deriving DecidableEq, Repr

/-- The truth of a formula whose atoms have given truths. -/
def Formula.eval (truth : α → Truth) : Formula α → Truth
  | atom a => truth a
  | and f g => (f.eval truth).and (g.eval truth)
  | or f g => (f.eval truth).or (g.eval truth)

/-- A part of a written boolean expression. -/
inductive Token (α : Type)
  | atom (a : α)
  | and
  | or
  | opening
  | closing
deriving DecidableEq, Repr

mutual

/-- An atom or an expression in parentheses. -/
inductive IsOperand : List (Token α) → Formula α → Prop
  | atom (a : α) : IsOperand [.atom a] (.atom a)
  | parenthesized {ts : List (Token α)} {f : Formula α} (h : IsDisjunction ts f) :
    IsOperand (.opening :: (ts ++ [.closing])) f

/-- Operands joined by `AND`, from the left. -/
inductive IsConjunction : List (Token α) → Formula α → Prop
  | operand {ts : List (Token α)} {f : Formula α} (h : IsOperand ts f) : IsConjunction ts f
  | and {ts us : List (Token α)} {f g : Formula α} (h : IsConjunction ts f)
    (hs : IsOperand us g) : IsConjunction (ts ++ .and :: us) (.and f g)

/-- Conjunctions joined by `OR`, from the left. -/
inductive IsDisjunction : List (Token α) → Formula α → Prop
  | conjunction {ts : List (Token α)} {f : Formula α} (h : IsConjunction ts f) :
    IsDisjunction ts f
  | or {ts us : List (Token α)} {f g : Formula α} (h : IsDisjunction ts f)
    (hs : IsConjunction us g) : IsDisjunction (ts ++ .or :: us) (.or f g)

end

/-! ## The reader -/

/-- What stands in front of an operand, up to the parenthesis around it: the disjunction in front of
the last `OR`, and the conjunction between that and the last `AND`. -/
structure Level (α : Type) where
  disjunct? : Option (Formula α)
  conjunct? : Option (Formula α)
deriving DecidableEq

/-- The level behind a parenthesis. -/
def Level.empty : Level α :=
  ⟨none, none⟩

/-- A conjunction, continued by an operand. -/
def Level.conjoin (level : Level α) (f : Formula α) : Formula α :=
  match level.conjunct? with
  | none => f
  | some g => .and g f

/-- A whole level, ended by an operand. -/
def Level.finish (level : Level α) (f : Formula α) : Formula α :=
  match level.disjunct? with
  | none => level.conjoin f
  | some g => .or g (level.conjoin f)

/-- The state of a reader: the levels of the open parentheses, innermost first, the level inside of
them, and the operand that was read last. -/
structure Reader (α : Type) where
  outer : List (Level α)
  level : Level α
  operand? : Option (Formula α)
deriving DecidableEq

namespace Reader

/-- The reader in front of an expression. -/
def start : Reader α :=
  ⟨[], .empty, none⟩

/-- Reads one token. -/
def step : Reader α → Token α → Option (Reader α)
  | ⟨outer, level, none⟩, .atom a => some ⟨outer, level, some (.atom a)⟩
  | ⟨outer, level, none⟩, .opening => some ⟨level :: outer, .empty, none⟩
  | ⟨outer, level, some f⟩, .and => some ⟨outer, ⟨level.disjunct?, some (level.conjoin f)⟩, none⟩
  | ⟨outer, level, some f⟩, .or => some ⟨outer, ⟨some (level.finish f), none⟩, none⟩
  | ⟨around :: outer, level, some f⟩, .closing => some ⟨outer, around, some (level.finish f)⟩
  | _, _ => none

/-- Reads tokens from left to right. -/
def run (r : Reader α) (ts : List (Token α)) : Option (Reader α) :=
  ts.foldlM step r

/-- The formula of a reader behind a whole expression. -/
def result? : Reader α → Option (Formula α)
  | ⟨[], level, some f⟩ => some (level.finish f)
  | _ => none

theorem run_append (r : Reader α) (ts us : List (Token α)) :
    r.run (ts ++ us) = (r.run ts).bind fun s => s.run us := by
  unfold run
  rw [List.foldlM_append]
  rfl

theorem run_cons (r : Reader α) (t : Token α) (ts : List (Token α)) :
    r.run (t :: ts) = (r.step t).bind fun s => s.run ts := rfl

end Reader

/-- The formula of a row of tokens. -/
def parse? (ts : List (Token α)) : Option (Formula α) :=
  (Reader.start.run ts).bind Reader.result?

example : parse? [.atom 1, .or, .atom 2, .and, .atom 3] =
    some (.or (.atom 1) (.and (.atom 2) (.atom 3))) := by decide

/-! ### What the grammar allows is read -/

mutual

theorem IsOperand.run {ts : List (Token α)} {f : Formula α} :
    IsOperand ts f → ∀ (outer : List (Level α)) (level : Level α),
      Reader.run ⟨outer, level, none⟩ ts = some ⟨outer, level, some f⟩
  | .atom a, _, _ => rfl
  | .parenthesized h, outer, level => by
    obtain ⟨inner, g, hrun, hf⟩ := h.run (level :: outer)
    rw [Reader.run_cons]
    show Reader.run ⟨level :: outer, .empty, none⟩ _ = _
    rw [Reader.run_append, hrun, ← hf]
    rfl

theorem IsConjunction.run {ts : List (Token α)} {f : Formula α} :
    IsConjunction ts f → ∀ (outer : List (Level α)) (d : Option (Formula α)),
      ∃ c g, Reader.run ⟨outer, ⟨d, none⟩, none⟩ ts = some ⟨outer, ⟨d, c⟩, some g⟩ ∧
        Level.conjoin ⟨d, c⟩ g = f
  | .operand h, outer, d => ⟨none, _, h.run outer ⟨d, none⟩, rfl⟩
  | .and h hs, outer, d => by
    obtain ⟨c, g, hrun, hf⟩ := h.run outer d
    refine ⟨some _, _, ?_, rfl⟩
    rw [Reader.run_append, hrun, ← hf]
    exact hs.run outer _

theorem IsDisjunction.run {ts : List (Token α)} {f : Formula α} :
    IsDisjunction ts f → ∀ outer : List (Level α),
      ∃ level g, Reader.run ⟨outer, .empty, none⟩ ts = some ⟨outer, level, some g⟩ ∧
        level.finish g = f
  | .conjunction h, outer => by
    obtain ⟨c, g, hrun, hf⟩ := h.run outer none
    exact ⟨⟨none, c⟩, g, hrun, hf⟩
  | .or h hs, outer => by
    obtain ⟨level, g, hrun, hf⟩ := h.run outer
    obtain ⟨c, g', hrun', hf'⟩ := hs.run outer (some (level.finish g))
    refine ⟨⟨some (level.finish g), c⟩, g', ?_, ?_⟩
    · rw [Reader.run_append, hrun]
      exact hrun'
    · rw [← hf, ← hf']
      rfl

end

/-! ### What is read the grammar allows -/

/-- What is in front of the last separator, if there is one, and the tokens of it. -/
inductive IsBefore (Allows : List (Token α) → Formula α → Prop) (separator : Token α) :
    Option (Formula α) → List (Token α) → Prop
  | nothing : IsBefore Allows separator none []
  | some {ts : List (Token α)} {f : Formula α} (h : Allows ts f) :
    IsBefore Allows separator (some f) (ts ++ [separator])

/-- The tokens that lead to a level, from the parenthesis around it. -/
def Level.Follows (level : Level α) (ts : List (Token α)) : Prop :=
  ∃ us vs, ts = us ++ vs ∧ IsBefore IsDisjunction .or level.disjunct? us ∧
    IsBefore IsConjunction .and level.conjunct? vs

/-- The tokens that lead into the innermost of open parentheses. -/
inductive OuterFollows : List (Level α) → List (Token α) → Prop
  | none : OuterFollows [] []
  | inside {level : Level α} {outer : List (Level α)} {ts us : List (Token α)}
    (hs : OuterFollows outer ts) (h : level.Follows us) :
    OuterFollows (level :: outer) (ts ++ us ++ [.opening])

/-- The tokens that lead to a state of the reader. -/
inductive Reader.Follows : Reader α → List (Token α) → Prop
  | before {outer : List (Level α)} {level : Level α} {us vs : List (Token α)}
    (ho : OuterFollows outer us) (hl : level.Follows vs) :
    Follows ⟨outer, level, none⟩ (us ++ vs)
  | behind {outer : List (Level α)} {level : Level α} {us vs ws : List (Token α)} {f : Formula α}
    (ho : OuterFollows outer us) (hl : level.Follows vs) (hf : IsOperand ws f) :
    Follows ⟨outer, level, some f⟩ (us ++ vs ++ ws)

theorem Level.follows_empty : (Level.empty : Level α).Follows [] :=
  ⟨[], [], rfl, .nothing, .nothing⟩

theorem IsBefore.conjoin {level : Level α} {ts us : List (Token α)} {f : Formula α}
    (h : IsBefore IsConjunction .and level.conjunct? ts) (hf : IsOperand us f) :
    IsConjunction (ts ++ us) (level.conjoin f) := by
  rcases level with ⟨d, c⟩
  cases h with
  | nothing => exact .operand hf
  | some hg =>
    rw [List.append_assoc]
    exact .and hg hf

theorem Level.Follows.finish {level : Level α} {ts us : List (Token α)} {f : Formula α}
    (h : level.Follows ts) (hf : IsOperand us f) : IsDisjunction (ts ++ us) (level.finish f) := by
  obtain ⟨vs, ws, rfl, hd, hc⟩ := h
  have hconj := hc.conjoin hf
  rw [List.append_assoc]
  rcases level with ⟨d, c⟩
  cases hd with
  | nothing => exact .conjunction hconj
  | some hg =>
    rw [List.append_assoc]
    exact .or hg hconj

/-- One token leads from state to state as the grammar allows. -/
theorem Reader.Follows.step {r s : Reader α} {ts : List (Token α)} {t : Token α}
    (h : r.Follows ts) (hs : r.step t = some s) : s.Follows (ts ++ [t]) := by
  cases h with
  | @before outer level us vs ho hl =>
    cases t with
    | atom a =>
      cases hs
      exact .behind ho hl (.atom a)
    | opening =>
      cases hs
      have h := Follows.before (.inside ho hl) (Level.follows_empty (α := α))
      rwa [List.append_nil] at h
    | and | or | closing => cases hs
  | @behind outer level us vs ws f ho hl hf =>
    cases t with
    | and =>
      cases hs
      obtain ⟨ds, cs, rfl, hd, hc⟩ := hl
      have h : Level.Follows ⟨level.disjunct?, some (level.conjoin f)⟩
          (ds ++ (cs ++ ws ++ [.and])) := ⟨ds, _, rfl, hd, .some (hc.conjoin hf)⟩
      simpa only [List.append_assoc] using Follows.before ho h
    | or =>
      cases hs
      have h : Level.Follows ⟨some (level.finish f), none⟩ (vs ++ ws ++ [.or]) :=
        ⟨_, [], (List.append_nil _).symm, .some (hl.finish hf), .nothing⟩
      simpa only [List.append_assoc] using Follows.before ho h
    | closing =>
      cases ho with
      | none => cases hs
      | inside ho hl' =>
        cases hs
        simpa only [List.append_assoc, List.cons_append, List.nil_append] using
          Follows.behind ho hl' (.parenthesized (hl.finish hf))
    | atom a | opening => cases hs

theorem Reader.Follows.run {ts : List (Token α)} : ∀ {r s : Reader α} {us : List (Token α)},
    r.Follows us → r.run ts = some s → s.Follows (us ++ ts) := by
  induction ts with
  | nil =>
    intro r s us h hs
    cases hs
    rwa [List.append_nil]
  | cons t ts ih =>
    intro r s us h hs
    rw [Reader.run_cons] at hs
    obtain ⟨r', hr, hs⟩ := Option.bind_eq_some_iff.mp hs
    rw [← List.singleton_append, ← List.append_assoc]
    exact ih (h.step hr) hs

theorem Reader.Follows.result {r : Reader α} {ts : List (Token α)} {f : Formula α}
    (h : r.Follows ts) (hf : r.result? = some f) : IsDisjunction ts f := by
  cases h with
  | before ho hl => cases ho <;> cases hf
  | behind ho hl hop =>
    cases ho with
    | none =>
      cases hf
      exact hl.finish hop
    | inside ho hl' => cases hf

/-- **The reader and the grammar agree.** -/
theorem parse?_eq_some_iff {ts : List (Token α)} {f : Formula α} :
    parse? ts = some f ↔ IsDisjunction ts f := by
  constructor
  · intro h
    obtain ⟨r, hr, hf⟩ := Option.bind_eq_some_iff.mp h
    exact (Reader.Follows.run (.before .none Level.follows_empty) hr).result hf
  · intro h
    obtain ⟨level, g, hrun, hf⟩ := h.run []
    unfold parse? Reader.start
    rw [hrun, ← hf]
    rfl

/-! ## Joined expressions -/

/-- Rows of tokens with a separator between any two. -/
def joined (separator : Token α) : List (List (Token α)) → List (Token α)
  | [] => []
  | [ts] => ts
  | ts :: rest => ts ++ separator :: joined separator rest

/-- What is gathered from joined rows is what is gathered from each of them, if the separator gives
nothing. -/
theorem filterMap_joined {β : Type} {separator : Token α} {f : Token α → Option β}
    (hseparator : f separator = none) (tss : List (List (Token α))) :
    (joined separator tss).filterMap f = tss.flatMap (List.filterMap f) := by
  induction tss with
  | nil => rfl
  | cons ts tss ih =>
    cases tss with
    | nil => rw [List.flatMap_singleton]; rfl
    | cons us tss =>
      show (ts ++ separator :: joined separator (us :: tss)).filterMap f = _
      rw [List.flatMap_cons, ← ih, List.filterMap_append, List.filterMap_cons_none hseparator]

/-- Two conjunctions joined by `AND` are one, with the truth of both. -/
theorem IsConjunction.exists_and {ts us : List (Token α)} {f g : Formula α}
    (h : IsConjunction ts f) (hs : IsConjunction us g) :
    ∃ e, IsConjunction (ts ++ .and :: us) e ∧
      ∀ truth, e.eval truth = (f.eval truth).and (g.eval truth) := by
  cases hs with
  | operand hg => exact ⟨_, .and h hg, fun _ => rfl⟩
  | @and ts' us' f' g' hf hg =>
    obtain ⟨e, he, heval⟩ := h.exists_and hf
    refine ⟨.and e g', ?_, fun truth => ?_⟩
    · rw [← List.cons_append, ← List.append_assoc]
      exact .and he hg
    · show (e.eval truth).and (g'.eval truth) = _
      rw [heval, Truth.and_assoc]
      rfl

/-- Two disjunctions joined by `OR` are one, with the truth of either. -/
theorem IsDisjunction.exists_or {ts us : List (Token α)} {f g : Formula α}
    (h : IsDisjunction ts f) (hs : IsDisjunction us g) :
    ∃ e, IsDisjunction (ts ++ .or :: us) e ∧
      ∀ truth, e.eval truth = (f.eval truth).or (g.eval truth) := by
  cases hs with
  | conjunction hg => exact ⟨_, .or h hg, fun _ => rfl⟩
  | @or ts' us' f' g' hf hg =>
    obtain ⟨e, he, heval⟩ := h.exists_or hf
    refine ⟨.or e g', ?_, fun truth => ?_⟩
    · rw [← List.cons_append, ← List.append_assoc]
      exact .or he hg
    · show (e.eval truth).or (g'.eval truth) = _
      rw [heval, Truth.or_assoc]
      rfl

theorem exists_conjunction_joined {tss : List (List (Token α))} {fs : List (Formula α)}
    (h : List.Forall₂ IsConjunction tss fs) (hne : tss ≠ []) :
    ∃ e, IsConjunction (joined .and tss) e ∧
      ∀ truth, e.eval truth = Truth.all (fs.map (Formula.eval truth)) := by
  induction h with
  | nil => exact absurd rfl hne
  | @cons ts f tss fs hf hs ih =>
    cases hs with
    | nil => exact ⟨f, hf, fun truth => (Truth.and_true _).symm⟩
    | cons hg hs =>
      obtain ⟨e, he, heval⟩ := ih (List.cons_ne_nil _ _)
      obtain ⟨e', he', heval'⟩ := hf.exists_and he
      refine ⟨e', he', fun truth => ?_⟩
      rw [heval', heval]
      rfl

theorem exists_disjunction_joined {tss : List (List (Token α))} {fs : List (Formula α)}
    (h : List.Forall₂ IsConjunction tss fs) (hne : tss ≠ []) :
    ∃ e, IsDisjunction (joined .or tss) e ∧
      ∀ truth, e.eval truth = Truth.any (fs.map (Formula.eval truth)) := by
  induction h with
  | nil => exact absurd rfl hne
  | @cons ts f tss fs hf hs ih =>
    cases hs with
    | nil => exact ⟨f, .conjunction hf, fun truth => (Truth.or_false _).symm⟩
    | cons hg hs =>
      obtain ⟨e, he, heval⟩ := ih (List.cons_ne_nil _ _)
      obtain ⟨e', he', heval'⟩ := (IsDisjunction.conjunction hf).exists_or he
      refine ⟨e', he', fun truth => ?_⟩
      rw [heval', heval]
      rfl

end SqlCompiler.Logic
