import SqlCompiler.Freshness.Generate
import SqlCompiler.Proofs.Log.Outcome

/-!
# Ensuring schemas step by step

Ensuring schemas looks at files many times before it writes one: once for each check, once for each
class, and any of these may fail. Here it runs step by step on a world of files, in which what was
done before a failure stays done. Steps that only look at files come one after another to one look
(`look_bind`), up to the one step that writes. So a run ends as `ensureSchemas` says, and when it
fails the files are as they were (`run_eq`).
-/

namespace SqlCompiler

namespace Freshness

open Log (Logged)

/-! ## Computations that act -/

/-- What others can see of a call: that it generates schemas, and that it writes a file. -/
inductive Deed
  | generate
  | write (file : String)
deriving DecidableEq

/-- The files as they are, and what was done so far, in order. -/
structure World where
  tree : FileTree
  deeds : List Deed

/-- How a computation ends. -/
structure Ending (α : Type) where
  result : Except Error α
  world : World
  journal : Log.Journal

/-- A computation that reads and writes files. -/
def Acting (α : Type) :=
  World → Log.Journal → Ending α

/-- The documents of schemas, under their names. -/
def documentsOf (schemas : List (String × Schema)) : Except Error Members :=
  schemas.mapM fun (name, s) => return (name, ← s.document)

theorem schemasDocument_eq (schemas : List (String × Schema)) :
    schemasDocument schemas = (documentsOf schemas).map .object := by
  show (documentsOf schemas >>= fun members => pure (Value.object members)) = _
  cases documentsOf schemas <;> rfl

namespace Acting

variable {α β : Type}

/-- After a failure nothing more is done, and nothing is undone. -/
instance : Monad Acting where
  pure x w j := ⟨.ok x, w, j⟩
  bind a f w j :=
    match a w j with
    | ⟨.ok x, w, j⟩ => f x w j
    | ⟨.error e, w, j⟩ => ⟨.error e, w, j⟩

/-- Computes something from the files as they are. -/
def look (f : FileTree → Logged Error α) : Acting α := fun w j =>
  let (result, j) := (f w.tree).run j
  ⟨result, w, j⟩

/-- Fails. -/
def fail (e : Error) : Acting α :=
  look fun _ => throw e

/-- Takes down what is done. -/
def takeDown (d : Deed) : Acting Unit := fun w j =>
  ⟨.ok (), { w with deeds := w.deeds ++ [d] }, j⟩

/-- Writes a file. -/
def write (file : String) (content : List UInt8) (t : Instant) : Acting Unit := fun w j =>
  match w.tree.write (Path.ofText file) content t with
  | .ok tree => ⟨.ok (), ⟨tree, w.deeds ++ [.write file]⟩, j⟩
  | .error e => ⟨.error (.file e), w, j⟩

/-- Runs a computation outside of every open context. -/
def apart (a : Acting α) : Acting α := fun w j =>
  let after := a w { j with contexts := [] }
  { after with journal := { after.journal with contexts := j.contexts } }

/-! ## The steps of ensuring -/

/-- Checks one schema after the other. -/
def outdatedNames (base : Option BaseDirectory) :
    List (String × SchemaSource) → Acting (List String)
  | [] => return []
  | (name, schema) :: rest => do
    let outdated ← look fun tree => isOutdated tree base schema
    let names ← outdatedNames base rest
    return if outdated then name :: names else names

def outdatedSchemas (base : Option BaseDirectory) (settings : FreshnessSettings)
    (schemas : List (String × SchemaSource)) : Acting (List String) := do
  if schemas.isEmpty then return []
  let _ ← look fun _ => liftM (chooseWorkers none settings)
  let names ← apart (outdatedNames base schemas)
  look fun _ => Log.emit source .info
    (intText names.length ++ " of " ++ intText schemas.length ++ " schemas outdated")
  return names

/-- Stamps one class after the other. -/
def stampAll (stamping : Stamping) (descriptions : Descriptions) :
    ClassFiles → Acting (List (String × Schema))
  | [] => return []
  | (name, file) :: rest =>
    match descriptions.lookup name with
    | none => fail (.schema (.notGenerated name))
    | some description => do
      let s ← look fun tree => liftM
        (stampClass { stamping with tree } name (Path.ofText file) description)
      let schemas ← stampAll stamping descriptions rest
      return (name, s) :: schemas

def generateSchemas (stamping : Stamping) (generator : Option Generator) (files : ClassFiles) :
    Acting Generated := do
  takeDown .generate
  let some generator := generator | fail (.schema .noGenerator)
  let base := stamping.base.map BaseDirectory.toText
  let classes := files.map (·.1)
  look fun _ => Log.emit source .debug
    (generatingMessage classes base stamping.baseColumns.isSome)
  let descriptions ← look fun _ => generator files base
  let schemas ← stampAll stamping descriptions files
  look fun _ => Log.emit source .info ("Generated " ++ intText schemas.length ++ " schemas")
  return ⟨schemas, [⟨classes, base⟩]⟩

/-- Makes the document of one schema after the other. -/
def documents : List (String × Schema) → Acting Members
  | [] => return []
  | (name, s) :: rest => do
    let document ← look fun _ => liftM s.document
    let members ← documents rest
    return (name, document) :: members

def saveSchemas (file : String) (schemas : List (String × Schema)) (now : Instant) :
    Acting Unit := do
  let members ← documents schemas
  write file (Text.utf8 (Json.text .indented (.object members))) now

def regenerate (stamping : Stamping) (generator : Option Generator) (files : ClassFiles)
    (schemasFile : Option String) : Acting Generated := do
  let fresh ← generateSchemas stamping generator files
  match schemasFile with
  | none => return fresh
  | some file =>
    saveSchemas file fresh.schemas stamping.now
    look fun _ => Log.emit source .info
      ("Wrote " ++ intText fresh.schemas.length ++ " schemas to " ++ file)
    return fresh

/-- Reads one schema after the other. -/
def readAll : List (String × SchemaSource) → Acting (List (String × Schema))
  | [] => return []
  | (name, source) :: rest => do
    let s ← look fun _ => liftM source.toSchema
    let schemas ← readAll rest
    return (name, s) :: schemas

def ensure (stamping : Stamping) (settings : FreshnessSettings)
    (given : List (String × SchemaSource)) (generator : Option Generator) (files : ClassFiles)
    (schemasFile : Option String) : Acting Generated := do
  if given.isEmpty then regenerate stamping generator files schemasFile
  else
    let outdated ← outdatedSchemas stamping.base settings given
    if outdated.isEmpty then
      let schemas ← readAll given
      return ⟨schemas, []⟩
    else
      look fun _ => Log.emit source .info
        ("Regenerating schemas, outdated: " ++ Value.displayNames outdated)
      regenerate stamping generator files schemasFile

/-! ## Looking -/

theorem pure_eq_look (x : α) : (pure x : Acting α) = look fun _ => pure x := rfl

theorem bind_apply (a : Acting α) (f : α → Acting β) (w : World) (j : Log.Journal) :
    (a >>= f) w j =
      match a w j with
      | ⟨.ok x, w, j⟩ => f x w j
      | ⟨.error e, w, j⟩ => ⟨.error e, w, j⟩ := rfl

/-- Two looks one after the other are one look. -/
theorem look_bind (f : FileTree → Logged Error α) (g : α → FileTree → Logged Error β) :
    (look f >>= fun x => look (g x)) = look fun tree => f tree >>= fun x => g x tree := by
  funext w j
  rw [bind_apply]
  unfold look
  rw [run_bind]
  rcases (f w.tree).run j with ⟨_ | _, _⟩ <;> rfl

theorem apart_look (f : FileTree → Logged Error α) :
    apart (look f) = look fun tree => Log.apart (f tree) := rfl

theorem lift_bind (x : Except Error α) (f : α → Except Error β) :
    (liftM (x >>= f) : Logged Error β) = liftM x >>= fun a => liftM (f a) := by
  cases x <;> rfl

theorem lift_pure (x : α) : (liftM (pure x : Except Error α) : Logged Error α) = pure x := rfl

theorem outdatedNames_eq (base : Option BaseDirectory) (given : List (String × SchemaSource)) :
    outdatedNames base given = look fun tree => Freshness.outdatedNames tree base given := by
  induction given with
  | nil => rfl
  | cons p given ih =>
    obtain ⟨name, schema⟩ := p
    unfold outdatedNames
    simp only [ih, pure_eq_look, look_bind]
    rfl

theorem outdatedSchemas_eq (base : Option BaseDirectory) (settings : FreshnessSettings)
    (given : List (String × SchemaSource)) : outdatedSchemas base settings given =
      look fun tree => Freshness.outdatedSchemas tree base settings none given := by
  unfold outdatedSchemas Freshness.outdatedSchemas
  split
  · rfl
  · simp only [outdatedNames_eq, apart_look, pure_eq_look, look_bind]

theorem stampAll_eq (stamping : Stamping) (descriptions : Descriptions) (files : ClassFiles) :
    stampAll stamping descriptions files =
      look fun tree => liftM (Freshness.stampAll { stamping with tree } descriptions files) := by
  induction files with
  | nil => rfl
  | cons p files ih =>
    obtain ⟨name, file⟩ := p
    unfold stampAll Freshness.stampAll
    simp only [ih, pure_eq_look, look_bind]
    cases descriptions.lookup name with
    | none => rfl
    | some description =>
      simp only [lift_bind]
      rfl

theorem generateSchemas_eq (stamping : Stamping) (generator : Option Generator)
    (files : ClassFiles) : generateSchemas stamping generator files =
      takeDown .generate >>= fun _ => look fun tree =>
        Freshness.generateSchemas { stamping with tree } generator files := by
  unfold generateSchemas Freshness.generateSchemas
  refine congrArg (takeDown .generate >>= ·) (funext fun _ => ?_)
  cases generator with
  | none => rfl
  | some generator =>
    simp only [stampAll_eq, pure_eq_look, look_bind]

theorem documents_eq (schemas : List (String × Schema)) : documents schemas =
    look fun _ => liftM (documentsOf schemas) := by
  unfold documentsOf
  induction schemas with
  | nil => rfl
  | cons p schemas ih =>
    obtain ⟨name, s⟩ := p
    unfold documents
    simp only [ih, pure_eq_look, look_bind, List.mapM_cons, lift_bind, lift_pure, bind_assoc,
      pure_bind]

theorem readAll_eq (given : List (String × SchemaSource)) :
    readAll given = look fun _ => liftM (Freshness.readAll given) := by
  unfold Freshness.readAll
  induction given with
  | nil => rfl
  | cons p given ih =>
    obtain ⟨name, source⟩ := p
    unfold readAll
    simp only [ih, pure_eq_look, look_bind, List.mapM_cons, lift_bind, lift_pure, bind_assoc,
      pure_bind]

/-! ## How ensuring ends -/

theorem look_bind_apply (f : FileTree → Logged Error α) (g : α → Acting β) (w : World)
    (j : Log.Journal) : (look f >>= g) w j =
      match (f w.tree).run j with
      | (.ok x, j) => g x w j
      | (.error e, j) => ⟨.error e, w, j⟩ := by
  rw [bind_apply]
  unfold look
  rcases (f w.tree).run j with ⟨_ | _, _⟩ <;> rfl

theorem saveSchemas_eq (file : String) (schemas : List (String × Schema)) (now : Instant)
    (w : World) (j : Log.Journal) : saveSchemas file schemas now w j =
      match Freshness.saveSchemas w.tree file schemas now with
      | .ok tree => ⟨.ok (), ⟨tree, w.deeds ++ [Deed.write file]⟩, j⟩
      | .error e => ⟨.error e, w, j⟩ := by
  unfold saveSchemas Freshness.saveSchemas
  rw [documents_eq, look_bind_apply, schemasDocument_eq]
  rcases documentsOf schemas with e | members
  · rfl
  · show write file _ now w j = _
    unfold write
    show _ = (match ofFile (w.tree.write (Path.ofText file)
      (Text.utf8 (Json.text .indented (.object members))) now) with
      | .ok tree => (⟨.ok (), ⟨tree, w.deeds ++ [Deed.write file]⟩, j⟩ : Ending Unit)
      | .error e => ⟨.error e, w, j⟩)
    rcases w.tree.write (Path.ofText file)
      (Text.utf8 (Json.text .indented (.object members))) now with e | tree <;> rfl

/-- The ending of a call that comes to a result. After a failure the files are as before. -/
def ending (before : FileTree) (deeds : List Deed) :
    Except Error Ensured × Log.Journal → Ending Generated
  | (.ok e, j) => ⟨.ok ⟨e.schemas, e.calls⟩, ⟨e.tree, deeds⟩, j⟩
  | (.error e, j) => ⟨.error e, ⟨before, deeds⟩, j⟩

theorem result_ending (before : FileTree) (deeds : List Deed)
    (outcome : Except Error Ensured × Log.Journal) : (ending before deeds outcome).result =
      outcome.1.map fun ensured => ⟨ensured.schemas, ensured.calls⟩ := by
  rcases outcome with ⟨_ | _, _⟩ <;> rfl

theorem tree_ending (before : FileTree) (deeds : List Deed)
    (outcome : Except Error Ensured × Log.Journal) : (ending before deeds outcome).world.tree =
      match outcome.1 with
      | .ok ensured => ensured.tree
      | .error _ => before := by
  rcases outcome with ⟨_ | _, _⟩ <;> rfl

theorem deeds_ending (before : FileTree) (deeds : List Deed)
    (outcome : Except Error Ensured × Log.Journal) : (ending before deeds outcome).world.deeds =
      deeds := by
  rcases outcome with ⟨_ | _, _⟩ <;> rfl

/-- What is written on the way to a result. -/
def written (schemasFile : Option String) : Except Error Ensured → List Deed
  | .ok _ => schemasFile.toList.map Deed.write
  | .error _ => []

variable (stamping : Stamping) (settings : FreshnessSettings)
  (given : List (String × SchemaSource)) (generator : Option Generator) (files : ClassFiles)
  (schemasFile : Option String) (j : Log.Journal)

theorem regenerate_eq (deeds : List Deed) :
    regenerate stamping generator files schemasFile ⟨stamping.tree, deeds⟩ j =
      ending stamping.tree
        (deeds ++ .generate :: written schemasFile
          ((Freshness.regenerate stamping generator files schemasFile).run j).1)
        ((Freshness.regenerate stamping generator files schemasFile).run j) := by
  have hstart : regenerate stamping generator files schemasFile ⟨stamping.tree, deeds⟩ j =
      (look (fun tree => Freshness.generateSchemas { stamping with tree } generator files) >>=
        fun fresh => match schemasFile with
          | none => pure fresh
          | some file => saveSchemas file fresh.schemas stamping.now >>= fun _ =>
            look (fun _ => Log.emit source .info
              ("Wrote " ++ intText fresh.schemas.length ++ " schemas to " ++ file)) >>= fun _ =>
            pure fresh) ⟨stamping.tree, deeds ++ [.generate]⟩ j := by
    unfold regenerate
    rw [generateSchemas_eq]
    rfl
  rw [hstart, look_bind_apply]
  unfold Freshness.regenerate
  rw [run_bind]
  rcases (Freshness.generateSchemas stamping generator files).run j with ⟨e | fresh, j⟩
  · rfl
  · cases schemasFile with
    | none => rfl
    | some file =>
      dsimp only
      rw [bind_apply, saveSchemas_eq, run_bind]
      rcases Freshness.saveSchemas stamping.tree file fresh.schemas stamping.now with e | tree
      · rfl
      · have hdeeds : deeds ++ [Deed.generate, Deed.write file] =
            deeds ++ [.generate] ++ [.write file] := by
          rw [List.append_assoc, List.singleton_append]
        show _ = ending _ (deeds ++ [.generate, .write file]) _
        rw [hdeeds]
        rfl

/-- Generation is due if nothing is given or if something is found outdated. -/
def Due : Prop :=
  given = [] ∨ ∃ name names,
    (Freshness.outdatedSchemas stamping.tree stamping.base settings none given).outcome j =
      .ok (name :: names)

/-- How a call ends that finds the files of a stamping. -/
def run : Ending Generated :=
  ensure stamping settings given generator files schemasFile ⟨stamping.tree, []⟩ j

/-- **Step by step.** Ensuring ends as `ensureSchemas` says, and the files are as they were if it
fails. Schemas are generated if that is due, and written if this succeeds. -/
theorem run_eq : ∃ deeds, run stamping settings given generator files schemasFile j =
      ending stamping.tree deeds
        ((ensureSchemas stamping settings given generator files schemasFile).run j) ∧
    (Due stamping settings given j → deeds = .generate :: written schemasFile
      ((ensureSchemas stamping settings given generator files schemasFile).outcome j)) ∧
    (¬ Due stamping settings given j → deeds = []) := by
  unfold run ensure ensureSchemas Log.Logged.outcome
  by_cases hempty : given.isEmpty = true
  · rw [if_pos hempty, if_pos hempty]
    exact ⟨_, regenerate_eq _ _ _ _ _ [], fun _ => rfl,
      fun hnot => absurd (.inl (List.isEmpty_iff.mp hempty)) hnot⟩
  · rw [if_neg hempty, if_neg hempty, outdatedSchemas_eq, look_bind_apply, run_bind]
    have hne : given ≠ [] := fun hnil => hempty (hnil ▸ rfl)
    have hdue : Due stamping settings given j ↔ ∃ name names,
        ((Freshness.outdatedSchemas stamping.tree stamping.base settings none given).run j).1 =
          .ok (name :: names) := or_iff_right hne
    rw [hdue]
    rcases (Freshness.outdatedSchemas stamping.tree stamping.base settings none given).run j with
      ⟨e | outdated, j⟩
    · refine ⟨[], rfl, ?_, fun _ => rfl⟩
      rintro ⟨_, _, h⟩
      cases h
    · cases outdated with
      | nil =>
        refine ⟨[], ?_, ?_, fun _ => rfl⟩
        · dsimp only
          rw [if_pos List.isEmpty_nil, if_pos List.isEmpty_nil, readAll_eq, look_bind_apply]
          cases Freshness.readAll given <;> rfl
        · rintro ⟨_, _, h⟩
          cases h
      | cons name names =>
        refine ⟨_, ?_, fun _ => rfl, fun hnot => absurd ⟨name, names, rfl⟩ hnot⟩
        exact regenerate_eq _ _ _ _ _ []

end Acting

end Freshness

end SqlCompiler
