import SqlCompiler.Log.Checked
import SqlCompiler.Proofs.Lists
import SqlCompiler.Proofs.Log.Outcome
import SqlCompiler.Proofs.Schema.Checking

/-!
# Scopes of contexts

A program opens blocks inside of blocks, writes records and fails, and may catch a failure and go
on. The log keeps a stack for it: entering a block copies the active context and pushes the copy,
and however the block ends, the copy is popped. Nothing of this is seen from outside. A program is
also read without a stack, as a text in which every record stands in certain blocks
(`Program.placed`), and a record shows what the blocks that it stands in say, inner ones before
outer ones. Running a program comes to what its text says, and leaves the stack as it was
(`run_scoped`).
-/

namespace SqlCompiler.Log

/-! ## Programs -/

/-- A program that writes to the log. Fields, and extra members of blocks and records, are given by
name, and what is not accepted is a failure of the program. -/
inductive Program
  | done
  | write (source : Source) (level : Level) (message : String) (extra : Members)
  | fail (e : Error)
  | block (fields extra : Members) (body : Program)
  | sequence (first second : Program)
  | rescue (body : Program) (handler : Error → Program)

/-- Writes a record with extra members. If they are refused, nothing is written. -/
def recordNamed (source : Source) (level : Level) (message : String) (extra : Members) :
    Logged Error Unit :=
  ExceptT.mk fun j =>
    match j.record source level message extra with
    | .ok after => (.ok (), after)
    | .error e => (.error e, j)

/-- Runs a computation as a block whose change is given by name. If the change is refused, the block
is not entered. -/
def blockNamed (fields extra : Members) (action : Logged Error Unit) : Logged Error Unit := do
  let change ← liftM (Change.ofMembers fields extra)
  block change action

namespace Program

/-- Runs a program on the log. -/
def run : Program → Logged Error Unit
  | done => pure ()
  | write source level message extra => recordNamed source level message extra
  | fail e => throw e
  | block fields extra body => blockNamed fields extra body.run
  | sequence first second => do
    first.run
    second.run
  | rescue body handler => tryCatch body.run fun e => (handler e).run

end Program

/-! ## Records and the blocks that they stand in -/

/-- What a block gives: fields by name, and extra members. -/
structure Named where
  fields : Members
  extra : Members

/-- A record, and the blocks that it stands in, innermost first. -/
structure Placed where
  blocks : List Named
  source : Source
  level : Level
  message : String
  extra : Members

/-- Whether members are all named as fields are. -/
def namesFields (members : Members) : Bool :=
  members.all fun (name, _) => (Field.ofName? name).isSome

/-- How a program in some blocks ends, and the records that it writes. -/
def Program.placed (blocks : List Named) : Program → Except Error Unit × List Placed
  | done => (.ok (), [])
  | write source level message extra =>
    match extraOf extra with
    | .ok kept => (.ok (), [⟨blocks, source, level, message, kept⟩])
    | .error e => (.error e, [])
  | fail e => (.error e, [])
  | block fields extra body =>
    if namesFields fields then body.placed (⟨fields, extra⟩ :: blocks)
    else (.error (.misuse .unknownField), [])
  | sequence first second =>
    match first.placed blocks with
    | (.ok (), written) =>
      let (result, more) := second.placed blocks
      (result, written ++ more)
    | (.error e, written) => (.error e, written)
  | rescue body handler =>
    match body.placed blocks with
    | (.ok (), written) => (.ok (), written)
    | (.error e, written) =>
      let (result, more) := (handler e).placed blocks
      (result, written ++ more)

/-- The context in some blocks: a field has the value that the innermost block gives that names it,
and the extra members of inner blocks stand over those of outer ones. -/
def Context.inside (outside : Context) (blocks : List Named) : Context where
  value f := (blocks.findSome? fun b => b.fields.get? f.name).getD (outside.value f)
  extra := blocks.foldr (fun b members => members.merge b.extra) outside.extra

/-- A record as it is written. -/
def Placed.record (outside : Context) (p : Placed) : Record :=
  ⟨p.source, p.level, p.message, (outside.inside p.blocks).members, p.extra⟩

/-! ## Names of fields -/

theorem ofName?_name (f : Field) : Field.ofName? f.name = some f := by
  cases f <;> rfl

theorem name_of_ofName? {name : String} {f : Field} (h : Field.ofName? name = some f) :
    f.name = name :=
  of_decide_eq_true (List.find?_some (p := fun f : Field => f.name = name) h)

/-- Fields of known names are those of the names. -/
theorem lookup_fieldsOf {fields : Members} (h : namesFields fields = true) :
    ∃ found, fieldsOf fields = .ok found ∧ ∀ f, found.lookup f = fields.get? f.name := by
  induction fields with
  | nil => exact ⟨[], rfl, fun _ => rfl⟩
  | cons m fields ih =>
    obtain ⟨name, v⟩ := m
    obtain ⟨hname, hfields⟩ := Bool.and_eq_true_iff.mp h
    obtain ⟨f, hf⟩ := Option.isSome_iff_exists.mp hname
    obtain ⟨found, hfound, hlookup⟩ := ih hfields
    refine ⟨(f, v) :: found, ?_, fun g => ?_⟩
    · unfold fieldsOf
      rw [hf, hfound]
      rfl
    · rw [List.lookup_cons, Members.get?_cons, hlookup]
      by_cases hg : g = f
      · rw [hg, beq_self_eq_true, if_pos (name_of_ofName? hf)]
      · have hne : g.name ≠ name := by
          rintro rfl
          exact hg (Option.some.inj ((ofName?_name g).symm.trans hf))
        rw [beq_false_of_ne hg, if_neg hne]

/-- A name that is no field is refused, wherever it stands. -/
theorem fieldsOf_of_unknown {fields : Members} (h : namesFields fields = false) :
    fieldsOf fields = .error (.misuse .unknownField) := by
  induction fields with
  | nil => cases h
  | cons m fields ih =>
    obtain ⟨name, v⟩ := m
    unfold fieldsOf
    cases hname : Field.ofName? name with
    | none => rfl
    | some f =>
      have hfields : namesFields fields = false := by
        change ((Field.ofName? name).isSome && namesFields fields) = false at h
        rwa [hname] at h
      rw [ih hfields]
      rfl

/-! ## Contexts in blocks -/

/-- The context of a block that is entered in some blocks. -/
theorem enter_inside (outside : Context) (blocks : List Named)
    {fields : Members} {found : List (Field × Value)}
    (h : ∀ f, found.lookup f = fields.get? f.name) (extra : Members) :
    (outside.inside blocks).enter ⟨found, extra⟩ = outside.inside (⟨fields, extra⟩ :: blocks) := by
  unfold Context.enter Context.inside
  congr 1
  funext f
  rw [List.findSome?_cons, h f]
  cases fields.get? f.name <;> rfl

theorem inside_nil (outside : Context) : outside.inside [] = outside := rfl

/-- Under a key stands the value of the first field that is named so and has one. -/
theorem get?_fieldMembers (c : Context) (fields : List Field) (key : String) :
    Members.get? (fields.filterMap fun f =>
        if (c.value f).isNull then none else some (f.name, c.value f)) key =
      fields.findSome? fun f =>
        if f.name = key ∧ ¬ (c.value f).isNull then some (c.value f) else none := by
  induction fields with
  | nil => rfl
  | cons f fields ih =>
    rw [List.filterMap_cons, List.findSome?_cons]
    by_cases hnull : (c.value f).isNull
    · rw [if_pos hnull, if_neg fun h => h.2 hnull]
      exact ih
    · rw [if_neg hnull]
      refine (Members.get?_cons ..).trans ?_
      by_cases hkey : f.name = key
      · rw [if_pos hkey.symm, if_pos ⟨hkey, hnull⟩]
      · rw [if_neg (Ne.symm hkey), if_neg fun h => hkey h.1]
        exact ih

/-- Under the name of a field, a context shows the value that the field has. -/
theorem get?_members (c : Context) (key : String) :
    c.members.get? key =
      (c.extra.reverse.lookup key).or ((Field.ofName? key).bind fun f =>
        if (c.value f).isNull then none else some (c.value f)) := by
  unfold Context.members
  rw [Members.get?_merge, get?_fieldMembers]
  congr 1
  cases hkey : Field.ofName? key with
  | none =>
    refine List.findSome?_eq_none_iff.mpr fun f _ => if_neg fun h => ?_
    rw [← h.1, ofName?_name] at hkey
    cases hkey
  | some f =>
    obtain rfl := name_of_ofName? hkey
    by_cases hnull : (c.value f).isNull <;> cases f <;>
      simp [Field.all, Field.name, hnull]

theorem nodup_keys_extra_inside {c : Context} (h : c.extra.keys.Nodup) (blocks : List Named) :
    (c.inside blocks).extra.keys.Nodup := by
  induction blocks with
  | nil => exact h
  | cons b blocks ih => exact Members.nodup_keys_merge ih b.extra

theorem get?_extra_inside (outside : Context) (blocks : List Named) (key : String) :
    (outside.inside blocks).extra.get? key =
      (blocks.findSome? fun b => b.extra.reverse.lookup key).or (outside.extra.get? key) := by
  induction blocks with
  | nil => rfl
  | cons b blocks ih =>
    show (Members.merge (outside.inside blocks).extra b.extra).get? key = _
    rw [Members.get?_merge, ih, List.findSome?_cons]
    cases b.extra.reverse.lookup key <;> rfl

/-- Outside of every block, no field has a value. -/
theorem value?_inside (blocks : List Named) (f : Field) :
    (if ((Context.empty.inside blocks).value f).isNull then none
      else some ((Context.empty.inside blocks).value f)) =
      (blocks.findSome? fun b => b.fields.get? f.name).filter fun v => !v.isNull := by
  show (if (Option.getD (blocks.findSome? fun b : Named => b.fields.get? f.name) .null).isNull
    then none else some ((blocks.findSome? fun b : Named => b.fields.get? f.name).getD .null)) = _
  rcases blocks.findSome? fun b : Named => b.fields.get? f.name with _ | v
  · rfl
  · cases v <;> rfl

/-! ## Runs -/

theorem run_recordNamed (source : Source) (level : Level) (message : String) (extra : Members)
    (j : Journal) :
    (recordNamed source level message extra).run j =
      match extraOf extra with
      | .ok kept => (.ok (), j.write source level message kept)
      | .error e => (.error e, j) := by
  show (match extraOf extra >>= fun kept => pure (j.write source level message kept) with
    | .ok after => _
    | .error e => _) = _
  cases extraOf extra <;> rfl

theorem active_enter (j : Journal) (change : Change) :
    (j.enter change).active = j.active.enter change := rfl

theorem journal_append_nil (j : Journal) : (⟨j.contexts, j.records ++ []⟩ : Journal) = j := by
  rw [List.append_nil]

/-- **A program in blocks.** From a journal whose active context is that of some blocks, a program
ends as it does in these blocks, and leaves the stack behind that it found, and the records that it
writes in these blocks. -/
theorem run_eq_placed (p : Program) {outside : Context} {blocks : List Named} {j : Journal}
    (h : j.active = outside.inside blocks) :
    p.run.run j = ((p.placed blocks).1,
      ⟨j.contexts, j.records ++ (p.placed blocks).2.map (Placed.record outside)⟩) := by
  induction p generalizing blocks j with
  | done => exact congrArg (Prod.mk _) (journal_append_nil j).symm
  | write source level message extra =>
    unfold Program.run Program.placed
    rw [run_recordNamed]
    cases extraOf extra with
    | error e => exact congrArg (Prod.mk _) (journal_append_nil j).symm
    | ok kept =>
      unfold Journal.write
      rw [h]
      rfl
  | fail e => exact congrArg (Prod.mk _) (journal_append_nil j).symm
  | block fields extra body ih =>
    unfold Program.run Program.placed blockNamed
    rw [run_bind]
    split_ifs with hknown
    · obtain ⟨found, hfound, hlookup⟩ := lookup_fieldsOf hknown
      have hactive : (j.enter ⟨found, extra⟩).active =
          outside.inside (⟨fields, extra⟩ :: blocks) := by
        rw [active_enter, h]
        exact enter_inside outside blocks hlookup extra
      have hchange : Change.ofMembers fields extra = .ok ⟨found, extra⟩ := by
        unfold Change.ofMembers
        rw [hfound]
        rfl
      rw [hchange]
      show ((body.run.run (j.enter ⟨found, extra⟩)).1,
        ((body.run.run (j.enter ⟨found, extra⟩)).2).leave) = _
      rw [ih hactive]
      rfl
    · have hchange : Change.ofMembers fields extra = .error (.misuse .unknownField) := by
        unfold Change.ofMembers
        rw [fieldsOf_of_unknown (eq_false_of_ne_true hknown)]
        rfl
      rw [hchange]
      exact congrArg (Prod.mk _) (journal_append_nil j).symm
  | sequence first second ihfirst ihsecond =>
    unfold Program.run Program.placed
    rw [run_bind, ihfirst h]
    rcases first.placed blocks with ⟨e | _, written⟩
    · rfl
    · have hsecond := ihsecond
        (j := ⟨j.contexts, j.records ++ written.map (Placed.record outside)⟩) h
      dsimp only
      rw [hsecond, List.map_append, List.append_assoc]
  | rescue body handler ihbody ihhandler =>
    unfold Program.run Program.placed
    rw [run_tryCatch, ihbody h]
    rcases body.placed blocks with ⟨e | _, written⟩
    · have hhandler := ihhandler e
        (j := ⟨j.contexts, j.records ++ written.map (Placed.record outside)⟩) h
      dsimp only
      rw [hhandler, List.map_append, List.append_assoc]
    · rfl

/-- **Contexts nest, and what is outside of a block is found again behind it.** A program that runs
outside of every block ends as its text says, and leaves the records that its text says. Whatever
block a program is run in, the open contexts behind it are those before it, also where it fails, and
also where it is a block that is refused. A record shows under a key what the innermost block around
it that has an extra member there says, and else, if the key names a field, what the innermost block
says that names the field, unless that is null. -/
theorem run_scoped (p : Program) (records : List Record) :
    p.run.run ⟨[], records⟩ =
        ((p.placed []).1, ⟨[], records ++ (p.placed []).2.map (Placed.record .empty)⟩) ∧
      (∀ j, (p.run.run j).2.contexts = j.contexts) ∧
      ∀ blocks key, (Context.empty.inside blocks).members.get? key =
        (blocks.findSome? fun b => b.extra.reverse.lookup key).or
          ((Field.ofName? key).bind fun f =>
            (blocks.findSome? fun b => b.fields.get? f.name).filter fun v => !v.isNull) := by
  refine ⟨run_eq_placed p rfl, fun j => ?_, fun blocks key => ?_⟩
  · rw [run_eq_placed p (inside_nil j.active).symm]
  · have hkeys := nodup_keys_extra_inside (c := .empty) List.nodup_nil blocks
    have hextra : (Context.empty.inside blocks).extra.reverse.lookup key =
        blocks.findSome? fun b => b.extra.reverse.lookup key :=
      (lookup_eq_of_perm (List.reverse_perm _).symm hkeys key).trans
        ((get?_extra_inside .empty blocks key).trans Option.or_none)
    rw [get?_members, hextra]
    congr 2
    funext f
    exact value?_inside blocks f

end SqlCompiler.Log
