import SqlCompiler.Proofs.Files.Tree
import SqlCompiler.Proofs.Freshness.Deeds
import SqlCompiler.Proofs.Freshness.Ensuring

/-!
# All schemas or none

A call that ensures schemas writes them all to their file or leaves the file alone. When it fails,
in a check, in the generator, at a class in the middle or at a document, the files are as they were;
when it succeeds after a generation the file has an entry for every class, in order
(`ensure_allOrNone`).
-/

namespace SqlCompiler.Freshness

variable {stamping : Stamping} {settings : FreshnessSettings}
  {given : List (String × SchemaSource)} {schemas : List (String × Schema)}
  {generator : Option Generator} {files : ClassFiles} {schemasFile : Option String}
  {j : Log.Journal} {ensured : Ensured} {tree tree' : FileTree} {base : Option BaseDirectory}
  {source : SchemaSource} {file : String} {now : Instant}

/-! ## What checks find -/

theorem quiet_isOutdated (tree : FileTree) (base : Option BaseDirectory) (source : SchemaSource) :
    Log.Quiet (isOutdated tree base source) := by
  unfold isOutdated
  refine (Log.quiet_lift _).bind fun s => (Log.quiet_lift _).bind fun p => .block _ ?_
  refine (Log.quiet_lift _).bind fun verdict => ?_
  cases verdict with
  | fresh => exact Log.quiet_pure _
  | modifiedLater modified =>
    exact (Log.quiet_emit (by decide)).bind fun _ => Log.quiet_pure true
  | contentChanged tag => exact (Log.quiet_emit (by decide)).bind fun _ => Log.quiet_pure true

/-- The check of a schema finds that it is outdated, or that it is not. -/
def Finds (tree : FileTree) (base : Option BaseDirectory) (source : SchemaSource)
    (outdated : Bool) : Prop :=
  (isOutdated tree base source).outcome .empty = .ok outdated

theorem outcome_isOutdated_iff {outdated : Bool} :
    (isOutdated tree base source).outcome j = .ok outdated ↔ Finds tree base source outdated := by
  rw [(quiet_isOutdated tree base source).outcome j .empty]
  exact Iff.rfl

theorem Finds.eq {outdated outdated' : Bool} (h : Finds tree base source outdated)
    (h' : Finds tree base source outdated') : outdated = outdated' :=
  Except.ok.inj (h.symm.trans h')

/-- What the checks of schemas find: the names of the outdated ones, in order. -/
inductive Found (tree : FileTree) (base : Option BaseDirectory) :
    List (String × SchemaSource) → List String → Prop
  | nil : Found tree base [] []
  | outdated {name : String} {source : SchemaSource} {rest : List (String × SchemaSource)}
      {names : List String} (h : Finds tree base source true) (hrest : Found tree base rest names) :
      Found tree base ((name, source) :: rest) (name :: names)
  | upToDate {name : String} {source : SchemaSource} {rest : List (String × SchemaSource)}
      {names : List String} (h : Finds tree base source false)
      (hrest : Found tree base rest names) : Found tree base ((name, source) :: rest) names

theorem outdatedNames_eq_ok_iff {names : List String} :
    (outdatedNames tree base given).outcome j = .ok names ↔ Found tree base given names := by
  induction given generalizing j names with
  | nil =>
    constructor
    · intro h
      obtain rfl : [] = names := Except.ok.inj h
      exact .nil
    · intro h
      cases h
      rfl
  | cons p given ih =>
    obtain ⟨name, source⟩ := p
    rw [outdatedNames, Log.outcome_bind_eq_ok_iff]
    constructor
    · rintro ⟨outdated, hfirst, h⟩
      obtain ⟨rest, hrest, h⟩ := Log.outcome_bind_eq_ok_iff.mp h
      obtain rfl : (if outdated then name :: rest else rest) = names := Except.ok.inj h
      cases outdated with
      | true => exact .outdated (outcome_isOutdated_iff.mp hfirst) (ih.mp hrest)
      | false => exact .upToDate (outcome_isOutdated_iff.mp hfirst) (ih.mp hrest)
    · intro h
      cases h with
      | outdated h hrest =>
        exact ⟨true, outcome_isOutdated_iff.mpr h,
          Log.outcome_bind_eq_ok_iff.mpr ⟨_, ih.mpr hrest, rfl⟩⟩
      | upToDate h hrest =>
        exact ⟨false, outcome_isOutdated_iff.mpr h,
          Log.outcome_bind_eq_ok_iff.mpr ⟨_, ih.mpr hrest, rfl⟩⟩

/-- All checks succeed, and some schema is found outdated. -/
structure SomeOutdated (tree : FileTree) (base : Option BaseDirectory)
    (given : List (String × SchemaSource)) : Prop where
  checked : ∀ p ∈ given, ∃ outdated, Finds tree base p.2 outdated
  outdated : ∃ p ∈ given, Finds tree base p.2 true

theorem Found.checked {names : List String} (h : Found tree base given names) :
    ∀ p ∈ given, ∃ outdated, Finds tree base p.2 outdated := by
  induction h with
  | nil => exact List.forall_mem_nil _
  | outdated h _ ih => exact List.forall_mem_cons.mpr ⟨⟨true, h⟩, ih⟩
  | upToDate h _ ih => exact List.forall_mem_cons.mpr ⟨⟨false, h⟩, ih⟩

theorem exists_found (h : ∀ p ∈ given, ∃ outdated, Finds tree base p.2 outdated) :
    ∃ names, Found tree base given names := by
  induction given with
  | nil => exact ⟨[], .nil⟩
  | cons p given ih =>
    obtain ⟨⟨outdated, hfirst⟩, hrest⟩ := List.forall_mem_cons.mp h
    obtain ⟨names, hnames⟩ := ih hrest
    cases outdated with
    | true => exact ⟨p.1 :: names, .outdated hfirst hnames⟩
    | false => exact ⟨names, .upToDate hfirst hnames⟩

theorem Found.eq_nil_iff {names : List String} (h : Found tree base given names) :
    names = [] ↔ ∀ p ∈ given, ¬ Finds tree base p.2 true := by
  induction h with
  | nil => exact iff_of_true rfl (List.forall_mem_nil _)
  | outdated h _ _ =>
    exact iff_of_false (List.cons_ne_nil _ _) fun hnone => (List.forall_mem_cons.mp hnone).1 h
  | upToDate h _ ih =>
    rw [ih, List.forall_mem_cons]
    exact (and_iff_right fun h' => Bool.false_ne_true (h.eq h')).symm

/-- Names are found exactly if all checks succeed and some schema is outdated. -/
theorem exists_found_cons_iff : (∃ name names, Found tree base given (name :: names)) ↔
    SomeOutdated tree base given := by
  constructor
  · rintro ⟨name, names, h⟩
    refine ⟨h.checked, ?_⟩
    have hsome := mt h.eq_nil_iff.mpr (List.cons_ne_nil _ _)
    simpa using hsome
  · rintro ⟨hchecked, p, hp, houtdated⟩
    obtain ⟨names, h⟩ := exists_found hchecked
    cases names with
    | nil => exact absurd houtdated (h.eq_nil_iff.mp rfl p hp)
    | cons name names => exact ⟨name, names, h⟩

/-- Schemas are generated if none are given, or if all checks succeed and some schema is outdated.
-/
theorem due_iff : Acting.Due stamping settings given j ↔
    given = [] ∨ WorkersAllowed settings ∧ SomeOutdated stamping.tree stamping.base given := by
  unfold Acting.Due
  by_cases hne : given = []
  · exact iff_of_true (.inl hne) (.inl hne)
  · rw [or_iff_right hne, or_iff_right hne, ← exists_found_cons_iff]
    simp only [outdatedSchemas_eq_ok_iff hne, outdatedNames_eq_ok_iff, exists_and_left]

/-! ## What is saved -/

/-- A file holds schemas: its content is the text of one object that has, for each of some names in
order, the document of the schema under that name. -/
def HoldsSchemas (tree : FileTree) (file : String) (names : List String)
    (schemas : List (String × Schema)) : Prop :=
  ∃ documents, tree.read (Path.ofText file) =
      .ok (Text.utf8 (Json.text .indented (.object documents))) ∧
    documents.map (·.1) = names ∧ HaveDocuments schemas documents

/-- All but one file is as before. -/
def SameBeside (path : Path) (tree tree' : FileTree) : Prop :=
  ∀ key, tree.key path ≠ .ok key → tree'.node? key = tree.node? key

/-- Schemas are saved to a file, if there is one, and all else is as before. -/
def SavedTo (schemasFile : Option String) (names : List String) (before after : FileTree)
    (schemas : List (String × Schema)) : Prop :=
  match schemasFile with
  | none => after = before
  | some file =>
    HoldsSchemas after file names schemas ∧ SameBeside (Path.ofText file) before after

theorem documentsOf_eq_ok_iff {documents : Members} :
    documentsOf schemas = .ok documents ↔ HaveDocuments schemas documents :=
  Log.mapM_named_eq_ok_iff

theorem holdsSchemas_of_saveSchemas (h : saveSchemas tree file schemas now = .ok tree') :
    HoldsSchemas tree' file (schemas.map (·.1)) schemas ∧
      SameBeside (Path.ofText file) tree tree' := by
  unfold saveSchemas at h
  rw [schemasDocument_eq] at h
  obtain ⟨document, hdocument, h⟩ := Log.bind_eq_ok_iff.mp h
  have hwrite := ofFile_eq_ok_iff.mp h
  rcases hdocuments : documentsOf schemas with e | documents
  · rw [hdocuments] at hdocument
    cases hdocument
  · rw [hdocuments] at hdocument
    obtain rfl : Value.object documents = document := Except.ok.inj hdocument
    have hhave := documentsOf_eq_ok_iff.mp hdocuments
    exact ⟨⟨documents, FileTree.read_of_write hwrite,
      (map_eq_map_of_forall₂ hhave fun _ _ h => h.1).symm, hhave⟩,
      FileTree.node?_of_write hwrite⟩

/-- What a regeneration that succeeds has left behind. -/
theorem savedTo_of_regenerate
    (h : (regenerate stamping generator files schemasFile).outcome j = .ok ensured) :
    SavedTo schemasFile (files.map (·.1)) stamping.tree ensured.tree ensured.schemas := by
  obtain ⟨generated, hgenerated, h⟩ := Log.outcome_bind_eq_ok_iff.mp h
  cases schemasFile with
  | none =>
    obtain rfl := Except.ok.inj h
    rfl
  | some file =>
    obtain ⟨tree, hsaved, h⟩ := Log.outcome_bind_eq_ok_iff.mp h
    obtain ⟨_, _, h⟩ := Log.outcome_bind_eq_ok_iff.mp h
    obtain rfl := Except.ok.inj h
    rw [Log.outcome_lift] at hsaved
    obtain ⟨descriptions, hall⟩ := stampAll_of_generateSchemas hgenerated
    rw [← names_of_isStamped (stampAll_eq_ok_iff.mp hall)]
    exact holdsSchemas_of_saveSchemas hsaved

/-! ## All or none -/

/-- How a call that ensures schemas ends. Schemas are generated if none are given, or if all checks
succeed and some schema is outdated. A file is written by a generation that succeeds, and then it
holds the generated schemas; in all other cases the files are as they were. -/
structure AllOrNone (stamping : Stamping) (settings : FreshnessSettings)
    (given : List (String × SchemaSource)) (files : ClassFiles) (schemasFile : Option String)
    (after : Ending Generated) : Prop where
  generates : .generate ∈ after.world.deeds ↔
    given = [] ∨ WorkersAllowed settings ∧ SomeOutdated stamping.tree stamping.base given
  writes : ∀ file, .write file ∈ after.world.deeds ↔
    .generate ∈ after.world.deeds ∧ schemasFile = some file ∧ ∃ g, after.result = .ok g
  failed : ∀ e, after.result = .error e → after.world.tree = stamping.tree
  reused : .generate ∉ after.world.deeds → after.world.tree = stamping.tree
  saved : ∀ g, after.result = .ok g → .generate ∈ after.world.deeds →
    SavedTo schemasFile (files.map (·.1)) stamping.tree after.world.tree g.schemas

theorem mem_written {result : Except Error Ensured} :
    .write file ∈ Acting.written schemasFile result ↔
      schemasFile = some file ∧ ∃ ensured, result = .ok ensured := by
  cases result with
  | error e => exact iff_of_false List.not_mem_nil fun ⟨_, _, h⟩ => by cases h
  | ok ensured =>
    cases schemasFile with
    | none => exact iff_of_false List.not_mem_nil fun h => by cases h.1
    | some file' =>
      rw [Option.some.injEq, and_iff_left ⟨ensured, rfl⟩]
      show Deed.write file ∈ [Deed.write file'] ↔ _
      rw [List.mem_singleton, Deed.write.injEq, eq_comm]

section Run

variable (stamping settings given generator files schemasFile j)

theorem result_run :
    (Acting.run stamping settings given generator files schemasFile j).result =
      ((ensureSchemas stamping settings given generator files schemasFile).outcome j).map
        (fun ensured => ⟨ensured.schemas, ensured.calls⟩) := by
  obtain ⟨deeds, hending, _⟩ :=
    Acting.run_eq stamping settings given generator files schemasFile j
  rw [hending, Acting.result_ending]
  rfl

theorem tree_run :
    (Acting.run stamping settings given generator files schemasFile j).world.tree =
      match (ensureSchemas stamping settings given generator files schemasFile).outcome j with
      | .ok ensured => ensured.tree
      | .error _ => stamping.tree := by
  obtain ⟨deeds, hending, _⟩ :=
    Acting.run_eq stamping settings given generator files schemasFile j
  rw [hending, Acting.tree_ending]
  rfl

theorem deeds_run :
    (Acting.Due stamping settings given j →
      (Acting.run stamping settings given generator files schemasFile j).world.deeds =
        .generate :: Acting.written schemasFile
          ((ensureSchemas stamping settings given generator files schemasFile).outcome j)) ∧
    (¬ Acting.Due stamping settings given j →
      (Acting.run stamping settings given generator files schemasFile j).world.deeds = []) := by
  obtain ⟨deeds, hending, hdeeds⟩ :=
    Acting.run_eq stamping settings given generator files schemasFile j
  rwa [hending, Acting.deeds_ending]

end Run

theorem generate_mem_run_iff :
    .generate ∈ (Acting.run stamping settings given generator files schemasFile j).world.deeds ↔
      Acting.Due stamping settings given j := by
  obtain ⟨hdue, hnotDue⟩ := deeds_run stamping settings given generator files schemasFile j
  by_cases h : Acting.Due stamping settings given j
  · rw [hdue h]
    exact iff_of_true List.mem_cons_self h
  · rw [hnotDue h]
    exact iff_of_false List.not_mem_nil h

theorem write_mem_run_iff :
    .write file ∈ (Acting.run stamping settings given generator files schemasFile j).world.deeds ↔
      Acting.Due stamping settings given j ∧ schemasFile = some file ∧ ∃ ensured,
        (ensureSchemas stamping settings given generator files schemasFile).outcome j =
          .ok ensured := by
  obtain ⟨hdue, hnotDue⟩ := deeds_run stamping settings given generator files schemasFile j
  by_cases h : Acting.Due stamping settings given j
  · rw [hdue h, List.mem_cons, or_iff_right nofun, mem_written, and_iff_right h]
  · rw [hnotDue h]
    exact iff_of_false List.not_mem_nil fun h' => h h'.1

/-- A call without a generation leaves the files as they are. -/
theorem tree_of_not_due
    (h : (ensureSchemas stamping settings given generator files schemasFile).outcome j =
      .ok ensured) (hdue : ¬ Acting.Due stamping settings given j) :
    ensured.tree = stamping.tree := by
  rcases cases_of_ensureSchemas h with ⟨hgenerated, _⟩ | ⟨_, _, _, _, htree⟩
  · exact absurd hgenerated hdue
  · exact htree

/-- What a call that succeeds has left behind when a generation was due. -/
theorem savedTo_of_due
    (h : (ensureSchemas stamping settings given generator files schemasFile).outcome j =
      .ok ensured) (hdue : Acting.Due stamping settings given j) :
    SavedTo schemasFile (files.map (·.1)) stamping.tree ensured.tree ensured.schemas := by
  rcases cases_of_ensureSchemas h with ⟨_, _, hregenerated⟩ | ⟨hne, hnone, _⟩
  · exact savedTo_of_regenerate hregenerated
  · rcases hdue with hnil | ⟨name, names, hsome⟩
    · exact absurd hnil hne
    · cases hnone.symm.trans hsome

/-- **All or none.** Ensuring step by step comes to what `ensureSchemas` says, and leaves the files
either as they were or with all schemas in their file. -/
theorem ensure_allOrNone (stamping : Stamping) (settings : FreshnessSettings)
    (given : List (String × SchemaSource)) (generator : Option Generator) (files : ClassFiles)
    (schemasFile : Option String) (j : Log.Journal) :
    (Acting.run stamping settings given generator files schemasFile j).result =
      ((ensureSchemas stamping settings given generator files schemasFile).outcome j).map
        (fun ensured => ⟨ensured.schemas, ensured.calls⟩) ∧
    (∀ ensured, (ensureSchemas stamping settings given generator files schemasFile).outcome j =
        .ok ensured →
      (Acting.run stamping settings given generator files schemasFile j).world.tree =
        ensured.tree) ∧
    AllOrNone stamping settings given files schemasFile
      (Acting.run stamping settings given generator files schemasFile j) := by
  have hresult := result_run stamping settings given generator files schemasFile j
  have htree := tree_run stamping settings given generator files schemasFile j
  rcases houtcome : (ensureSchemas stamping settings given generator files schemasFile).outcome j
    with e | ensured
  · rw [houtcome] at hresult htree
    refine ⟨hresult, nofun, ?_⟩
    exact {
      generates := generate_mem_run_iff.trans due_iff
      writes := fun file => by
        rw [write_mem_run_iff, generate_mem_run_iff, houtcome, hresult]
        exact and_congr_right fun _ => and_congr_right fun _ => iff_of_false nofun nofun
      failed := fun _ _ => htree
      reused := fun _ => htree
      saved := fun g hg => by cases hresult.symm.trans hg }
  · rw [houtcome] at hresult htree
    refine ⟨hresult, fun _ h => htree.trans (congrArg Ensured.tree (Except.ok.inj h)), ?_⟩
    exact {
      generates := generate_mem_run_iff.trans due_iff
      writes := fun file => by
        rw [write_mem_run_iff, generate_mem_run_iff, houtcome, hresult]
        exact and_congr_right fun _ => and_congr_right fun _ => iff_of_true ⟨_, rfl⟩ ⟨_, rfl⟩
      failed := fun e he => by cases hresult.symm.trans he
      reused := fun hnot => htree.trans (tree_of_not_due houtcome (mt generate_mem_run_iff.mpr hnot))
      saved := by
        intro g hg hgenerated
        obtain rfl := Except.ok.inj (hresult.symm.trans hg)
        rw [htree]
        exact savedTo_of_due houtcome (generate_mem_run_iff.mp hgenerated) }

/-- A schema of a file that was modified since, and one of a file that is gone. -/
def lostSchemas : List (String × SchemaSource) :=
  [("A", .read { id := some "file:///srv/a.py#" }), ("B", .read { id := some "file:///srv/b.py#" })]

/-- How ensuring the schema of one class ends when it is given those two. -/
def lostEnding : Ending Generated :=
  Acting.run markedStamping {} lostSchemas (some oneColumn) [("A", "a.py")] none .empty

/-- When the check of one schema fails nothing is generated, though another schema is outdated. -/
theorem run_lostFile :
    (∃ p ∈ lostSchemas, Finds markedStamping.tree markedStamping.base p.2 true) ∧
      (∃ e, lostEnding.result = .error e) ∧ .generate ∉ lostEnding.world.deeds := by
  have houtdated : ((isOutdated markedStamping.tree markedStamping.base
      (.read { id := some "file:///srv/a.py#" })).outcome .empty).toOption = some true := by
    decide +kernel
  have hfailed : lostEnding.result.toOption.isNone = true := by decide +kernel
  refine ⟨⟨_, List.mem_cons_self, Log.eq_ok_of_toOption houtdated⟩, ?_, by decide +kernel⟩
  rcases hresult : lostEnding.result with e | g
  · exact ⟨e, rfl⟩
  · rw [hresult] at hfailed
    cases hfailed

end SqlCompiler.Freshness
