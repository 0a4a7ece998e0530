import SqlCompiler.Proofs.Freshness.Reuse

/-!
# What ensured schemas are of

Ensuring either generates the schemas of all classes or gives back the schemas that it was given
(`cases_of_ensureSchemas`). Generated schemas have the tags of the class files. Those that are given
back have the tags of the files that their own ids lead to, whatever the class files are: no class is
looked for among them (`ensureSchemas_tagged`).
-/

namespace SqlCompiler.Freshness

variable {stamping : Stamping} {settings : FreshnessSettings}
  {given : List (String × SchemaSource)} {schemas : List (String × Schema)}
  {generator : Option Generator} {files : ClassFiles} {schemasFile : Option String}
  {j : Log.Journal} {ensured : Ensured} {tree : FileTree} {base : Option BaseDirectory} {s : Schema}

/-! ## The two ways of ensuring -/

/-- What a call that succeeds has done: it has generated, since nothing was given or something is
outdated, or it has found no given schema outdated and read them all. -/
theorem cases_of_ensureSchemas
    (h : (ensureSchemas stamping settings given generator files schemasFile).outcome j =
      .ok ensured) :
    ((given = [] ∨ ∃ name names,
        (outdatedSchemas stamping.tree stamping.base settings none given).outcome j =
          .ok (name :: names)) ∧
      ∃ j', (regenerate stamping generator files schemasFile).outcome j' = .ok ensured) ∨
    (given ≠ [] ∧
      (outdatedSchemas stamping.tree stamping.base settings none given).outcome j = .ok [] ∧
      readAll given = .ok ensured.schemas ∧ ensured.calls = [] ∧ ensured.tree = stamping.tree) := by
  unfold ensureSchemas at h
  by_cases hempty : given.isEmpty = true
  · rw [if_pos hempty] at h
    exact .inl ⟨.inl (List.isEmpty_iff.mp hempty), j, h⟩
  · rw [if_neg hempty] at h
    obtain ⟨outdated, houtdated, h⟩ := Log.outcome_bind_eq_ok_iff.mp h
    cases outdated with
    | nil =>
      obtain ⟨schemas, hschemas, h⟩ := Log.outcome_bind_eq_ok_iff.mp h
      rw [Log.outcome_lift] at hschemas
      obtain rfl := Except.ok.inj h
      exact .inr ⟨fun hnil => hempty (hnil ▸ rfl), houtdated, hschemas, rfl, rfl⟩
    | cons name names =>
      obtain ⟨_, _, h⟩ := Log.outcome_bind_eq_ok_iff.mp h
      exact .inl ⟨.inr ⟨name, names, houtdated⟩, _, h⟩

theorem calls_ne_nil_of_regenerate
    (h : (regenerate stamping generator files schemasFile).outcome j = .ok ensured) :
    ensured.calls ≠ [] := by
  obtain ⟨generated, hgenerated, _, hcalls⟩ := exists_generateSchemas_of_regenerate h
  rw [hcalls]
  exact calls_ne_nil_of_generateSchemas hgenerated

/-- A call that succeeds has not called the generator exactly if schemas were given and none of them
was found outdated. -/
theorem calls_eq_nil_iff
    (h : (ensureSchemas stamping settings given generator files schemasFile).outcome j =
      .ok ensured) :
    ensured.calls = [] ↔ given ≠ [] ∧
      (outdatedSchemas stamping.tree stamping.base settings none given).outcome j = .ok [] := by
  rcases cases_of_ensureSchemas h with ⟨hdue, _, hregenerate⟩ | ⟨hne, hnone, _, hcalls, _⟩
  · refine iff_of_false (calls_ne_nil_of_regenerate hregenerate) ?_
    rintro ⟨hne, hnone⟩
    rcases hdue with hnil | ⟨name, names, hsome⟩
    · exact hne hnil
    · cases hnone.symm.trans hsome
  · exact iff_of_true hcalls ⟨hne, hnone⟩

/-! ## Tags -/

/-- A schema has the tag of the content of a file. -/
def HasTagOf (tree : FileTree) (path : Path) (s : Schema) : Prop :=
  ∃ tag, fileEtag tree path = .ok tag ∧ s.etag = some tag

theorem hasTagOf_of_upToDate (h : UpToDate tree base s) :
    ∃ id path, s.id = some id ∧ sourcePath id base = .ok path ∧ HasTagOf tree path s := by
  obtain ⟨id, path, hid, _, hpath, hfresh⟩ := h
  obtain ⟨content, modified, hfind, _, _, htag⟩ := hfresh.file
  have hread := read_eq_ok_iff.mpr ⟨modified, hfind⟩
  exact ⟨id, path, hid, hpath, _, fileEtag_eq_ok_iff.mpr ⟨content, hread, rfl⟩, htag⟩

/-- The schemas of classes, each under the name of its class and with the tag of its file. -/
def AreTagged (stamping : Stamping) (files : ClassFiles) (schemas : List (String × Schema)) : Prop :=
  List.Forall₂ (fun file q => q.1 = file.1 ∧
    HasTagOf stamping.tree (classFile stamping.base (.ofText file.2)) q.2) files schemas

theorem areTagged_of_regenerate
    (h : (regenerate stamping generator files schemasFile).outcome j = .ok ensured) :
    AreTagged stamping files ensured.schemas := by
  obtain ⟨generated, hgenerated, hschemas, _⟩ := exists_generateSchemas_of_regenerate h
  obtain ⟨descriptions, hall⟩ := stampAll_of_generateSchemas hgenerated
  rw [hschemas]
  refine (stampAll_eq_ok_iff.mp hall).imp ?_
  rintro file q ⟨hname, description, _, hstamped⟩
  obtain ⟨_, content, hcontent, htag⟩ := stampClass_eq_ok hstamped
  exact ⟨hname, _, fileEtag_eq_ok_iff.mpr ⟨content, hcontent, rfl⟩, htag⟩

/-- Schemas that are given back are up to date. -/
theorem upToDate_of_readAll (hread : readAll given = .ok schemas) (hne : given ≠ [])
    (hnone : (outdatedSchemas tree base settings none given).outcome j = .ok []) :
    ∀ q ∈ schemas, UpToDate tree base q.2 :=
  ((outdatedSchemas_eq_nil_iff (readAll_eq_ok_iff.mp hread) hne).mp hnone).2

/-- **Ensured schemas.** A call that succeeds has called the generator unless schemas were given and
none was found outdated. If it has, every class has a schema with the tag of its file. If it has not,
the schemas that were given are given back, and each has the tag of the file that its id leads to:
that of a class if the schema has the name of the class and its id leads to the file of the class. -/
theorem ensureSchemas_tagged
    (h : (ensureSchemas stamping settings given generator files schemasFile).outcome j =
      .ok ensured) :
    (ensured.calls = [] ↔ given ≠ [] ∧
      (outdatedSchemas stamping.tree stamping.base settings none given).outcome j = .ok []) ∧
    (ensured.calls ≠ [] → AreTagged stamping files ensured.schemas) ∧
    (ensured.calls = [] → Reads given ensured.schemas ∧
      (∀ q ∈ ensured.schemas, ∃ id path, q.2.id = some id ∧
        sourcePath id stamping.base = .ok path ∧ HasTagOf stamping.tree path q.2) ∧
      ∀ file ∈ files, ∀ q ∈ ensured.schemas, q.1 = file.1 →
        (∃ id, q.2.id = some id ∧
          sourcePath id stamping.base = .ok (classFile stamping.base (.ofText file.2))) →
          HasTagOf stamping.tree (classFile stamping.base (.ofText file.2)) q.2) := by
  refine ⟨calls_eq_nil_iff h, ?_, ?_⟩
  · intro hcalls
    rcases cases_of_ensureSchemas h with ⟨_, _, hregenerate⟩ | ⟨_, _, _, hnone, _⟩
    · exact areTagged_of_regenerate hregenerate
    · exact absurd hnone hcalls
  · intro hcalls
    rcases cases_of_ensureSchemas h with ⟨_, _, hregenerate⟩ | ⟨hne, hnone, hread, _⟩
    · exact absurd hcalls (calls_ne_nil_of_regenerate hregenerate)
    · have htagged : ∀ q ∈ ensured.schemas, ∃ id path, q.2.id = some id ∧
          sourcePath id stamping.base = .ok path ∧ HasTagOf stamping.tree path q.2 :=
        fun q hq => hasTagOf_of_upToDate (upToDate_of_readAll hread hne hnone q hq)
      refine ⟨readAll_eq_ok_iff.mp hread, htagged, ?_⟩
      rintro file _ q hq _ ⟨id, hid, hpath⟩
      obtain ⟨id', path, hid', hpath', htag⟩ := htagged q hq
      obtain rfl := Option.some.inj (hid.symm.trans hid')
      obtain rfl := Except.ok.inj (hpath.symm.trans hpath')
      exact htag

/-- Two classes of which one has a file with a hash sign in its name. -/
theorem ensureSchemas_tagged_marked : ∃ ensured,
    (ensureSchemas markedStamping {} [] (some oneColumn) [("A", "a.py"), ("B", "/srv/b#1.py")]
      none).outcome .empty = .ok ensured ∧ ensured.calls ≠ [] ∧
    AreTagged markedStamping [("A", "a.py"), ("B", "/srv/b#1.py")] ensured.schemas := by
  have hok : ((ensureSchemas markedStamping {} [] (some oneColumn)
      [("A", "a.py"), ("B", "/srv/b#1.py")] none).outcome .empty).toOption.isSome = true := by
    decide
  obtain ⟨ensured, hensured⟩ := Option.isSome_iff_exists.mp hok
  have hensured := Log.eq_ok_of_toOption hensured
  obtain ⟨hcalls, htagged, _⟩ := ensureSchemas_tagged hensured
  have hgenerated : ensured.calls ≠ [] := fun hnil => (hcalls.mp hnil).1 rfl
  exact ⟨ensured, hensured, hgenerated, htagged hgenerated⟩

/-- A class that is added has no schema as long as those of the others are up to date. -/
theorem ensureSchemas_addedClass : ∃ first second,
    (ensureSchemas markedStamping {} [] (some oneColumn) [("A", "a.py")] none).outcome .empty =
      .ok first ∧
    (ensureSchemas markedStamping {} (asRead first.schemas) (some oneColumn)
      [("A", "a.py"), ("B", "/srv/b#1.py")] none).outcome .empty = .ok second ∧
    ∀ s, ("B", s) ∉ second.schemas := by
  have hrun : (do
      let first ← ((ensureSchemas markedStamping {} [] (some oneColumn) [("A", "a.py")]
        none).outcome .empty).toOption
      let second ← ((ensureSchemas markedStamping {} (asRead first.schemas) (some oneColumn)
        [("A", "a.py"), ("B", "/srv/b#1.py")] none).outcome .empty).toOption
      return second.schemas.map (·.1)) = some ["A"] := by
    decide +kernel
  obtain ⟨first, hfirst, hrun⟩ := Option.bind_eq_some_iff.mp hrun
  obtain ⟨second, hsecond, hrun⟩ := Option.bind_eq_some_iff.mp hrun
  have hnames : second.schemas.map (·.1) = ["A"] := Option.some.inj hrun
  refine ⟨first, second, Log.eq_ok_of_toOption hfirst, Log.eq_ok_of_toOption hsecond, ?_⟩
  intro s hmem
  have hname : "B" ∈ second.schemas.map (·.1) := List.mem_map_of_mem hmem
  rw [hnames] at hname
  exact absurd hname (by decide)

end SqlCompiler.Freshness
