import SqlCompiler.Proofs.Freshness.Coherence
import SqlCompiler.Proofs.Schema.Accumulation

/-!
# Reuse of schemas

Schemas that were generated are given back by a later call with the same class files, without a call
of the generator and without writing, as long as the files have the same content and their stamps
are not later (`ensureSchemas_reuses`). Given as their documents they are given back as they are
read from these: the same, but for what documents have no form for.
-/

namespace SqlCompiler

/-! ## Schemas and their own documents -/

theorem firstLine_eq_self {s : String} (h : '\n' ∉ s.toList) : firstLine s = s := by
  have hall : ∀ c ∈ s.toList, (c != '\n') = true := by
    intro c hc
    rw [bne_iff_ne]
    rintro rfl
    exact h hc
  have hwhole : (s.toList ++ []).takeWhile (· != '\n') = _ := List.takeWhile_append_of_pos hall
  rw [List.append_nil, List.takeWhile_nil, List.append_nil] at hwhole
  unfold firstLine
  rw [hwhole, String.ofList_toList]

/-- A column with a JSON default is read from its document as it is exactly if the default is finite
and a date with a time has the type of dates. -/
theorem Column.rewritten_eq_self_iff {c : Column} (hdefault : c.default.isJson = true)
    (hline : ∀ line, c.description = some line → '\n' ∉ line.toList) :
    c.rewritten = c ↔
      c.default.isFinite = true ∧ (c.format = some "date-time" → c.type = .date) := by
  have hform : c.documentDefault = c.default.settled :=
    documentDefault_eq (Value.documentForm_of_isJson hdefault)
  have hdescription : c.description.map firstLine = c.description := by
    cases hsome : c.description with
    | none => rfl
    | some line => exact congrArg some (firstLine_eq_self (hline line hsome))
  constructor
  · intro h
    have hsettled : c.documentDefault = c.default := congrArg Column.default h
    have htype : (if c.format = some "date-time" then .date else c.type) = c.type :=
      congrArg Column.type h
    refine ⟨Value.settled_eq_iff.mp (hform.symm.trans hsettled), fun hformat => ?_⟩
    rw [if_pos hformat] at htype
    exact htype.symm
  · rintro ⟨hfinite, htype⟩
    have htype : (if c.format = some "date-time" then .date else c.type) = c.type := by
      split
      · rename_i hformat
        exact (htype hformat).symm
      · rfl
    unfold rewritten reread
    rw [hform, Value.settled_eq_iff.mpr hfinite, hdescription, htype]

/-- A schema whose table is named is read from its document as it is exactly if its columns are. -/
theorem Schema.enhancedWith_nil_eq_self_iff {s : Schema} (hnamed : s.namedTable = s.table) :
    s.enhancedWith [] = s ↔ ∀ p ∈ s.columns, p.2.rewritten = p.2 := by
  rw [← map_snd_eq_self_iff]
  constructor
  · exact fun h => congrArg Schema.columns h
  · intro h
    unfold Schema.enhancedWith
    rw [hnamed, List.nil_append, h]

namespace Freshness

/-! ## Names of stamped tables -/

theorem eq_nil_of_ofUtf8? {bytes : List UInt8} (h : Text.ofUtf8? bytes = some "") : bytes = [] := by
  unfold Text.ofUtf8? String.fromUTF8? at h
  split at h
  · have hempty : (⟨bytes.toArray⟩ : ByteArray) = ByteArray.empty :=
      congrArg String.toByteArray (Option.some.inj h)
    exact congrArg (fun array : ByteArray => array.data.toList) hempty
  · cases h

/-- A name that is present is read as a name that is not empty. -/
theorem exists_name_of_isPresent {v : Value} {name : Option String} (hpresent : v.isPresent = true)
    (h : Checked.optional Checked.text v = .valid name) : ∃ n, name = some n ∧ n ≠ "" := by
  cases v with
  | null => cases hpresent
  | text s =>
    obtain rfl := Checked.valid.inj h
    refine ⟨s, rfl, ?_⟩
    rintro rfl
    cases hpresent
  | bytes bs =>
    obtain ⟨s, hs, rfl⟩ := Checked.map_eq_valid_iff.mp h
    refine ⟨s, rfl, ?_⟩
    rintro rfl
    unfold Checked.text Checked.decoded at hs
    dsimp only at hs
    split at hs
    · rename_i hdecoded
      obtain rfl := Checked.valid.inj hs
      rw [eq_nil_of_ofUtf8? hdecoded] at hpresent
      cases hpresent
    · cases hs
  | _ => cases h

theorem get?_stampMembers_type (data : Members) (type id tag : String) :
    (stampMembers data type id tag).get? "type" = some (.text type) := by
  unfold stampMembers
  dsimp only
  rw [Members.get?_put, if_neg (by decide), Members.get?_put, if_neg (by decide)]
  split
  · rw [Members.get?_put, if_pos rfl]
  · rw [Members.get?_put, if_neg (by decide), Members.get?_put, if_pos rfl]

/-- The table of a stamped description is named. -/
theorem namedTable_of_stamp {description : SchemaSource} {type id tag : String} {s : Schema}
    (h : stamp description type id tag = .ok s) : s.namedTable = s.table := by
  obtain ⟨data, hread⟩ := exists_stampMembers_of_stamp h
  obtain ⟨_, hdata, hfields, _⟩ := Schema.ofValue_eq_ok_iff.mp hread
  cases hdata
  have htype := get?_stampMembers_type data type id tag
  have hgives := hfields.type
  rw [Schema.get?_normalize (by decide), Schema.get?_listed (by decide),
    Schema.get?_nameTable (by decide), htype, Checked.gives_some, Checked.optional_text] at hgives
  have hs : s.type = some type := (Checked.valid.inj hgives).symm
  by_cases hempty : type = ""
  · simp only [Schema.namedTable, hs, hempty]
  · have htable := hfields.table
    rw [Schema.get?_normalize (by decide), Schema.get?_listed (by decide),
      Schema.get?_nameTable_table htype hempty] at htable
    rw [Schema.namedTable_of_type hs hempty]
    by_cases hpresent : ((stampMembers data type id tag).getD "table").isPresent = true
    · rw [if_pos hpresent] at htable
      unfold Members.getD at hpresent
      rcases hget : (stampMembers data type id tag).get? "table" with _ | w
      · rw [hget] at hpresent
        cases hpresent
      · rw [hget] at htable hpresent
        have hread := Checked.gives_some.mp htable
        obtain ⟨name, hname, hne⟩ := exists_name_of_isPresent hpresent hread
        rw [if_neg]
        rw [hname]
        simpa using hne
    · rw [if_neg hpresent, Checked.gives_some, Checked.optional_text] at htable
      rw [← Checked.valid.inj htable, ite_self]

variable {stamping later : Stamping} {name : String} {file : Path} {description : SchemaSource}
  {s : Schema} {settings : FreshnessSettings} {j : Log.Journal}

/-- A stamped schema can be read from its document, and its table is named. -/
theorem sound_of_stampClass (h : stampClass stamping name file description = .ok s) :
    s.Sound ∧ s.namedTable = s.table := by
  obtain ⟨_, _, h⟩ := Log.bind_eq_ok_iff.mp h
  obtain ⟨stamped, hstamped, h⟩ := Log.bind_eq_ok_iff.mp h
  have hsound := (stamp_eq_ok hstamped).1
  have hnamed := namedTable_of_stamp hstamped
  cases hbase : stamping.baseColumns with
  | none =>
    rw [hbase] at h
    obtain rfl : stamped = s := Except.ok.inj h
    exact ⟨hsound, hnamed⟩
  | some names =>
    rw [hbase] at h
    obtain ⟨hnames, rfl⟩ := Schema.eq_withBase_of_enhance hsound h
    refine ⟨hsound.withBase fun name hname => .of_mem (hnames name hname), ?_⟩
    unfold Schema.withBase
    split
    · exact hnamed
    · exact Schema.namedTable_enhancedWith _ _

/-! ## Schemas that are up to date -/

/-- The id of a schema leads to a file that is as the schema says. -/
def UpToDate (tree : FileTree) (base : Option BaseDirectory) (s : Schema) : Prop :=
  ∃ id path, s.id = some id ∧ id ≠ "" ∧ sourcePath id base = .ok path ∧
    IsFresh tree path (stampOf id) s.etag

/-- The schemas that sources are read as, under the same names. -/
def Reads (given : List (String × SchemaSource)) (schemas : List (String × Schema)) : Prop :=
  List.Forall₂ (fun p q => p.1 = q.1 ∧ p.2.toSchema = .ok q.2) given schemas

variable {given : List (String × SchemaSource)} {schemas : List (String × Schema)}
  {tree : FileTree} {base : Option BaseDirectory}

theorem readAll_eq_ok_iff : readAll given = .ok schemas ↔ Reads given schemas :=
  Log.mapM_named_eq_ok_iff

theorem outcome_isOutdated_eq_false_iff {source : SchemaSource} (h : source.toSchema = .ok s) :
    (isOutdated tree base source).outcome j = .ok false ↔ UpToDate tree base s := by
  have hsame : isOutdated tree base source = isOutdated tree base (.read s) := by
    unfold isOutdated
    rw [h]
    rfl
  rw [hsame]
  exact isOutdated_eq_false_iff

/-- No schema is outdated exactly if each is up to date. -/
theorem outdatedNames_eq_nil_iff (h : Reads given schemas) :
    (outdatedNames tree base given).outcome j = .ok [] ↔
      ∀ q ∈ schemas, UpToDate tree base q.2 := by
  induction h generalizing j with
  | nil => exact iff_of_true rfl (List.forall_mem_nil _)
  | @cons p q given schemas hfirst _ ih =>
    obtain ⟨name, source⟩ := p
    rw [List.forall_mem_cons, ← outcome_isOutdated_eq_false_iff hfirst.2 (j := j)]
    rw [outdatedNames, Log.outcome_bind_eq_ok_iff]
    constructor
    · rintro ⟨outdated, houtdated, hrest⟩
      obtain ⟨names, hnames, hnone⟩ := Log.outcome_bind_eq_ok_iff.mp hrest
      have hnone : (if outdated then name :: names else names) = [] := Except.ok.inj hnone
      cases outdated with
      | true => cases hnone
      | false =>
        obtain rfl : names = [] := hnone
        exact ⟨houtdated, ih.mp hnames⟩
    · rintro ⟨hfirst, hrest⟩
      exact ⟨false, hfirst, Log.outcome_bind_eq_ok_iff.mpr ⟨[], ih.mpr hrest, rfl⟩⟩

/-- As many checks at a time as are set, if that is a number of checks. -/
def WorkersAllowed (settings : FreshnessSettings) : Prop :=
  ∀ n, settings.maxWorkers = some n → 0 < n

theorem exists_chooseWorkers_iff :
    (∃ workers, chooseWorkers none settings = .ok workers) ↔ WorkersAllowed settings := by
  unfold chooseWorkers WorkersAllowed
  cases settings.maxWorkers with
  | none => exact iff_of_true ⟨_, rfl⟩ nofun
  | some n =>
    dsimp only
    by_cases hn : n ≤ 0
    · rw [if_pos hn]
      exact iff_of_false nofun fun h => absurd (h n rfl) (Int.not_lt.mpr hn)
    · rw [if_neg hn]
      refine iff_of_true ⟨_, rfl⟩ fun m hm => ?_
      rw [← Option.some.inj hm]
      exact Int.not_le.mp hn

/-- Schemas are checked if as many checks are allowed as are set, and in no context. -/
theorem outdatedSchemas_eq_ok_iff (hne : given ≠ []) {names : List String} :
    (outdatedSchemas tree base settings none given).outcome j = .ok names ↔
      WorkersAllowed settings ∧
        (outdatedNames tree base given).outcome { j with contexts := [] } = .ok names := by
  have hempty : given.isEmpty = false := by simpa using hne
  unfold outdatedSchemas
  rw [hempty, if_neg Bool.false_ne_true, ← exists_chooseWorkers_iff, Log.outcome_bind_eq_ok_iff]
  constructor
  · rintro ⟨workers, hworkers, h⟩
    obtain ⟨found, hfound, h⟩ := Log.outcome_bind_eq_ok_iff.mp h
    obtain ⟨_, _, h⟩ := Log.outcome_bind_eq_ok_iff.mp h
    obtain rfl : found = names := Except.ok.inj h
    rw [Log.outcome_lift] at hworkers
    have hjournal : ((liftM (chooseWorkers none settings) : Log.Logged Error _).run j).2 = j := by
      rw [hworkers]
      rfl
    rw [hjournal] at hfound
    exact ⟨⟨workers, hworkers⟩, hfound⟩
  · rintro ⟨⟨workers, hworkers⟩, hfound⟩
    refine ⟨workers, (Log.outcome_lift _ j).trans hworkers, ?_⟩
    refine Log.outcome_bind_eq_ok_iff.mpr ⟨names, ?_, Log.outcome_bind_eq_ok_iff.mpr ⟨(), rfl, rfl⟩⟩
    rw [hworkers]
    exact hfound

theorem outdatedSchemas_eq_nil_iff (h : Reads given schemas) (hne : given ≠ []) :
    (outdatedSchemas tree base settings none given).outcome j = .ok [] ↔
      WorkersAllowed settings ∧ ∀ q ∈ schemas, UpToDate tree base q.2 := by
  rw [outdatedSchemas_eq_ok_iff hne, outdatedNames_eq_nil_iff h]

/-! ## Schemas that are given back -/

variable {generator : Option Generator} {files : ClassFiles} {schemasFile : Option String}

theorem calls_ne_nil_of_generateSchemas {generated : Generated}
    (h : (generateSchemas stamping generator files).outcome j = .ok generated) :
    generated.calls ≠ [] := by
  cases generator with
  | none => cases h
  | some generator =>
    obtain ⟨_, _, h⟩ := Log.outcome_bind_eq_ok_iff.mp h
    obtain ⟨_, _, h⟩ := Log.outcome_bind_eq_ok_iff.mp h
    obtain ⟨_, _, h⟩ := Log.outcome_bind_eq_ok_iff.mp h
    obtain ⟨_, _, h⟩ := Log.outcome_bind_eq_ok_iff.mp h
    obtain rfl := Except.ok.inj h
    exact List.cons_ne_nil _ _

/-- What is regenerated is what a generation gives. -/
theorem exists_generateSchemas_of_regenerate {ensured : Ensured}
    (h : (regenerate stamping generator files schemasFile).outcome j = .ok ensured) :
    ∃ generated, (generateSchemas stamping generator files).outcome j = .ok generated ∧
      ensured.schemas = generated.schemas ∧ ensured.calls = generated.calls := by
  obtain ⟨generated, hgenerated, h⟩ := Log.outcome_bind_eq_ok_iff.mp h
  refine ⟨generated, hgenerated, ?_⟩
  cases schemasFile with
  | none =>
    obtain rfl := Except.ok.inj h
    exact ⟨rfl, rfl⟩
  | some file =>
    obtain ⟨_, _, h⟩ := Log.outcome_bind_eq_ok_iff.mp h
    obtain ⟨_, _, h⟩ := Log.outcome_bind_eq_ok_iff.mp h
    obtain rfl := Except.ok.inj h
    exact ⟨rfl, rfl⟩

/-- Given schemas are given back without a generation, and no file is written, exactly if as many
checks are allowed as are set and each schema is up to date. -/
theorem ensureSchemas_given_iff (h : Reads given schemas) (hne : given ≠ []) :
    (ensureSchemas stamping settings given generator files schemasFile).outcome j =
        .ok ⟨schemas, [], stamping.tree⟩ ↔
      WorkersAllowed settings ∧ ∀ q ∈ schemas, UpToDate stamping.tree stamping.base q.2 := by
  have hempty : given.isEmpty = false := by simpa using hne
  rw [← outdatedSchemas_eq_nil_iff h hne (j := j)]
  unfold ensureSchemas
  rw [hempty, if_neg Bool.false_ne_true, Log.outcome_bind_eq_ok_iff]
  constructor
  · rintro ⟨outdated, houtdated, hthen⟩
    cases outdated with
    | nil => exact houtdated
    | cons name names =>
      obtain ⟨_, _, hthen⟩ := Log.outcome_bind_eq_ok_iff.mp hthen
      obtain ⟨generated, hgenerated, _, hcalls⟩ := exists_generateSchemas_of_regenerate hthen
      exact absurd hcalls.symm (calls_ne_nil_of_generateSchemas hgenerated)
  · intro hnone
    refine ⟨[], hnone, ?_⟩
    rw [List.isEmpty_nil, if_pos rfl, readAll_eq_ok_iff.mpr h]
    rfl

/-! ## Generated schemas are up to date -/

/-- The files of classes have the content that they had when their schemas were stamped. -/
def Unchanged (stamping : Stamping) (tree : FileTree) (base : BaseDirectory) (files : ClassFiles) :
    Prop :=
  ∀ file ∈ files, tree.read (base.toPath / Path.ofText file.2) =
    stamping.tree.read (base.toPath / Path.ofText file.2)

/-- No file of a class has a time that is read as one that a stamp is before, or that has no stamp.
-/
def StampedAfter (now : Instant) (tree : FileTree) (base : BaseDirectory) (files : ClassFiles) :
    Prop :=
  ∀ file ∈ files, ∀ modified, tree.modified (base.toPath / Path.ofText file.2) = .ok modified →
    modified.asRead.isInCalendar = true ∧ ¬ now.stamp < modified.asRead.stamp

/-- In years of four digits the stamps are in the order of the seconds. -/
theorem stampedAfter_iff {now : Instant} {base : BaseDirectory} (hnow : now.HasFourDigitYear)
    (hmodified : ∀ file ∈ files, ∀ modified,
      tree.modified (base.toPath / Path.ofText file.2) = .ok modified →
        modified.asRead.HasFourDigitYear) :
    StampedAfter now tree base files ↔ ∀ file ∈ files, ∀ modified,
      tree.modified (base.toPath / Path.ofText file.2) = .ok modified →
        modified.asRead.second ≤ now.second := by
  refine forall₂_congr fun file hfile => forall₂_congr fun modified hfound => ?_
  have hyear := hmodified file hfile modified hfound
  rw [Instant.stamp_lt_iff hnow hyear, Int.not_lt,
    and_iff_right (Instant.isInCalendar_of_hasFourDigitYear hyear)]

/-- Files that were not written late in a second are read as they were written. -/
theorem stampedAfter_iff_of_isEarly {now : Instant} {base : BaseDirectory}
    (hnow : now.HasFourDigitYear)
    (hmodified : ∀ file ∈ files, ∀ modified,
      tree.modified (base.toPath / Path.ofText file.2) = .ok modified →
        modified.HasFourDigitYear ∧ modified.IsEarly) :
    StampedAfter now tree base files ↔ ∀ file ∈ files, ∀ modified,
      tree.modified (base.toPath / Path.ofText file.2) = .ok modified →
        modified.second ≤ now.second := by
  rw [stampedAfter_iff hnow fun file hfile modified hfound =>
    Instant.hasFourDigitYear_asRead (hmodified file hfile modified hfound).1
      (hmodified file hfile modified hfound).2]
  refine forall₂_congr fun file hfile => forall₂_congr fun modified hfound => ?_
  obtain ⟨hyear, hearly⟩ := hmodified file hfile modified hfound
  rw [Instant.second_asRead_of_isEarly hyear hearly]

theorem modified_of_find {path : Path} {node : FileNode} (h : tree.find path = .ok node) :
    tree.modified path = .ok node.modified := by
  unfold FileTree.modified
  rw [h]
  rfl

/-- A stamped schema of a file that has the same content is up to date exactly if its stamp is not
before the time of modification. -/
theorem upToDate_iff_of_stampClass {base : BaseDirectory} {file : String}
    (h : stampClass stamping name (.ofText file) description = .ok s)
    (hmark : '#' ∉ file.toList) (hbase : stamping.base = some base)
    (habsolute : base.toPath.isAbsolute = true)
    (hsame : tree.read (base.toPath / Path.ofText file) =
      stamping.tree.read (base.toPath / Path.ofText file)) :
    UpToDate tree (some base) s ↔
      ∀ modified, tree.modified (base.toPath / Path.ofText file) = .ok modified →
        modified.asRead.isInCalendar = true ∧ ¬ stamping.now.stamp < modified.asRead.stamp := by
  obtain ⟨hid, content, hcontent, htag⟩ := stampClass_eq_ok h
  rw [hbase] at hcontent
  obtain ⟨time, hfind⟩ := read_eq_ok_iff.mp (hsame.trans hcontent)
  have hmodified := modified_of_find hfind
  have hplain : '#' ∉ (Path.ofText file).text.toList := fun hmem =>
    hmark ((Path.mem_text_ofText_iff (by decide) (by decide) file).mp hmem)
  have hfresh : UpToDate tree (some base) s ↔
      IsFresh tree (base.toPath / Path.ofText file) stamping.now.stamp s.etag :=
    isOutdated_eq_false_iff.symm.trans
      (isOutdated_eq_false_iff_isFresh (j := .empty) hid (Path.normal_ofText file) hplain habsolute)
  rw [hfresh]
  constructor
  · rintro ⟨_, _, hfind', hcalendar, hnot, _⟩ modified hmodified'
    obtain ⟨_, rfl⟩ := FileNode.file.inj (Except.ok.inj (hfind.symm.trans hfind'))
    obtain rfl := Except.ok.inj (hmodified.symm.trans hmodified')
    exact ⟨hcalendar, hnot⟩
  · intro hall
    obtain ⟨hcalendar, hnot⟩ := hall _ hmodified
    exact ⟨content, time, hfind, hcalendar, hnot, htag⟩

variable {descriptions : Descriptions} {base : BaseDirectory}

/-- Stamped schemas bear the names of their classes. -/
theorem names_of_isStamped (hall : List.Forall₂ (IsStamped stamping descriptions) files schemas) :
    schemas.map (·.1) = files.map (·.1) :=
  (map_eq_map_of_forall₂ hall fun _ _ hstamped => hstamped.1.symm).symm

theorem sound_of_isStamped (hall : List.Forall₂ (IsStamped stamping descriptions) files schemas) :
    ∀ p ∈ schemas, p.2.Sound ∧ p.2.namedTable = p.2.table :=
  forall_mem_of_forall₂ hall fun _ _ ⟨_, _, _, hstamped⟩ => sound_of_stampClass hstamped

/-- Stamped schemas of unchanged files are up to date exactly if the stamps say so. -/
theorem upToDate_iff_of_isStamped
    (hall : List.Forall₂ (IsStamped stamping descriptions) files schemas)
    (hmarks : ∀ file ∈ files, '#' ∉ file.2.toList) (hbase : stamping.base = some base)
    (habsolute : base.toPath.isAbsolute = true) (hsame : Unchanged stamping tree base files) :
    (∀ p ∈ schemas, UpToDate tree (some base) p.2) ↔ StampedAfter stamping.now tree base files := by
  unfold Unchanged at hsame
  unfold StampedAfter
  induction hall with
  | nil => exact iff_of_true (List.forall_mem_nil _) (List.forall_mem_nil _)
  | cons hfirst _ ih =>
    obtain ⟨_, _, _, hstamped⟩ := hfirst
    obtain ⟨hmark, hmarks⟩ := List.forall_mem_cons.mp hmarks
    obtain ⟨hread, hsame⟩ := List.forall_mem_cons.mp hsame
    rw [List.forall_mem_cons, List.forall_mem_cons, ih hmarks hsame,
      upToDate_iff_of_stampClass hstamped hmark hbase habsolute hread]

/-! ## Schemas given as documents -/

/-- Schemas as they are, each under its name. -/
def asRead (schemas : List (String × Schema)) : List (String × SchemaSource) :=
  schemas.map fun p => (p.1, .read p.2)

/-- Documents to read schemas from, each under its name. -/
def asRaw (documents : List (String × Value)) : List (String × SchemaSource) :=
  documents.map fun p => (p.1, .raw p.2)

/-- The documents of schemas, under the same names. -/
def HaveDocuments (schemas : List (String × Schema)) (documents : List (String × Value)) : Prop :=
  List.Forall₂ (fun p q => p.1 = q.1 ∧ p.2.document = .ok q.2) schemas documents

theorem reads_asRead (schemas : List (String × Schema)) : Reads (asRead schemas) schemas :=
  List.forall₂_map_left_iff.mpr (List.forall₂_same.mpr fun _ _ => ⟨rfl, rfl⟩)

/-- Schemas as they are read from their documents. -/
def reread (schemas : List (String × Schema)) : List (String × Schema) :=
  schemas.map fun p => (p.1, p.2.enhancedWith [])

theorem exists_haveDocuments (h : ∀ p ∈ schemas, p.2.Writable) :
    ∃ documents, HaveDocuments schemas documents := by
  induction schemas with
  | nil => exact ⟨[], .nil⟩
  | cons p schemas ih =>
    obtain ⟨hfirst, hrest⟩ := List.forall_mem_cons.mp h
    obtain ⟨ms, hms⟩ := Schema.exists_columnMembers_iff.mpr hfirst
    obtain ⟨documents, hdocuments⟩ := ih hrest
    exact ⟨(p.1, _) :: documents,
      .cons ⟨rfl, Schema.document_eq_ok_iff.mpr ⟨ms, hms, rfl⟩⟩ hdocuments⟩

theorem reads_asRaw {documents : List (String × Value)}
    (hdocuments : HaveDocuments schemas documents) (hsound : ∀ p ∈ schemas, p.2.Sound) :
    Reads (asRaw documents) (reread schemas) := by
  refine List.forall₂_map_left_iff.mpr (List.forall₂_map_right_iff.mpr ?_)
  induction hdocuments with
  | nil => exact .nil
  | cons hfirst _ ih =>
    obtain ⟨hs, hrest⟩ := List.forall_mem_cons.mp hsound
    exact .cons ⟨hfirst.1.symm, Schema.ofValue_of_document hs hfirst.2⟩ (ih hrest)

/-- Reading a schema from its document leaves the id and the tag. -/
theorem upToDate_reread_iff {base : Option BaseDirectory} :
    (∀ p ∈ reread schemas, UpToDate tree base p.2) ↔ ∀ p ∈ schemas, UpToDate tree base p.2 :=
  List.forall_mem_map

/-- Schemas are given back as they are exactly if each is up to date. -/
theorem ensureSchemas_asRead_iff (hne : schemas ≠ []) :
    (ensureSchemas stamping settings (asRead schemas) generator files schemasFile).outcome j =
        .ok ⟨schemas, [], stamping.tree⟩ ↔
      WorkersAllowed settings ∧ ∀ p ∈ schemas, UpToDate stamping.tree stamping.base p.2 :=
  ensureSchemas_given_iff (reads_asRead schemas) fun hnil => hne (List.map_eq_nil_iff.mp hnil)

/-- Documents are given back as what they are read as exactly if each schema is up to date. -/
theorem ensureSchemas_asRaw_iff {documents : List (String × Value)}
    (hdocuments : HaveDocuments schemas documents) (hsound : ∀ p ∈ schemas, p.2.Sound)
    (hne : schemas ≠ []) :
    (ensureSchemas stamping settings (asRaw documents) generator files schemasFile).outcome j =
        .ok ⟨reread schemas, [], stamping.tree⟩ ↔
      WorkersAllowed settings ∧ ∀ p ∈ schemas, UpToDate stamping.tree stamping.base p.2 := by
  have hsome : asRaw documents ≠ [] := by
    intro hnil
    rw [List.map_eq_nil_iff.mp hnil] at hdocuments
    exact hne (List.forall₂_nil_right_iff.mp hdocuments)
  rw [ensureSchemas_given_iff (reads_asRaw hdocuments hsound) hsome, upToDate_reread_iff]

theorem names_reread (schemas : List (String × Schema)) :
    (reread schemas).map (·.1) = schemas.map (·.1) := by
  unfold reread
  rw [List.map_map]
  rfl

/-- Coherent schemas with named tables and JSON defaults are read from their documents as they are
exactly if the defaults are finite and dates with a time have the type of dates. -/
theorem reread_eq_self_iff (hcoherent : ∀ p ∈ schemas, p.2.Coherent)
    (hnamed : ∀ p ∈ schemas, p.2.namedTable = p.2.table)
    (hdefaults : ∀ p ∈ schemas, ∀ q ∈ p.2.columns, q.2.default.isJson = true) :
    reread schemas = schemas ↔ ∀ p ∈ schemas, ∀ q ∈ p.2.columns,
      q.2.default.isFinite = true ∧ (q.2.format = some "date-time" → q.2.type = .date) := by
  unfold reread
  rw [map_snd_eq_self_iff (f := fun s : Schema => s.enhancedWith [])]
  refine forall₂_congr fun p hp => ?_
  rw [Schema.enhancedWith_nil_eq_self_iff (hnamed p hp)]
  exact forall₂_congr fun q hq =>
    Column.rewritten_eq_self_iff (hdefaults p hp q hq) ((hcoherent p hp).descriptions q hq)

/-! ## Reuse -/

/-- What lets schemas that were generated be given back: as many checks are allowed as are set, and
no class file was modified in a later second, by the order of the stamps. -/
structure Reusable (stamping : Stamping) (settings : FreshnessSettings) (tree : FileTree)
    (base : BaseDirectory) (files : ClassFiles) : Prop where
  workers : WorkersAllowed settings
  stamps : StampedAfter stamping.now tree base files

theorem reusable_iff : Reusable stamping settings tree base files ↔
    WorkersAllowed settings ∧ StampedAfter stamping.now tree base files :=
  ⟨fun h => ⟨h.workers, h.stamps⟩, fun h => ⟨h.1, h.2⟩⟩

/-- **Reuse of generated schemas.** Schemas that were generated for class files without hash signs
bear the names of the classes. When the files have the same content, they are given back as they
are, without a call of the generator and with no file written, exactly if they are reusable. So are
their documents if all defaults are JSON values; what is given back are then the same schemas
exactly if all defaults are finite and all dates with a time have the type of dates. In years of
four digits the stamps are in order if no file has a time that is read as one in a later second; a
time that is not late in its second is read as one of this second. -/
theorem ensureSchemas_reuses {first : Ensured}
    (h : (ensureSchemas stamping settings [] generator files schemasFile).outcome j = .ok first)
    (hfiles : files ≠ []) (hmarks : ∀ file ∈ files, '#' ∉ file.2.toList)
    (hbase : stamping.base = some base) (habsolute : base.toPath.isAbsolute = true)
    (hlater : later.base = some base) (hsame : Unchanged stamping later.tree base files) :
    first.schemas.map (·.1) = files.map (·.1) ∧
    (∀ j', (ensureSchemas later settings (asRead first.schemas) generator files
        schemasFile).outcome j' = .ok ⟨first.schemas, [], later.tree⟩ ↔
      Reusable stamping settings later.tree base files) ∧
    ((∀ p ∈ first.schemas, ∀ q ∈ p.2.columns, q.2.default.isJson = true) →
      ∃ documents again, HaveDocuments first.schemas documents ∧
        (∀ j', (ensureSchemas later settings (asRaw documents) generator files
            schemasFile).outcome j' = .ok ⟨again, [], later.tree⟩ ↔
          Reusable stamping settings later.tree base files) ∧
        again.map (·.1) = files.map (·.1) ∧
        (again = first.schemas ↔ ∀ p ∈ first.schemas, ∀ q ∈ p.2.columns,
          q.2.default.isFinite = true ∧ (q.2.format = some "date-time" → q.2.type = .date))) ∧
    (stamping.now.HasFourDigitYear →
      (∀ file ∈ files, ∀ modified, later.tree.modified (base.toPath / Path.ofText file.2) =
        .ok modified → modified.asRead.HasFourDigitYear) →
      (StampedAfter stamping.now later.tree base files ↔ ∀ file ∈ files, ∀ modified,
        later.tree.modified (base.toPath / Path.ofText file.2) = .ok modified →
          modified.asRead.second ≤ stamping.now.second)) ∧
    (stamping.now.HasFourDigitYear →
      (∀ file ∈ files, ∀ modified, later.tree.modified (base.toPath / Path.ofText file.2) =
        .ok modified → modified.HasFourDigitYear ∧ modified.IsEarly) →
      (StampedAfter stamping.now later.tree base files ↔ ∀ file ∈ files, ∀ modified,
        later.tree.modified (base.toPath / Path.ofText file.2) = .ok modified →
          modified.second ≤ stamping.now.second)) := by
  obtain ⟨generated, hgenerated, hschemas, _⟩ := exists_generateSchemas_of_regenerate h
  obtain ⟨descriptions, hstamped⟩ := stampAll_of_generateSchemas hgenerated
  have hcoherent := Schema.coherent_of_generateSchemas hgenerated
  rw [← hschemas] at hstamped hcoherent
  have hall := stampAll_eq_ok_iff.mp hstamped
  have hnames := names_of_isStamped hall
  have hsound := sound_of_isStamped hall
  have hupToDate := upToDate_iff_of_isStamped hall hmarks hbase habsolute hsame
  have hsome : first.schemas ≠ [] := by
    intro hnil
    rw [hnil] at hnames
    exact hfiles (List.map_eq_nil_iff.mp hnames.symm)
  refine ⟨hnames, fun j' => ?read, fun hdefaults => ?documents, stampedAfter_iff,
    stampedAfter_iff_of_isEarly⟩
  case read =>
    rw [ensureSchemas_asRead_iff hsome, hlater, hupToDate, reusable_iff]
  case documents =>
    have hwritable : ∀ p ∈ first.schemas, p.2.Writable := fun p hp q hq =>
      ⟨_, Value.documentForm_of_isJson (hdefaults p hp q hq)⟩
    obtain ⟨documents, hdocuments⟩ := exists_haveDocuments hwritable
    refine ⟨documents, reread first.schemas, hdocuments, fun j' => ?_,
      (names_reread _).trans hnames,
      reread_eq_self_iff hcoherent (fun p hp => (hsound p hp).2) hdefaults⟩
    rw [ensureSchemas_asRaw_iff hdocuments (fun p hp => (hsound p hp).1) hsome, hlater, hupToDate,
      reusable_iff]

/-- The same a second later than `markedStamping`. -/
def nextSecond (stamping : Stamping) : Stamping :=
  { stamping with now := .ofMilliseconds 1760693413999 }

/-- A class with base columns, given back as its schema and as its document. The file for schemas,
which is not there, is not written again. -/
theorem ensureSchemas_reuses_marked : ∃ first documents,
    (ensureSchemas markedStamping {} [] (some oneColumn) [("A", "a.py")]
      (some "/srv/s.json")).outcome .empty = .ok first ∧
    first.schemas.map (·.1) = ["A"] ∧ HaveDocuments first.schemas documents ∧
    (ensureSchemas (nextSecond markedStamping) {} (asRead first.schemas) (some oneColumn)
      [("A", "a.py")] (some "/srv/s.json")).outcome .empty = .ok ⟨first.schemas, [], markedTree⟩ ∧
    (ensureSchemas (nextSecond markedStamping) {} (asRaw documents) (some oneColumn) [("A", "a.py")]
      (some "/srv/s.json")).outcome .empty = .ok ⟨first.schemas, [], markedTree⟩ := by
  have hrun : (((ensureSchemas markedStamping {} [] (some oneColumn) [("A", "a.py")]
      (some "/srv/s.json")).outcome .empty).toOption.map fun first =>
        first.schemas.all fun p => p.2.columns.all fun q =>
          q.2.default.isJson && q.2.default.isFinite && q.2.format.isNone) = some true := by
    decide
  obtain ⟨first, hfirst, hcolumns⟩ := Option.map_eq_some_iff.mp hrun
  have hfirst := Log.eq_ok_of_toOption hfirst
  simp only [List.all_eq_true, Bool.and_eq_true, Option.isNone_iff_eq_none] at hcolumns
  have hfound : markedTree.modified (.ofText "/srv" / .ofText "a.py") =
      .ok (.ofMilliseconds 1000) := by
    decide
  have hmodified : ∀ file ∈ [("A", "a.py")], ∀ modified,
      markedTree.modified (.ofText "/srv" / Path.ofText file.2) = .ok modified →
        modified = .ofMilliseconds 1000 := by
    intro file hfile modified h
    obtain rfl := List.mem_singleton.mp hfile
    exact Except.ok.inj (h.symm.trans hfound)
  have hbase : (nextSecond markedStamping).base = some (.text "/srv") := rfl
  have hsame : Unchanged markedStamping (nextSecond markedStamping).tree (.text "/srv")
      [("A", "a.py")] := fun _ _ => rfl
  have hyear : markedStamping.now.HasFourDigitYear ∧
      (Instant.ofMilliseconds 1000).HasFourDigitYear := by
    unfold Instant.HasFourDigitYear
    decide
  obtain ⟨hnames, hread, hdocuments, _, hstamps⟩ :=
    ensureSchemas_reuses hfirst (by decide) (by decide) rfl (by decide) hbase hsame
  have hreusable : Reusable markedStamping {} markedTree (.text "/srv") [("A", "a.py")] := by
    refine ⟨nofun, (hstamps hyear.1 fun file hfile modified h => ?_).mpr
      fun file hfile modified h => ?_⟩
    · exact hmodified file hfile modified h ▸ ⟨hyear.2, Instant.isEarly_ofMilliseconds 1000⟩
    · rw [hmodified file hfile modified h]
      decide
  obtain ⟨documents, again, hhave, hagain, _, hsame⟩ :=
    hdocuments fun p hp q hq => (hcolumns p hp q hq).1.1
  obtain rfl : again = first.schemas := hsame.mpr fun p hp q hq => by
    obtain ⟨⟨_, hfinite⟩, hformat⟩ := hcolumns p hp q hq
    refine ⟨hfinite, fun h => ?_⟩
    rw [hformat] at h
    cases h
  exact ⟨first, documents, hfirst, hnames, hhave, (hread _).mpr hreusable,
    (hagain _).mpr hreusable⟩

/-- Says of every class that it has a column with an infinite default. -/
def infiniteColumn : Generator := fun files _ =>
  return files.map fun (name, _) => (name, .raw (.object [("properties", .object
    [("n", .object [("default", .float (.infinity false))])])]))

/-- As `markedStamping`, without base columns. -/
def plainStamping : Stamping :=
  { markedStamping with baseColumns := none }

/-- A schema with an infinite default is given back from its document with no default. -/
theorem ensureSchemas_infiniteDefault : ∃ first s document second,
    (ensureSchemas plainStamping {} [] (some infiniteColumn) [("A", "a.py")] none).outcome .empty =
      .ok first ∧ first.schemas = [("A", s)] ∧
    (∀ q ∈ s.columns, q.2.default.isJson = true) ∧ s.document = .ok document ∧
    (ensureSchemas (nextSecond plainStamping) {} [("A", .raw document)] (some infiniteColumn)
      [("A", "a.py")] none).outcome .empty = .ok second ∧
    second.calls = [] ∧ second.schemas ≠ first.schemas := by
  have hrun : (do
      let first ← ((ensureSchemas plainStamping {} [] (some infiniteColumn) [("A", "a.py")]
        none).outcome .empty).toOption
      let s ← first.schemas.lookup "A"
      let document ← s.document.toOption
      let second ← ((ensureSchemas (nextSecond plainStamping) {} [("A", .raw document)]
        (some infiniteColumn) [("A", "a.py")] none).outcome .empty).toOption
      return (first.schemas.map (·.1), s.columns.all (·.2.default.isJson), second.calls.isEmpty,
        s.columns.map (·.2.default.isNull),
          second.schemas.map fun p => p.2.columns.map (·.2.default.isNull))) =
      some (["A"], true, true, [false], [[true]]) := by
    decide +kernel
  obtain ⟨first, hfirst, hrun⟩ := Option.bind_eq_some_iff.mp hrun
  obtain ⟨s, hs, hrun⟩ := Option.bind_eq_some_iff.mp hrun
  obtain ⟨document, hdocument, hrun⟩ := Option.bind_eq_some_iff.mp hrun
  obtain ⟨second, hsecond, hrun⟩ := Option.bind_eq_some_iff.mp hrun
  simp only [Option.pure_def, Option.some.injEq, Prod.mk.injEq] at hrun
  obtain ⟨hname, hjson, hcalls, hnull, hnulls⟩ := hrun
  have hschemas : first.schemas = [("A", s)] := by
    obtain ⟨⟨name, s'⟩, hsingle, hname⟩ := List.map_eq_singleton_iff.mp hname
    obtain rfl : name = "A" := hname
    rw [hsingle, List.lookup_cons_self] at hs
    rw [hsingle, Option.some.inj hs]
  refine ⟨first, s, document, second, Log.eq_ok_of_toOption hfirst, hschemas,
    List.all_eq_true.mp hjson, Log.eq_ok_of_toOption hdocument, Log.eq_ok_of_toOption hsecond,
    List.isEmpty_iff.mp hcalls, fun hsame => ?_⟩
  rw [hsame, hschemas, List.map_singleton, hnull] at hnulls
  exact absurd hnulls (by decide)

end Freshness

end SqlCompiler
