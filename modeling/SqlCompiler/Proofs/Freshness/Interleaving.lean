import Mathlib.Logic.Relation
import SqlCompiler.Proofs.Freshness.Generation
import SqlCompiler.Proofs.Freshness.Tag

/-!
# Generations while files are edited

A generation reads every class file twice: the generator reads it to describe the class, and after
the clock it is read again for the tag. Others may write the files at any time in between. A run is
a sequence of such steps (`Step`), and a generation in which nothing is written is one of its runs
(`exists_run_of_generateSchemas`).

After any run, a schema that is found fresh has the tag of what is in the file now. So what the
generator described is what is in the file exactly if both readings saw the same content
(`isFresh_of_run`); a file that was written between them leaves a schema of the old content that is
found fresh (`isFresh_of_lostEdit`).
-/

namespace SqlCompiler.Freshness

/-! ## Steps -/

/-- A generation of schemas: where class files lie, what is made of the content of a class file, and
the base columns, if any. -/
structure Job where
  base : Option BaseDirectory
  baseColumns : Option (List String)
  describe : String → List UInt8 → Except Error SchemaSource
  files : ClassFiles

/-- A class that the generator has described, with the content that it read. -/
structure Described where
  name : String
  file : String
  seen : List UInt8
  description : SchemaSource

/-- A class that has its schema, with the content that the generator read and the content that the
tag is of. -/
structure Stamped where
  name : String
  file : String
  seen : List UInt8
  tagged : List UInt8
  schema : Schema

/-- How far a generation is, and the files as they are now. -/
structure Progress where
  tree : FileTree
  waiting : ClassFiles
  described : List Described
  now : Option Instant
  stamped : List Stamped

namespace Job

/-- Where a class file is read. -/
def path (job : Job) (file : String) : Path :=
  classFile job.base (.ofText file)

/-- How classes are stamped when the files are as given. -/
def stamping (job : Job) (tree : FileTree) (now : Instant) : Stamping :=
  ⟨tree, job.base, now, job.baseColumns⟩

def start (job : Job) (tree : FileTree) : Progress :=
  ⟨tree, job.files, [], none, []⟩

end Job

/-- One step of a generation, or any change of the files meanwhile: the generator describes one class
after the other, the clock is read, and the classes get their schemas one after the other. -/
inductive Step (job : Job) : Progress → Progress → Prop
  | edit (p : Progress) (tree : FileTree) : Step job p { p with tree }
  | describe {p : Progress} {name file : String} {rest : ClassFiles} {content : List UInt8}
      {description : SchemaSource} (hwaiting : p.waiting = (name, file) :: rest)
      (hread : p.tree.read (job.path file) = .ok content)
      (hdescribe : job.describe name content = .ok description) :
      Step job p { p with
        waiting := rest
        described := p.described ++ [⟨name, file, content, description⟩] }
  | clock {p : Progress} (now : Instant) (hwaiting : p.waiting = []) (hnow : p.now = none) :
      Step job p { p with now := some now }
  -- The content is the one that `stampClass` makes the tag of.
  | stamp {p : Progress} {d : Described} {rest : List Described} {now : Instant}
      {content : List UInt8} {s : Schema} (hdescribed : p.described = d :: rest)
      (hnow : p.now = some now) (hread : p.tree.read (job.path d.file) = .ok content)
      (hstamp : stampClass (job.stamping p.tree now) d.name (.ofText d.file) d.description = .ok s) :
      Step job p { p with
        described := rest
        stamped := p.stamped ++ [⟨d.name, d.file, d.seen, content, s⟩] }

/-- What happens from one progress to another. -/
abbrev Run (job : Job) : Progress → Progress → Prop :=
  Relation.ReflTransGen (Step job)

variable {job : Job} {p q : Progress} {x : Stamped} {tree : FileTree} {now : Instant}
  {j : Log.Journal}

/-! ## What steps keep -/

/-- A schema that describes one content of a file and has the tag of another. -/
structure Stamped.IsFrom (job : Job) (now : Instant) (x : Stamped) : Prop where
  origin : ∃ tree description, job.describe x.name x.seen = .ok description ∧
    tree.read (job.path x.file) = .ok x.tagged ∧
    stampClass (job.stamping tree now) x.name (.ofText x.file) description = .ok x.schema

/-- What every progress is like. -/
structure Progress.Sound (job : Job) (p : Progress) : Prop where
  described : ∀ d ∈ p.described, job.describe d.name d.seen = .ok d.description
  stamped : ∀ x ∈ p.stamped, ∃ now, p.now = some now ∧ x.IsFrom job now

theorem sound_start (job : Job) (tree : FileTree) : (job.start tree).Sound job :=
  ⟨List.forall_mem_nil _, List.forall_mem_nil _⟩

theorem Step.sound (h : Step job p q) (hp : p.Sound job) : q.Sound job := by
  cases h with
  | edit tree => exact ⟨hp.described, hp.stamped⟩
  | describe hwaiting hread hdescribe =>
    refine ⟨fun d hd => ?_, hp.stamped⟩
    rcases List.mem_append.mp hd with hd | hd
    · exact hp.described d hd
    · rw [List.mem_singleton.mp hd]
      exact hdescribe
  | clock now hwaiting hnow =>
    refine ⟨hp.described, fun x hx => ?_⟩
    obtain ⟨earlier, hearlier, _⟩ := hp.stamped x hx
    cases hnow.symm.trans hearlier
  | stamp hdescribed hnow hread hstamp =>
    refine ⟨fun d hd => hp.described d (hdescribed ▸ List.mem_cons_of_mem _ hd), fun x hx => ?_⟩
    rcases List.mem_append.mp hx with hx | hx
    · exact hp.stamped x hx
    · rw [List.mem_singleton.mp hx]
      have hdescribe := hp.described _ (hdescribed ▸ List.mem_cons_self)
      exact ⟨_, hnow, _, _, hdescribe, hread, hstamp⟩

theorem Run.sound (h : Run job p q) (hp : p.Sound job) : q.Sound job := by
  induction h with
  | refl => exact hp
  | tail _ hstep ih => exact hstep.sound ih

/-! ## Runs without edits -/

/-- The classes of files as they are described when nobody writes. -/
def Job.describeAll (job : Job) (tree : FileTree) : ClassFiles → Except Error (List Described)
  | [] => .ok []
  | (name, file) :: rest => do
    let content ← ofFile (tree.read (job.path file))
    let description ← job.describe name content
    return ⟨name, file, content, description⟩ :: (← job.describeAll tree rest)

/-- The generator of a job when nobody writes. -/
def Job.generator (job : Job) (tree : FileTree) : Generator := fun files _ => do
  let described ← job.describeAll tree files
  return described.map fun d => (d.name, d.description)

variable {files : ClassFiles} {ds : List Described} {descriptions : Descriptions}
  {schemas : List (String × Schema)} {generated : Generated}

theorem describeAll_cons_eq_ok_iff {name file : String} :
    job.describeAll tree ((name, file) :: files) = .ok ds ↔ ∃ content description rest,
      tree.read (job.path file) = .ok content ∧ job.describe name content = .ok description ∧
      job.describeAll tree files = .ok rest ∧ ds = ⟨name, file, content, description⟩ :: rest := by
  rw [Job.describeAll]
  simp only [Log.bind_eq_ok_iff, ofFile_eq_ok_iff]
  constructor
  · rintro ⟨content, hcontent, description, hdescription, rest, hrest, h⟩
    exact ⟨content, description, rest, hcontent, hdescription, hrest, (Except.ok.inj h).symm⟩
  · rintro ⟨content, description, rest, hcontent, hdescription, hrest, rfl⟩
    exact ⟨content, hcontent, description, hdescription, rest, hrest, rfl⟩

/-- What is described has been read. -/
theorem read_of_describeAll (h : job.describeAll tree files = .ok ds) :
    ds.map (fun d => (d.name, d.file)) = files ∧
      ∀ d ∈ ds, tree.read (job.path d.file) = .ok d.seen := by
  induction files generalizing ds with
  | nil =>
    obtain rfl : [] = ds := Except.ok.inj h
    exact ⟨rfl, List.forall_mem_nil _⟩
  | cons p files ih =>
    obtain ⟨content, description, rest, hcontent, _, hrest, rfl⟩ := describeAll_cons_eq_ok_iff.mp h
    obtain ⟨hfiles, hread⟩ := ih hrest
    exact ⟨congrArg _ hfiles, List.forall_mem_cons.mpr ⟨hcontent, hread⟩⟩

theorem run_describeAll (h : job.describeAll tree files = .ok ds) (htree : p.tree = tree)
    (hwaiting : p.waiting = files) :
    Run job p { p with waiting := [], described := p.described ++ ds } := by
  induction files generalizing p ds with
  | nil =>
    obtain rfl : [] = ds := Except.ok.inj h
    rw [List.append_nil, ← hwaiting]
  | cons c files ih =>
    obtain ⟨content, description, rest, hcontent, hdescription, hrest, rfl⟩ :=
      describeAll_cons_eq_ok_iff.mp h
    have hstep := Step.describe hwaiting (htree ▸ hcontent) hdescription
    have hrun := ih (p := { p with
      waiting := files
      described := p.described ++ [⟨c.1, c.2, content, description⟩] }) hrest htree rfl
    rw [List.append_assoc, List.singleton_append] at hrun
    exact .head hstep hrun

theorem run_stampAll (h : List.Forall₂ (IsStamped (job.stamping tree now) descriptions)
      (ds.map fun d => (d.name, d.file)) schemas)
    (hlookup : ∀ d ∈ ds, descriptions.lookup d.name = some d.description)
    (hread : ∀ d ∈ ds, tree.read (job.path d.file) = .ok d.seen) (htree : p.tree = tree)
    (hdescribed : p.described = ds) (hnow : p.now = some now) :
    ∃ xs, Run job p { p with described := [], stamped := p.stamped ++ xs } ∧
      xs.map (fun x => (x.name, x.schema)) = schemas ∧ ∀ x ∈ xs, x.seen = x.tagged := by
  induction ds generalizing p schemas with
  | nil =>
    obtain rfl := List.forall₂_nil_left_iff.mp h
    refine ⟨[], ?_, rfl, List.forall_mem_nil _⟩
    rw [List.append_nil, ← hdescribed]
  | cons d ds ih =>
    obtain ⟨⟨_, s⟩, rest, ⟨rfl, description, hdescription, hs⟩, hrest, rfl⟩ :=
      List.forall₂_cons_left_iff.mp h
    obtain ⟨hlookupd, hlookup⟩ := List.forall_mem_cons.mp hlookup
    obtain ⟨hreadd, hread⟩ := List.forall_mem_cons.mp hread
    obtain rfl : description = d.description := Option.some.inj (hdescription.symm.trans hlookupd)
    have hstep := Step.stamp hdescribed hnow (htree ▸ hreadd) (htree ▸ hs)
    obtain ⟨xs, hrun, hxs, hall⟩ := ih (p := { p with
      described := ds
      stamped := p.stamped ++ [⟨d.name, d.file, d.seen, d.seen, s⟩] })
      hrest hlookup hread htree rfl hnow
    refine ⟨⟨d.name, d.file, d.seen, d.seen, s⟩ :: xs, ?_, congrArg _ hxs,
      List.forall_mem_cons.mpr ⟨rfl, hall⟩⟩
    rw [List.append_assoc, List.singleton_append] at hrun
    exact .head hstep hrun

theorem lookup_of_mem_described (h : (ds.map (·.name)).Nodup) :
    ∀ d ∈ ds, (ds.map fun d => (d.name, d.description)).lookup d.name = some d.description := by
  induction ds with
  | nil => exact List.forall_mem_nil _
  | cons d ds ih =>
    obtain ⟨hne, hrest⟩ := List.nodup_cons.mp h
    refine List.forall_mem_cons.mpr ⟨?_, fun d' hd' => ?_⟩
    · rw [List.map_cons, List.lookup_cons, beq_self_eq_true]
    · have hother : d'.name ≠ d.name := fun heq =>
        hne (List.mem_map.mpr ⟨d', hd', heq⟩)
      rw [List.map_cons, List.lookup_cons, beq_false_of_ne hother]
      exact ih hrest d' hd'

/-- A generation in which nobody writes is a run, and its tags are of what its generator read. -/
theorem exists_run_of_generateSchemas (hnames : (job.files.map (·.1)).Nodup)
    (h : (generateSchemas (job.stamping tree now) (some (job.generator tree)) job.files).outcome j =
      .ok generated) :
    ∃ p, Run job (job.start tree) p ∧ p.tree = tree ∧
      p.stamped.map (fun x => (x.name, x.schema)) = generated.schemas ∧
      ∀ x ∈ p.stamped, x.seen = x.tagged := by
  obtain ⟨_, _, h⟩ := Log.outcome_bind_eq_ok_iff.mp h
  obtain ⟨descriptions, hdescriptions, h⟩ := Log.outcome_bind_eq_ok_iff.mp h
  obtain ⟨schemas, hschemas, h⟩ := Log.outcome_bind_eq_ok_iff.mp h
  obtain ⟨_, _, h⟩ := Log.outcome_bind_eq_ok_iff.mp h
  obtain rfl := Except.ok.inj h
  obtain ⟨ds, hds, h⟩ := Log.outcome_bind_eq_ok_iff.mp hdescriptions
  obtain rfl := Except.ok.inj h
  rw [Log.outcome_lift] at hschemas hds
  obtain ⟨hfiles, hread⟩ := read_of_describeAll hds
  have hdistinct : (ds.map (·.name)).Nodup := by
    rw [← hfiles, List.map_map] at hnames
    exact hnames
  have hlookup := lookup_of_mem_described hdistinct
  have hdescribe := run_describeAll (p := job.start tree) hds rfl rfl
  have hclock : Step job ⟨tree, [], ds, none, []⟩ ⟨tree, [], ds, some now, []⟩ :=
    .clock now rfl rfl
  obtain ⟨xs, hstamp, hxs, hall⟩ := run_stampAll (p := ⟨tree, [], ds, some now, []⟩)
    (hfiles ▸ stampAll_eq_ok_iff.mp hschemas) hlookup hread rfl rfl rfl
  exact ⟨_, (hdescribe.tail hclock).trans hstamp, rfl, hxs, hall⟩

/-! ## The verdict after a run -/

/-- A schema that is found fresh has the tag of what is in its file. -/
theorem exists_read_of_isOutdated (hx : x.IsFrom job now) (hmark : '#' ∉ x.file.toList)
    (h : (isOutdated tree job.base (.read x.schema)).outcome j = .ok false) :
    ∃ content, tree.read (job.path x.file) = .ok content ∧ etag content = etag x.tagged := by
  obtain ⟨earlier, description, _, hread, hstamp⟩ := hx.origin
  obtain ⟨hid, content, hcontent, htag⟩ := stampClass_eq_ok hstamp
  obtain rfl : x.tagged = content := Except.ok.inj (hread.symm.trans hcontent)
  have hmark : '#' ∉ (Path.ofText x.file).text.toList := fun hmem =>
    hmark ((Path.mem_text_ofText_iff (by decide) (by decide) x.file).mp hmem)
  have hfresh := isFresh_of_isOutdated hid (Path.normal_ofText x.file) hmark h
  obtain ⟨current, modified, hfind, _, _, htag'⟩ := hfresh.file
  exact ⟨current, read_eq_ok_iff.mpr ⟨modified, hfind⟩,
    (Option.some.inj (htag.symm.trans htag')).symm⟩

/-- **Fresh after a run.** Whatever was written during a generation, a schema that is found fresh
afterwards describes a content that the generator read, and has the tag of what is in the file now.
So it describes what is in the file exactly if the generator read what the tag is of. -/
theorem isFresh_of_run (hrun : Run job (job.start tree) p) (hx : x ∈ p.stamped)
    (hmark : '#' ∉ x.file.toList)
    (hfresh : (isOutdated p.tree job.base (.read x.schema)).outcome j = .ok false)
    (hcollision : ∀ content, p.tree.read (job.path x.file) = .ok content →
      Sha1.digest content = Sha1.digest x.tagged → content = x.tagged) :
    (∃ now, p.now = some now ∧ x.IsFrom job now) ∧
      p.tree.read (job.path x.file) = .ok x.tagged ∧
      (p.tree.read (job.path x.file) = .ok x.seen ↔ x.seen = x.tagged) := by
  obtain ⟨now, hnow, hfrom⟩ := (hrun.sound (sound_start job tree)).stamped x hx
  obtain ⟨content, hcontent, htag⟩ := exists_read_of_isOutdated hfrom hmark hfresh
  obtain rfl := hcollision content hcontent (digest_eq_of_etag_eq htag)
  refine ⟨⟨now, hnow, hfrom⟩, hcontent, ?_⟩
  rw [hcontent, Except.ok.injEq]
  exact eq_comm

/-- A class whose file is described by its size. -/
def sizeJob : Job where
  base := some (.text "/srv")
  baseColumns := none
  describe := fun _ content => .ok (.raw (.object
    [("properties", .object [("n", .object [("maxLength", .int content.length)])])]))
  files := [("A", "a.py")]

/-- The directory with the file, which was modified at a number of milliseconds. -/
def treeWith (content : List UInt8) (modified : Int) : FileTree :=
  ⟨[(["srv"], .directory ⟨0⟩), (["srv", "a.py"], .file content (.ofMilliseconds modified))],
    ["srv"]⟩

theorem find_treeWith (content : List UInt8) (modified : Int) :
    (treeWith content modified).find (sizeJob.path "a.py") =
      .ok (.file content (.ofMilliseconds modified)) := rfl

theorem read_treeWith (content : List UInt8) (modified : Int) :
    (treeWith content modified).read (sizeJob.path "a.py") = .ok content :=
  read_eq_ok_iff.mpr ⟨_, find_treeWith content modified⟩

/-- The clock when the schema is stamped. -/
def fiveSeconds : Instant :=
  .ofMilliseconds 5000

/-- The file is written after the generator has read it and before the clock is read. -/
theorem exists_run_rewritten (old new : List UInt8) {description : SchemaSource}
    (hdescribe : sizeJob.describe "A" old = .ok description)
    (hok : (stampClass (sizeJob.stamping (treeWith new 2000) fiveSeconds) "A" (.ofText "a.py")
      description).toOption.isSome = true) (j : Log.Journal) :
    ∃ s, Run sizeJob (sizeJob.start (treeWith old 1000))
        ⟨treeWith new 2000, [], [], some fiveSeconds, [⟨"A", "a.py", old, new, s⟩]⟩ ∧
      (isOutdated (treeWith new 2000) sizeJob.base (.read s)).outcome j = .ok false := by
  obtain ⟨s, hs⟩ := Option.isSome_iff_exists.mp hok
  have hs := Log.eq_ok_of_toOption hs
  have hdescribed : Step sizeJob (sizeJob.start (treeWith old 1000))
      ⟨treeWith old 1000, [], [⟨"A", "a.py", old, description⟩], none, []⟩ :=
    .describe rfl (read_treeWith old 1000) hdescribe
  have hedited : Step sizeJob
      ⟨treeWith old 1000, [], [⟨"A", "a.py", old, description⟩], none, []⟩
      ⟨treeWith new 2000, [], [⟨"A", "a.py", old, description⟩], none, []⟩ := .edit _ _
  have hclock : Step sizeJob
      ⟨treeWith new 2000, [], [⟨"A", "a.py", old, description⟩], none, []⟩
      ⟨treeWith new 2000, [], [⟨"A", "a.py", old, description⟩], some fiveSeconds, []⟩ :=
    .clock _ rfl rfl
  have hstamped : Step sizeJob
      ⟨treeWith new 2000, [], [⟨"A", "a.py", old, description⟩], some fiveSeconds, []⟩
      ⟨treeWith new 2000, [], [], some fiveSeconds, [⟨"A", "a.py", old, new, s⟩]⟩ :=
    .stamp (d := ⟨"A", "a.py", old, description⟩) rfl rfl (read_treeWith new 2000) hs
  obtain ⟨_, content, hcontent, htag⟩ := stampClass_eq_ok hs
  obtain rfl : new = content := Except.ok.inj ((read_treeWith new 2000).symm.trans hcontent)
  have hback : LeadsBack (sizeJob.stamping (treeWith new 2000) fiveSeconds) (.text "/srv") "a.py"
      s := leadsBack_of_stampClass rfl (by decide) hs
  have hyears : (Instant.ofMilliseconds 2000).HasFourDigitYear ∧
      fiveSeconds.HasFourDigitYear := by
    unfold Instant.HasFourDigitYear
    decide
  have horder : (Instant.ofMilliseconds 2000).second ≤ fiveSeconds.second := by decide
  have hverdict := (hback.fresh_iff_of_isEarly (by decide) _ new (.ofMilliseconds 2000) j
    (find_treeWith new 2000) hyears.1 (Instant.isEarly_ofMilliseconds 2000)
    hyears.2).mpr ⟨horder, htag⟩
  exact ⟨s, (((Relation.ReflTransGen.single hdescribed).tail hedited).tail hclock).tail hstamped,
    hverdict⟩

/-- A file that is written again with what was in it. -/
theorem isFresh_of_run_rewritten : ∃ p x, Run sizeJob (sizeJob.start (treeWith [49] 1000)) p ∧
    x ∈ p.stamped ∧ '#' ∉ x.file.toList ∧
    (isOutdated p.tree sizeJob.base (.read x.schema)).outcome .empty = .ok false ∧
    (∀ content, p.tree.read (sizeJob.path x.file) = .ok content →
      Sha1.digest content = Sha1.digest x.tagged → content = x.tagged) ∧
    (∃ now, p.now = some now ∧ x.IsFrom sizeJob now) ∧
    p.tree.read (sizeJob.path x.file) = .ok x.tagged ∧
    (p.tree.read (sizeJob.path x.file) = .ok x.seen ↔ x.seen = x.tagged) := by
  obtain ⟨s, hrun, hverdict⟩ :=
    exists_run_rewritten [49] [49] rfl (by decide) .empty
  have hmark : '#' ∉ "a.py".toList := by decide
  have hcollision : ∀ content, (treeWith [49] 2000).read (sizeJob.path "a.py") = .ok content →
      Sha1.digest content = Sha1.digest [49] → content = [49] := fun content hcontent _ =>
    (Except.ok.inj ((read_treeWith [49] 2000).symm.trans hcontent)).symm
  exact ⟨_, _, hrun, List.mem_singleton_self _, hmark, hverdict, hcollision,
    isFresh_of_run hrun (List.mem_singleton_self _) hmark hverdict hcollision⟩

/-- A file that is written after it was described leaves a schema of the old content that is found
fresh. -/
theorem isFresh_of_lostEdit : ∃ p x, Run sizeJob (sizeJob.start (treeWith [49] 1000)) p ∧
    x ∈ p.stamped ∧ (isOutdated p.tree sizeJob.base (.read x.schema)).outcome .empty = .ok false ∧
    Sha1.digest [49] ≠ Sha1.digest [50, 50] ∧ x.seen = [49] ∧
    p.tree.read (sizeJob.path x.file) = .ok [50, 50] := by
  obtain ⟨s, hrun, hverdict⟩ :=
    exists_run_rewritten [49] [50, 50] rfl (by decide +kernel) .empty
  have hdigest : Sha1.digest [49] ≠ Sha1.digest [50, 50] := by decide +kernel
  exact ⟨_, _, hrun, List.mem_singleton_self _, hverdict, hdigest, rfl,
    read_treeWith [50, 50] 2000⟩

end SqlCompiler.Freshness
