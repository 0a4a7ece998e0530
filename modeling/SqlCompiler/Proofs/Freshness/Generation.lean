import Mathlib.Data.List.Forall2
import SqlCompiler.Freshness.Generate
import SqlCompiler.Proofs.Freshness.Identity
import SqlCompiler.Proofs.Freshness.Verdict
import SqlCompiler.Proofs.Schema.Enhancing

/-!
# Generated schemas and their files

A generated schema has the id of its class file and the tag of what was read from that file. The id
leads back to the file, and to the second of the generation, exactly if the name of the file has no
hash sign; then the schema is fresh exactly as long as the file has a content of the same tag that
was not written in a later second (`generateSchemas_leadsBack`).
-/

namespace SqlCompiler

namespace Freshness

/-! ## Stamping -/

theorem get?_stampMembers (data : Members) (type id tag : String) :
    (stampMembers data type id tag).get? "$id" = some (.text id) ∧
      (stampMembers data type id tag).get? "etag" = some (.text tag) := by
  unfold stampMembers
  refine ⟨?_, ?_⟩
  · rw [Members.get?_put, if_neg (by decide), Members.get?_put, if_pos rfl]
  · rw [Members.get?_put, if_pos rfl]

/-- A stamped schema is read from a document with the stamp. -/
theorem exists_stampMembers_of_stamp {description : SchemaSource} {type id tag : String}
    {s : Schema} (h : stamp description type id tag = .ok s) :
    ∃ data, Schema.ofValue (.object (stampMembers data type id tag)) = .ok s := by
  cases description with
  | read _ | raw _ =>
    obtain ⟨data, _, hread⟩ := Log.bind_eq_ok_iff.mp h
    exact ⟨data, hread⟩

/-- A stamped schema has the id and the tag of the stamp. -/
theorem stamp_eq_ok {description : SchemaSource} {type id tag : String} {s : Schema}
    (h : stamp description type id tag = .ok s) : s.Sound ∧ s.id = some id ∧ s.etag = some tag := by
  obtain ⟨data, hread⟩ := exists_stampMembers_of_stamp h
  obtain ⟨_, hdata, hfields, _⟩ := Schema.ofValue_eq_ok_iff.mp hread
  cases hdata
  obtain ⟨hid, htag⟩ := get?_stampMembers data type id tag
  have hget {key : String} (hproperties : key ≠ "properties")
      (htext : key ∉ ["fullText", "full_text"]) (htable : key ≠ "table") :
      (Schema.normalize (stampMembers data type id tag)).get? key =
        (stampMembers data type id tag).get? key := by
    rw [Schema.get?_normalize hproperties, Schema.get?_listed htext, Schema.get?_nameTable htable]
  refine ⟨Schema.sound_of_ofValue hread, ?_, ?_⟩
  · have hgives := hfields.id
    rw [hget (by decide) (by decide) (by decide), hid, Option.some_or, Checked.gives_some,
      Checked.optional_text] at hgives
    exact (Checked.valid.inj hgives).symm
  · have hgives := hfields.etag
    rw [hget (by decide) (by decide) (by decide), htag, Checked.gives_some,
      Checked.optional_text] at hgives
    exact (Checked.valid.inj hgives).symm

variable {stamping : Stamping} {descriptions : Descriptions} {generator : Option Generator}
  {files : ClassFiles} {name : String} {file : Path} {description : SchemaSource} {s : Schema}
  {schemas : List (String × Schema)} {j : Log.Journal} {generated : Generated}

/-- The schema of a class has the id of its file and the tag of the content that was read. -/
theorem stampClass_eq_ok (h : stampClass stamping name file description = .ok s) :
    s.id = some (schemaId file stamping.now) ∧
      ∃ content, stamping.tree.read (classFile stamping.base file) = .ok content ∧
        s.etag = some (etag content) := by
  obtain ⟨tag, htag, h⟩ := Log.bind_eq_ok_iff.mp h
  obtain ⟨content, hcontent, rfl⟩ := fileEtag_eq_ok_iff.mp (ofFile_eq_ok_iff.mp htag)
  obtain ⟨stamped, hstamped, h⟩ := Log.bind_eq_ok_iff.mp h
  obtain ⟨hsound, hid, htag⟩ := stamp_eq_ok hstamped
  cases hbase : stamping.baseColumns with
  | none =>
    rw [hbase] at h
    obtain rfl : stamped = s := Except.ok.inj h
    exact ⟨hid, content, hcontent, htag⟩
  | some names =>
    rw [hbase] at h
    exact ⟨(Schema.id_enhance hsound h).trans hid, content, hcontent,
      (Schema.etag_enhance hsound h).trans htag⟩

/-- A schema that is made for a class from what the generator said about it. -/
def IsStamped (stamping : Stamping) (descriptions : Descriptions) (file : String × String)
    (schema : String × Schema) : Prop :=
  schema.1 = file.1 ∧ ∃ description, descriptions.lookup file.1 = some description ∧
    stampClass stamping file.1 (.ofText file.2) description = .ok schema.2

/-- Classes are stamped one by one. -/
theorem stampAll_eq_ok_iff : stampAll stamping descriptions files = .ok schemas ↔
    List.Forall₂ (IsStamped stamping descriptions) files schemas := by
  induction files generalizing schemas with
  | nil =>
    rw [List.forall₂_nil_left_iff]
    exact ⟨fun h => (Except.ok.inj h).symm, fun h => congrArg _ h.symm⟩
  | cons p files ih =>
    obtain ⟨name, file⟩ := p
    rw [List.forall₂_cons_left_iff]
    unfold stampAll
    cases hlookup : descriptions.lookup name with
    | none =>
      refine iff_of_false nofun ?_
      rintro ⟨_, _, ⟨_, description, hdescription, _⟩, _⟩
      cases hlookup.symm.trans hdescription
    | some description =>
      dsimp only
      constructor
      · intro h
        obtain ⟨s, hs, h⟩ := Log.bind_eq_ok_iff.mp h
        obtain ⟨rest, hrest, h⟩ := Log.bind_eq_ok_iff.mp h
        exact ⟨(name, s), rest, ⟨rfl, description, hlookup, hs⟩, ih.mp hrest,
          (Except.ok.inj h).symm⟩
      · rintro ⟨⟨_, s⟩, rest, ⟨rfl, description', hdescription, hs⟩, hrest, rfl⟩
        obtain rfl : description = description' :=
          Option.some.inj (hlookup.symm.trans hdescription)
        exact Log.bind_eq_ok_iff.mpr ⟨s, hs, Log.bind_eq_ok_iff.mpr ⟨rest, ih.mpr hrest, rfl⟩⟩

/-- What a generation gives is stamped from what its generator returns. -/
theorem stampAll_of_generateSchemas
    (h : (generateSchemas stamping generator files).outcome j = .ok generated) :
    ∃ descriptions, stampAll stamping descriptions files = .ok generated.schemas := by
  cases generator with
  | none => cases h
  | some generator =>
    obtain ⟨_, _, h⟩ := Log.outcome_bind_eq_ok_iff.mp h
    obtain ⟨descriptions, _, h⟩ := Log.outcome_bind_eq_ok_iff.mp h
    obtain ⟨schemas, hschemas, h⟩ := Log.outcome_bind_eq_ok_iff.mp h
    obtain ⟨_, _, h⟩ := Log.outcome_bind_eq_ok_iff.mp h
    rw [Log.outcome_lift] at hschemas
    obtain rfl := Except.ok.inj h
    exact ⟨descriptions, hschemas⟩

/-! ## The verdict on a stamped schema -/

theorem schemaId_ne_empty (file : Path) (now : Instant) : schemaId file now ≠ "" := by
  have hmark : '#' ∈ (schemaId file now).toList := by
    unfold schemaId
    simp [String.toList_append]
  intro h
  rw [h] at hmark
  cases hmark

variable {base : BaseDirectory} {now : Instant} {tree : FileTree}

/-- Where an id leads to is where the class file is read. -/
theorem eq_classFile_of_sourcePath {path : Path} {base : Option BaseDirectory}
    (hfile : file.Normal) (hmark : '#' ∉ file.text.toList)
    (h : sourcePath (schemaId file now) base = .ok path) : path = classFile base file := by
  have hwhole := Path.upToMark_eq_self hfile hmark
  by_cases habsolute : file.isAbsolute = true
  · rw [sourcePath_schemaId_of_isAbsolute hfile now base habsolute, hwhole] at h
    obtain rfl : file = path := Except.ok.inj h
    cases base with
    | none => rfl
    | some b => exact (if_pos habsolute).symm
  · obtain ⟨b, rfl, _, rfl⟩ := (sourcePath_schemaId_eq_ok_iff habsolute).mp h
    rw [hwhole]
    rfl

/-- A schema that is found fresh was judged by its class file and the second it was stamped in. -/
theorem isFresh_of_isOutdated {base : Option BaseDirectory} (hid : s.id = some (schemaId file now))
    (hfile : file.Normal) (hmark : '#' ∉ file.text.toList)
    (h : (isOutdated tree base (.read s)).outcome j = .ok false) :
    IsFresh tree (classFile base file) now.stamp s.etag := by
  obtain ⟨id, path, hid', _, hpath, hfresh⟩ := isOutdated_eq_false_iff.mp h
  obtain rfl : schemaId file now = id := Option.some.inj (hid.symm.trans hid')
  obtain rfl := eq_classFile_of_sourcePath hfile hmark hpath
  rwa [(stampOf_schemaId_iff file now).mpr hmark] at hfresh

/-- A schema is judged by its class file and the second it was stamped in. -/
theorem isOutdated_eq_false_iff_isFresh (hid : s.id = some (schemaId file now)) (hfile : file.Normal)
    (hmark : '#' ∉ file.text.toList) (hbase : base.toPath.isAbsolute = true) :
    (isOutdated tree (some base) (.read s)).outcome j = .ok false ↔
      IsFresh tree (base.toPath / file) now.stamp s.etag := by
  refine ⟨isFresh_of_isOutdated hid hfile hmark, fun hfresh => ?_⟩
  have hpath := (sourcePath_schemaId_iff hfile now hbase).mpr hmark
  have hstamp := (stampOf_schemaId_iff file now).mpr hmark
  exact isOutdated_eq_false_iff.mpr
    ⟨_, _, hid, schemaId_ne_empty file now, hpath, hstamp.symm ▸ hfresh⟩

/-- In years of four digits a file is as a schema says if its time is not read as one in a later
second and its content has the tag. -/
theorem isFresh_iff {path : Path} {content : List UInt8} {modified : Instant} {tag : Option String}
    (hfind : tree.find path = .ok (.file content modified))
    (hmodified : modified.asRead.HasFourDigitYear) (hnow : now.HasFourDigitYear) :
    IsFresh tree path now.stamp tag ↔
      modified.asRead.second ≤ now.second ∧ tag = some (etag content) := by
  have horder : ¬ now.stamp < modified.asRead.stamp ↔ modified.asRead.second ≤ now.second := by
    rw [Instant.stamp_lt_iff hnow hmodified, Int.not_lt]
  constructor
  · rintro ⟨_, _, hfind', _, hnotLater, htag⟩
    obtain ⟨rfl, rfl⟩ := FileNode.file.inj (Except.ok.inj (hfind.symm.trans hfind'))
    exact ⟨horder.mp hnotLater, htag⟩
  · rintro ⟨hle, htag⟩
    exact ⟨content, modified, hfind, Instant.isInCalendar_of_hasFourDigitYear hmodified,
      horder.mpr hle, htag⟩

/-- What ties a generated schema to its class file: it has the id of the file and the tag of the
content that was read. The id leads back to the file, and to the stamp, if the name of the file has
no hash sign. Then the schema is fresh as long as the file has a content of the same tag and a time
that is not read as one in a later second. Unless the file was written late in a second, its time is
read as one of the second in which it was written. -/
structure LeadsBack (stamping : Stamping) (base : BaseDirectory) (file : String) (s : Schema) :
    Prop where
  identity : s.id = some (schemaId (.ofText file) stamping.now)
  recorded : ∃ content, stamping.tree.read (base.toPath / Path.ofText file) = .ok content ∧
    s.etag = some (etag content)
  source_iff : sourcePath (schemaId (.ofText file) stamping.now) (some base) =
    .ok (base.toPath / Path.ofText file) ↔ '#' ∉ file.toList
  stamp_iff : stampOf (schemaId (.ofText file) stamping.now) = stamping.now.stamp ↔
    '#' ∉ file.toList
  fresh_iff : '#' ∉ file.toList → ∀ (tree : FileTree) (content : List UInt8) (modified : Instant)
    (j : Log.Journal), tree.find (base.toPath / Path.ofText file) = .ok (.file content modified) →
      modified.asRead.HasFourDigitYear → stamping.now.HasFourDigitYear →
        ((isOutdated tree (some base) (.read s)).outcome j = .ok false ↔
          modified.asRead.second ≤ stamping.now.second ∧ s.etag = some (etag content))
  fresh_iff_of_isEarly : '#' ∉ file.toList → ∀ (tree : FileTree) (content : List UInt8)
    (modified : Instant) (j : Log.Journal),
      tree.find (base.toPath / Path.ofText file) = .ok (.file content modified) →
      modified.HasFourDigitYear → modified.IsEarly → stamping.now.HasFourDigitYear →
        ((isOutdated tree (some base) (.read s)).outcome j = .ok false ↔
          modified.second ≤ stamping.now.second ∧ s.etag = some (etag content))

theorem leadsBack_of_stampClass {file : String} (hbase : stamping.base = some base)
    (habsolute : base.toPath.isAbsolute = true)
    (h : stampClass stamping name (.ofText file) description = .ok s) :
    LeadsBack stamping base file s := by
  obtain ⟨hid, content, hcontent, htag⟩ := stampClass_eq_ok h
  have hnormal := Path.normal_ofText file
  have hmark : '#' ∉ (Path.ofText file).text.toList ↔ '#' ∉ file.toList :=
    not_congr (Path.mem_text_ofText_iff (by decide) (by decide) file)
  rw [hbase] at hcontent
  exact {
    identity := hid
    recorded := ⟨content, hcontent, htag⟩
    source_iff := (sourcePath_schemaId_iff hnormal stamping.now habsolute).trans hmark
    stamp_iff := (stampOf_schemaId_iff (.ofText file) stamping.now).trans hmark
    fresh_iff := fun hplain _ _ _ _ hfind hmodified hnow =>
      (isOutdated_eq_false_iff_isFresh hid hnormal (hmark.mpr hplain) habsolute).trans
        (isFresh_iff hfind hmodified hnow)
    fresh_iff_of_isEarly := fun hplain _ _ modified _ hfind hmodified hearly hnow => by
      rw [isOutdated_eq_false_iff_isFresh hid hnormal (hmark.mpr hplain) habsolute,
        isFresh_iff hfind (Instant.hasFourDigitYear_asRead hmodified hearly) hnow,
        Instant.second_asRead_of_isEarly hmodified hearly] }

/-- **Generated ids.** Every generated schema belongs to its class and leads back to its file. -/
theorem generateSchemas_leadsBack
    (h : (generateSchemas stamping generator files).outcome j = .ok generated)
    (hbase : stamping.base = some base) (habsolute : base.toPath.isAbsolute = true) :
    List.Forall₂ (fun file schema => schema.1 = file.1 ∧ LeadsBack stamping base file.2 schema.2)
      files generated.schemas := by
  obtain ⟨descriptions, hall⟩ := stampAll_of_generateSchemas h
  refine (stampAll_eq_ok_iff.mp hall).imp ?_
  rintro file schema ⟨hname, description, _, hs⟩
  exact ⟨hname, leadsBack_of_stampClass hbase habsolute hs⟩

/-- A directory with two class files, one of them with a hash sign in its name. -/
def markedTree : FileTree where
  nodes := [(["srv"], .directory ⟨0⟩), (["srv", "a.py"], .file [49, 10] (.ofMilliseconds 1000)),
    (["srv", "b#1.py"], .file [50, 10] (.ofMilliseconds 1000))]
  current := ["srv"]

def markedStamping : Stamping :=
  ⟨markedTree, some (.text "/srv"), .ofMilliseconds 1760693412999, some ["id"]⟩

/-- Says of every class that it has one column. -/
def oneColumn : Generator := fun files _ =>
  return files.map fun (name, _) => (name, .raw (.object [("properties", .object [("n", .object [])])]))

/-- A relative file, and an absolute one with a hash sign. -/
theorem generateSchemas_leadsBack_marked :
    ∃ generated, (generateSchemas markedStamping (some oneColumn)
        [("A", "a.py"), ("B", "/srv/b#1.py")]).outcome .empty = .ok generated ∧
      markedStamping.base = some (.text "/srv") ∧
      (BaseDirectory.text "/srv").toPath.isAbsolute = true ∧
      List.Forall₂ (fun file schema =>
          schema.1 = file.1 ∧ LeadsBack markedStamping (.text "/srv") file.2 schema.2)
        [("A", "a.py"), ("B", "/srv/b#1.py")] generated.schemas := by
  have hok : ((generateSchemas markedStamping (some oneColumn)
      [("A", "a.py"), ("B", "/srv/b#1.py")]).outcome .empty).toOption.isSome = true := by
    decide
  obtain ⟨generated, hgenerated⟩ := Option.isSome_iff_exists.mp hok
  have hgenerated := Log.eq_ok_of_toOption hgenerated
  have habsolute : (BaseDirectory.text "/srv").toPath.isAbsolute = true := by decide
  exact ⟨generated, hgenerated, rfl, habsolute, generateSchemas_leadsBack hgenerated rfl habsolute⟩

/-- The id of a file with a hash sign leads to another file, which need not exist, and has another
stamp. The schema is not fresh, though nothing was written since. -/
theorem generateSchemas_markedFile :
    ∃ generated s id, (generateSchemas markedStamping (some oneColumn)
        [("B", "/srv/b#1.py")]).outcome .empty = .ok generated ∧
      generated.schemas = [("B", s)] ∧ s.id = some id ∧
      sourcePath id (some (.text "/srv")) = .ok (.ofText "/srv/b") ∧
      stampOf id ≠ markedStamping.now.stamp ∧
      (isOutdated markedTree (some (.text "/srv")) (.read s)).outcome .empty ≠ .ok false := by
  have hok : ((generateSchemas markedStamping (some oneColumn)
      [("B", "/srv/b#1.py")]).outcome .empty).toOption.isSome = true := by
    decide
  obtain ⟨generated, hgenerated⟩ := Option.isSome_iff_exists.mp hok
  have hgenerated := Log.eq_ok_of_toOption hgenerated
  obtain ⟨descriptions, hall⟩ := stampAll_of_generateSchemas hgenerated
  obtain ⟨⟨_, s⟩, _, ⟨rfl, _, _, hs⟩, hnil, hschemas⟩ :=
    List.forall₂_cons_left_iff.mp (stampAll_eq_ok_iff.mp hall)
  obtain rfl := List.forall₂_nil_left_iff.mp hnil
  have hid := (stampClass_eq_ok hs).1
  have hpath : sourcePath (schemaId (.ofText "/srv/b#1.py") markedStamping.now)
      (some (.text "/srv")) = .ok (.ofText "/srv/b") := by
    rw [sourcePath_schemaId (Path.normal_ofText _) _ (by decide)]
    exact congrArg Except.ok (by decide)
  have hmark : ¬ '#' ∉ (Path.ofText "/srv/b#1.py").text.toList := by decide
  refine ⟨generated, s, _, hgenerated, hschemas, hid, hpath,
    fun h => hmark ((stampOf_schemaId_iff _ _).mp h), fun h => ?_⟩
  obtain ⟨id, path, hid', _, hpath', hfresh⟩ := isOutdated_eq_false_iff.mp h
  obtain rfl := Option.some.inj (hid.symm.trans hid')
  obtain rfl := Except.ok.inj (hpath.symm.trans hpath')
  obtain ⟨_, _, hfind, _⟩ := hfresh.file
  cases hfind

end Freshness

end SqlCompiler
