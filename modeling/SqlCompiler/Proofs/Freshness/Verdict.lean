import SqlCompiler.Freshness.Outdated
import SqlCompiler.Proofs.Calendar.Reading
import SqlCompiler.Proofs.Log.Outcome

/-!
# When a schema is fresh

A schema is not outdated exactly if its id leads to a file whose time is not read as one in a later
second than the id says, and whose content has the tag of the schema (`isOutdated_eq_false_iff`).
-/

namespace SqlCompiler

theorem Log.outcome_block {ε α : Type} (change : Change) (a : Logged ε α) (j : Journal) :
    (block change a).outcome j = a.outcome (j.enter change) := rfl

namespace Freshness

theorem ofFile_eq_ok_iff {α : Type} {x : Except FileError α} {a : α} :
    ofFile x = .ok a ↔ x = .ok a := by
  cases x with
  | error e => exact iff_of_false nofun nofun
  | ok b => exact ⟨fun h => congrArg _ (Except.ok.inj h), fun h => congrArg _ (Except.ok.inj h)⟩

theorem fileEtag_eq_ok_iff {tree : FileTree} {path : Path} {tag : String} :
    fileEtag tree path = .ok tag ↔ ∃ content, tree.read path = .ok content ∧ tag = etag content := by
  unfold fileEtag
  rw [Log.bind_eq_ok_iff]
  constructor
  · rintro ⟨content, hcontent, h⟩
    exact ⟨content, hcontent, (Except.ok.inj h).symm⟩
  · rintro ⟨content, hcontent, rfl⟩
    exact ⟨content, hcontent, rfl⟩

theorem read_eq_ok_iff {tree : FileTree} {path : Path} {content : List UInt8} :
    tree.read path = .ok content ↔ ∃ modified, tree.find path = .ok (.file content modified) := by
  unfold FileTree.read
  rw [Log.bind_eq_ok_iff]
  constructor
  · rintro ⟨node, hnode, h⟩
    cases node with
    | file content' modified =>
      obtain rfl : content' = content := Except.ok.inj h
      exact ⟨modified, hnode⟩
    | directory modified => cases h
  · rintro ⟨modified, hnode⟩
    exact ⟨_, hnode, rfl⟩

theorem modifiedStamp_eq_ok_iff {tree : FileTree} {path : Path} {stamp : String} :
    modifiedStamp tree path = .ok stamp ↔ ∃ node, tree.find path = .ok node ∧
      node.modified.asRead.isInCalendar = true ∧ stamp = node.modified.asRead.stamp := by
  unfold modifiedStamp FileTree.modified
  simp only [Log.bind_eq_ok_iff, ofFile_eq_ok_iff]
  constructor
  · rintro ⟨modified, ⟨node, hnode, hmodified⟩, h⟩
    obtain rfl : node.modified = modified := Except.ok.inj hmodified
    by_cases hcalendar : node.modified.asRead.isInCalendar = true
    · rw [if_pos hcalendar] at h
      exact ⟨node, hnode, hcalendar, (Except.ok.inj h).symm⟩
    · rw [if_neg hcalendar] at h
      cases h
  · rintro ⟨node, hnode, hcalendar, rfl⟩
    exact ⟨_, ⟨node, hnode, rfl⟩, if_pos hcalendar⟩

/-- What a file must be like for a schema with a stamp and a tag to be fresh. -/
structure IsFresh (tree : FileTree) (path : Path) (stamp : String) (tag : Option String) : Prop where
  file : ∃ content modified, tree.find path = .ok (.file content modified) ∧
    modified.asRead.isInCalendar = true ∧ ¬ stamp < modified.asRead.stamp ∧
      tag = some (etag content)

theorem judge_eq_fresh_iff {tree : FileTree} {path : Path} {stamp : String} {tag : Option String} :
    judge tree path stamp tag = .ok .fresh ↔ IsFresh tree path stamp tag := by
  unfold judge
  rw [Log.bind_eq_ok_iff]
  constructor
  · rintro ⟨text, htext, h⟩
    obtain ⟨node, hnode, hcalendar, rfl⟩ := modifiedStamp_eq_ok_iff.mp htext
    by_cases hlater : stamp < node.modified.asRead.stamp
    · rw [if_pos hlater] at h
      cases h
    · rw [if_neg hlater] at h
      obtain ⟨current, hcurrent, h⟩ := Log.bind_eq_ok_iff.mp h
      obtain ⟨content, hread, rfl⟩ := fileEtag_eq_ok_iff.mp (ofFile_eq_ok_iff.mp hcurrent)
      obtain ⟨modified, hfile⟩ := read_eq_ok_iff.mp hread
      obtain rfl : node = .file content modified := Except.ok.inj (hnode.symm.trans hfile)
      by_cases htag : tag = some (etag content)
      · exact ⟨content, modified, hfile, hcalendar, hlater, htag⟩
      · rw [if_neg htag] at h
        cases h
  · rintro ⟨content, modified, hfile, hcalendar, hlater, rfl⟩
    refine ⟨_, modifiedStamp_eq_ok_iff.mpr ⟨_, hfile, hcalendar, rfl⟩, ?_⟩
    have htag := fileEtag_eq_ok_iff.mpr ⟨content, read_eq_ok_iff.mpr ⟨modified, hfile⟩, rfl⟩
    have hnot : ¬ stamp < (FileNode.file content modified).modified.asRead.stamp := hlater
    rw [if_neg hnot, ofFile_eq_ok_iff.mpr htag]
    exact if_pos rfl

theorem sourceOf_eq_ok_iff {s : Schema} {base : Option BaseDirectory} {id : String} {path : Path} :
    sourceOf s base = .ok (id, path) ↔
      s.id = some id ∧ id ≠ "" ∧ sourcePath id base = .ok path := by
  unfold sourceOf
  split
  · rename_i hid
    exact iff_of_false nofun fun ⟨h, hne, _⟩ => hne (Option.some.inj (h.symm.trans hid))
  · rename_i hid
    exact iff_of_false nofun fun ⟨h, _, _⟩ => by rw [hid] at h; cases h
  · rename_i id' hne hid
    rw [hid, Option.some.injEq]
    cases hpath : sourcePath id' base with
    | error e =>
      refine iff_of_false nofun ?_
      rintro ⟨rfl, _, h⟩
      rw [hpath] at h
      cases h
    | ok path' =>
      constructor
      · intro h
        obtain ⟨rfl, rfl⟩ := Prod.mk.inj (Except.ok.inj h)
        exact ⟨rfl, fun h => hne h, hpath⟩
      · rintro ⟨rfl, _, h⟩
        rw [hpath] at h
        rw [Except.ok.inj h]

/-- **Fresh schemas.** A schema is not outdated exactly if its id leads to a file as the schema says.
-/
theorem isOutdated_eq_false_iff {tree : FileTree} {base : Option BaseDirectory} {s : Schema}
    {j : Log.Journal} : (isOutdated tree base (.read s)).outcome j = .ok false ↔
      ∃ id path, s.id = some id ∧ id ≠ "" ∧ sourcePath id base = .ok path ∧
        IsFresh tree path (stampOf id) s.etag := by
  unfold isOutdated
  rw [Log.outcome_bind_eq_ok_iff]
  constructor
  · rintro ⟨s', hs, h⟩
    obtain rfl : s = s' := Except.ok.inj ((Log.outcome_lift _ j).symm.trans hs)
    obtain ⟨⟨id, path⟩, hsource, h⟩ := Log.outcome_bind_eq_ok_iff.mp h
    rw [Log.outcome_lift] at hsource
    obtain ⟨hid, hne, hpath⟩ := sourceOf_eq_ok_iff.mp hsource
    dsimp only at h
    rw [Log.outcome_block] at h
    obtain ⟨verdict, hverdict, h⟩ := Log.outcome_bind_eq_ok_iff.mp h
    rw [Log.outcome_lift] at hverdict
    cases verdict with
    | fresh => exact ⟨id, path, hid, hne, hpath, judge_eq_fresh_iff.mp hverdict⟩
    | modifiedLater modified => cases h
    | contentChanged tag => cases h
  · rintro ⟨id, path, hid, hne, hpath, hfresh⟩
    refine ⟨s, Log.outcome_lift _ j, Log.outcome_bind_eq_ok_iff.mpr ⟨(id, path), ?_, ?_⟩⟩
    · rw [Log.outcome_lift]
      exact sourceOf_eq_ok_iff.mpr ⟨hid, hne, hpath⟩
    · dsimp only
      rw [Log.outcome_block]
      refine Log.outcome_bind_eq_ok_iff.mpr ⟨.fresh, ?_, rfl⟩
      rw [Log.outcome_lift]
      exact judge_eq_fresh_iff.mpr hfresh

end Freshness

end SqlCompiler
