import SqlCompiler.Proofs.Calendar.Universal
import SqlCompiler.Proofs.Freshness.Verdict

/-!
# Stamps in the order of time

A schema is found outdated in two stages: by the second in which its file was modified, and by the
content of the file. The first stage compares stamps as texts. In the years 1000 to 9999 these are
in the order of their seconds, whatever the offsets in which the times were taken. The second of the
file is the one that its time is read as, which late in a second is the next one (`stamp_inOrder`).
-/

namespace SqlCompiler.Freshness

variable {tree : FileTree} {path : Path} {stamp : String} {tag : Option String} {node : FileNode}

/-- The first stage compares the stamps, and only it finds that a file was modified later. -/
theorem judge_eq_modifiedLater_iff (hfind : tree.find path = .ok node)
    (hcalendar : node.modified.asRead.isInCalendar = true) :
    (∃ modified, judge tree path stamp tag = .ok (.modifiedLater modified)) ↔
      stamp < node.modified.asRead.stamp := by
  have hmodified := modifiedStamp_eq_ok_iff.mpr ⟨node, hfind, hcalendar, rfl⟩
  unfold judge
  rw [hmodified]
  constructor
  · rintro ⟨modified, h⟩
    by_cases hlater : stamp < node.modified.asRead.stamp
    · exact hlater
    · -- The second stage finds other content at most.
      obtain ⟨text, htext, h⟩ := Log.bind_eq_ok_iff.mp h
      obtain rfl := Except.ok.inj htext
      rw [if_neg hlater] at h
      obtain ⟨current, _, h⟩ := Log.bind_eq_ok_iff.mp h
      split at h <;> cases h
  · intro hlater
    exact ⟨node.modified.asRead.stamp, if_pos hlater⟩

/-- A time that is read as one outside of the calendar has no stamp. -/
theorem judge_eq_error (hfind : tree.find path = .ok node)
    (hcalendar : node.modified.asRead.isInCalendar = false) :
    judge tree path stamp tag = .error (.misuse .badNumber) := by
  have hmodified : tree.modified path = .ok node.modified := by
    unfold FileTree.modified
    rw [hfind]
    rfl
  unfold judge modifiedStamp
  rw [hmodified]
  exact congrArg (· >>= _) (if_neg (Bool.eq_false_iff.mp hcalendar))

/-- What the first stage says of a file, for the stamp of a second: the time of the file is read as
one of its own second or as the start of the next one, and compared in whole seconds. -/
structure FirstStage (tree : FileTree) (path : Path) (stamp : String) (tag : Option String)
    (stamped : Int) (modified : Instant) : Prop where
  asRead : modified.asRead.second = modified.second ∨ modified.asRead.second = modified.second + 1
  later_iff : modified.asRead.HasFourDigitYear →
    ((∃ text, judge tree path stamp tag = .ok (.modifiedLater text)) ↔
      stamped < modified.asRead.second)
  refused : ¬ modified.asRead.HasFourDigitYear →
    judge tree path stamp tag = .error (.misuse .badNumber)
  later_iff_of_isEarly : modified.IsEarly →
    ((∃ text, judge tree path stamp tag = .ok (.modifiedLater text)) ↔ stamped < modified.second)

theorem firstStage {stamped : Instant} (hstamped : stamped.HasFourDigitYear)
    (hfind : tree.find path = .ok node) (hmodified : node.modified.HasFourDigitYear) :
    FirstStage tree path stamped.stamp tag stamped.second node.modified := by
  obtain ⟨hasRead, _⟩ := Instant.second_asRead (Instant.isInCalendar_of_hasFourDigitYear hmodified)
  have hlater : node.modified.asRead.HasFourDigitYear →
      ((∃ text, judge tree path stamped.stamp tag = .ok (.modifiedLater text)) ↔
        stamped.second < node.modified.asRead.second) := fun hyear => by
    rw [judge_eq_modifiedLater_iff hfind (Instant.isInCalendar_of_hasFourDigitYear hyear),
      Instant.stamp_lt_iff hstamped hyear]
  refine ⟨hasRead, hlater, fun hyear => judge_eq_error hfind ?_, fun hearly => ?_⟩
  · -- Only the last second of all is read as one without a stamp.
    unfold Instant.HasFourDigitYear at hmodified hyear
    unfold Instant.isInCalendar
    rw [Bool.and_eq_false_iff, decide_eq_false_iff_not, decide_eq_false_iff_not]
    omega
  · rw [hlater (Instant.hasFourDigitYear_asRead hmodified hearly),
      Instant.second_asRead_of_isEarly hmodified hearly]

/-- A schema is outdated if the verdict on it is another one than that it is fresh. -/
theorem outcome_isOutdated {base : Option BaseDirectory} {source : SchemaSource} {s : Schema}
    {id : String} (hs : source.toSchema = .ok s) (hsource : sourceOf s base = .ok (id, path))
    (j : Log.Journal) : (isOutdated tree base source).outcome j =
      (judge tree path (stampOf id) s.etag).map fun verdict => decide (verdict ≠ .fresh) := by
  unfold isOutdated
  rw [Log.outcome_bind_of_eq_ok ((Log.outcome_lift _ j).trans hs),
    Log.outcome_bind_of_eq_ok ((Log.outcome_lift _ _).trans hsource)]
  dsimp only
  rw [Log.outcome_block, Log.outcome_bind, Log.outcome_lift]
  rcases judge tree path (stampOf id) s.etag with e | verdict
  · rfl
  · cases verdict <;> rfl

/-- A time east of universal time, on the day after a leap day. -/
def eastTime : DateTime :=
  ⟨⟨2024, 3, 1⟩, ⟨1, 30, 5, 999999, some 7200000000⟩⟩

/-- A microsecond later, west of universal time and still on the leap day. -/
def westTime : DateTime :=
  ⟨⟨2024, 2, 29⟩, ⟨18, 30, 6, 0, some (-18000000000)⟩⟩

/-- A schema of a file, with an id that is stamped. -/
def stampedSchema (stamp : String) (tag : Option String) : Schema :=
  ⟨none, none, none, [], [], [], [], [], [], some ("file:///m.py#" ++ stamp), tag⟩

/-- A directory with the file, which was modified at an instant. -/
def treeOf (modified : Instant) : FileTree where
  nodes := [(["m.py"], .file [49, 10] modified)]
  current := []

/-- A file that was modified late in the second of the stamp. -/
def lateInstant : Instant :=
  ⟨1700000000999999800⟩

end SqlCompiler.Freshness
