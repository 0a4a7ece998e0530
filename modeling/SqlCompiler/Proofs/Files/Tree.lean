import SqlCompiler.Files.Tree
import SqlCompiler.Proofs.Log.Outcome

/-!
# Written files

A file that is written is read back (`read_of_write`), and everything else is as before
(`node?_of_write`). The way to a file only goes through directories, so it is not changed by what is
written at its end.
-/

namespace SqlCompiler.FileTree

variable {tree tree' : FileTree} {path : Path} {content : List UInt8} {t : Instant}
  {key key' : FileKey} {node : FileNode}

theorem lookup_filter_ne (nodes : List (FileKey × FileNode)) (h : key' ≠ key) :
    (nodes.filter fun (k, _) => k != key).lookup key' = nodes.lookup key' := by
  induction nodes with
  | nil => rfl
  | cons p nodes ih =>
    obtain ⟨k, node⟩ := p
    rw [List.filter_cons, List.lookup_cons]
    by_cases hk : k = key
    · subst hk
      rw [if_neg (by simp), ih, beq_false_of_ne h]
    · rw [if_pos (by simpa using hk), List.lookup_cons, ih]

/-- What is at a key after something was put at one. -/
theorem node?_put (h : key ≠ []) :
    (tree.put key node).node? key' = if key' = key then some node else tree.node? key' := by
  unfold node? put
  by_cases hempty : key'.isEmpty = true
  · obtain rfl := List.isEmpty_iff.mp hempty
    rw [if_pos hempty, if_pos hempty, if_neg (Ne.symm h)]
  · rw [if_neg hempty, if_neg hempty, List.lookup_cons]
    by_cases hkey : key' = key
    · subst hkey
      rw [if_pos rfl, beq_self_eq_true]
    · rw [if_neg hkey, beq_false_of_ne hkey, lookup_filter_ne _ hkey]

/-- Where there is no directory, what is put changes no way through the tree. -/
theorem follow_put (h : key ≠ []) (hnot : ∀ modified, tree.node? key ≠ some (.directory modified))
    {start : FileKey} {names : List String} (hfollow : tree.follow path start names = .ok key') :
    (tree.put key node).follow path start names = .ok key' := by
  induction names generalizing start with
  | nil => exact hfollow
  | cons name names ih =>
    unfold follow at hfollow ⊢
    rw [node?_put h]
    rcases hnode : tree.node? start with _ | _ | modified
    · rw [hnode] at hfollow
      cases hfollow
    · rw [hnode] at hfollow
      cases hfollow
    · rw [hnode] at hfollow
      have hstart : start ≠ key := by
        rintro rfl
        exact hnot modified hnode
      rw [if_neg hstart]
      exact ih hfollow

/-- What it takes to write a file: its name leads to a place in a directory, where there is no
directory yet. -/
theorem write_eq_ok_iff : tree.write path content t = .ok tree' ↔
    ∃ key modified, tree.key path = .ok key ∧ key ≠ [] ∧
      (∀ modified, tree.node? key ≠ some (.directory modified)) ∧
      tree.node? key.dropLast = some (.directory modified) ∧
      tree' = tree.put key (.file content t) := by
  unfold write
  rw [Log.bind_eq_ok_iff]
  constructor
  · rintro ⟨key, hkey, h⟩
    have hroot : key ≠ [] := by
      rintro rfl
      cases h
    rcases hparent : tree.node? key.dropLast with _ | _ | above <;>
      rcases hnode : tree.node? key with _ | _ | _ <;> rw [hnode, hparent] at h <;> cases h
    · exact ⟨key, above, hkey, hroot, hnode ▸ nofun, hparent, rfl⟩
    · exact ⟨key, above, hkey, hroot, hnode ▸ nofun, hparent, rfl⟩
  · rintro ⟨key, above, hkey, _, hnot, hparent, rfl⟩
    refine ⟨key, hkey, ?_⟩
    rcases hnode : tree.node? key with _ | _ | modified
    · rw [hparent]
    · rw [hparent]
    · exact absurd hnode (hnot modified)

/-- A file that was written has the content that was written. -/
theorem read_of_write (h : tree.write path content t = .ok tree') :
    tree'.read path = .ok content := by
  obtain ⟨key, _, hkey, hroot, hnot, _, rfl⟩ := write_eq_ok_iff.mp h
  have hkey' : (tree.put key (.file content t)).key path = .ok key := by
    unfold FileTree.key at hkey ⊢
    split at hkey
    · rw [if_pos ‹_›]
      exact follow_put hroot hnot hkey
    · cases hkey
  have hnode : (tree.put key (.file content t)).node? key = some (.file content t) := by
    rw [node?_put hroot, if_pos rfl]
  have hfind : (tree.put key (.file content t)).find path = .ok (.file content t) := by
    refine Log.bind_eq_ok_iff.mpr ⟨key, hkey', ?_⟩
    rw [hnode]
  exact Log.bind_eq_ok_iff.mpr ⟨_, hfind, rfl⟩

/-- Writing a file leaves everything else. -/
theorem node?_of_write (h : tree.write path content t = .ok tree') (key' : FileKey)
    (hkey' : tree.key path ≠ .ok key') : tree'.node? key' = tree.node? key' := by
  obtain ⟨key, _, hkey, hroot, _, _, rfl⟩ := write_eq_ok_iff.mp h
  rw [node?_put hroot, if_neg]
  rintro rfl
  exact hkey' hkey

end SqlCompiler.FileTree
