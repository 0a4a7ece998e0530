import SqlCompiler.Sql.Template

/-!
# Names in fragments

A fragment can be written if none of the paths in it is without names and no name is empty
(`nameError?_eq_none_iff`). Where every path has names, an empty one is all that can be wrong, and it
is reported (`nameErrorIn?_eq_some`).
-/

namespace SqlCompiler.Sql.Fragment

mutual

/-- The paths of names in a fragment, in order. -/
def paths : Fragment → List (List String)
  | identifier path => [path]
  | sequence parts => pathsIn parts
  | _ => []

/-- The paths of names in fragments, one behind the other. -/
def pathsIn : List Fragment → List (List String)
  | [] => []
  | part :: rest => paths part ++ pathsIn rest

end

theorem pathsIn_eq_flatMap (parts : List Fragment) : pathsIn parts = parts.flatMap paths := by
  induction parts with
  | nil => rfl
  | cons part rest ih => rw [pathsIn, ih, List.flatMap_cons]

theorem pathsIn_append (parts more : List Fragment) :
    pathsIn (parts ++ more) = pathsIn parts ++ pathsIn more := by
  simp only [pathsIn_eq_flatMap, List.flatMap_append]

theorem mem_pathsIn {parts : List Fragment} {path : List String} :
    path ∈ pathsIn parts ↔ ∃ part ∈ parts, path ∈ part.paths := by
  rw [pathsIn_eq_flatMap, List.mem_flatMap]

/-- A text between fragments brings no names in. -/
theorem paths_joined (separator : String) (parts : List Fragment) :
    (joined separator parts).paths = pathsIn parts := by
  show pathsIn (interleave (verbatim separator) parts) = pathsIn parts
  induction parts with
  | nil => rfl
  | cons part rest ih =>
    cases rest with
    | nil => rfl
    | cons next rest => exact congrArg (part.paths ++ ·) ih

theorem pathsIn_map_name (names : List String) : pathsIn (names.map .name) = names.map ([·]) := by
  induction names with
  | nil => rfl
  | cons name names ih => exact congrArg ([name] :: ·) ih

/-- A template has the names of what fills its slots. -/
theorem mem_paths_fill {σ : Type} {fill : σ → Fragment} {template : Template σ}
    {path : List String} (h : path ∈ (template.fill fill).paths) :
    ∃ slot, Piece.slot slot ∈ template ∧ path ∈ (fill slot).paths := by
  obtain ⟨part, hpart, hpath⟩ := mem_pathsIn.mp h
  obtain ⟨piece, hpiece, rfl⟩ := List.mem_map.mp hpart
  cases piece with
  | text s => cases hpath
  | slot slot => exact ⟨slot, hpiece, hpath⟩

mutual

theorem nameError?_eq_none_iff : ∀ f : Fragment,
    f.nameError? = none ↔ ∀ path ∈ f.paths, path ≠ [] ∧ "" ∉ path
  | identifier [] => by simp [nameError?, paths]
  | identifier (name :: path) => by simp [nameError?, paths]
  | verbatim _ => by simp [nameError?, paths]
  | literal _ => by simp [nameError?, paths]
  | placeholder => by simp [nameError?, paths]
  | sequence parts => by
    rw [nameError?, paths]
    exact nameErrorIn?_eq_none_iff parts

theorem nameErrorIn?_eq_none_iff : ∀ parts : List Fragment,
    nameErrorIn? parts = none ↔ ∀ path ∈ pathsIn parts, path ≠ [] ∧ "" ∉ path
  | [] => by simp [nameErrorIn?, pathsIn]
  | part :: rest => by
    rw [nameErrorIn?, pathsIn, Option.or_eq_none_iff, nameError?_eq_none_iff part,
      nameErrorIn?_eq_none_iff rest, List.forall_mem_append]

end

mutual

theorem eq_of_nameError?_eq_some : ∀ {f : Fragment} {e : FragmentError}, f.nameError? = some e →
    e = .badName (.text "") ∨ [] ∈ f.paths
  | identifier [], _, _ => .inr (List.mem_singleton_self _)
  | identifier (name :: path), e, h => by
    have hname : (if (name :: path).contains "" then some (FragmentError.badName (.text ""))
      else none) = some e := h
    split at hname
    · exact .inl (Option.some.inj hname).symm
    · cases hname
  | verbatim _, _, h => nomatch h
  | literal _, _, h => nomatch h
  | placeholder, _, h => nomatch h
  | sequence _, _, h => eq_of_nameErrorIn?_eq_some h

theorem eq_of_nameErrorIn?_eq_some : ∀ {parts : List Fragment} {e : FragmentError},
    nameErrorIn? parts = some e → e = .badName (.text "") ∨ [] ∈ pathsIn parts
  | [], _, h => nomatch h
  | part :: rest, e, h => by
    rw [nameErrorIn?, Option.or_eq_some_iff] at h
    rw [pathsIn, List.mem_append]
    rcases h with h | ⟨_, h⟩
    · exact (eq_of_nameError?_eq_some h).imp_right .inl
    · exact (eq_of_nameErrorIn?_eq_some h).imp_right .inr

end

/-- Where every path has names, the error about a list of fragments is that a name is empty. -/
theorem nameErrorIn?_eq_some {parts : List Fragment} (h : [] ∉ pathsIn parts)
    {path : List String} (hpath : path ∈ pathsIn parts) (hblank : "" ∈ path) :
    nameErrorIn? parts = some (.badName (.text "")) := by
  cases herror : nameErrorIn? parts with
  | none => exact absurd hblank ((nameErrorIn?_eq_none_iff parts).mp herror path hpath).2
  | some e => rw [(eq_of_nameErrorIn?_eq_some herror).resolve_right h]

end SqlCompiler.Sql.Fragment
