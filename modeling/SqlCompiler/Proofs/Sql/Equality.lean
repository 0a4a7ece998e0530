import Mathlib.Data.Set.Card
import SqlCompiler.Proofs.Value.Display
import SqlCompiler.Sql.Hash
import SqlCompiler.Sql.Term

/-!
# Equal fragments

Fragments are compared by what they are built of, and literals by their display. Equal fragments
render equally nevertheless, as long as their values are told by their display: such fragments are
equal only if they are the same (`alike_iff_eq`).

1. To be alike is to have the same fragment of displays (`alike_iff_displayed`), so it is an
   equivalence.
2. Hashes follow the comparison (`hash_congr`), so a set finds every member that is like a fragment.
3. The members of a set stand for what has been put into it (`StandsFor`): they do after one more
   fragment (`StandsFor.insertInto`), so they do in the end, and there is one for each class.
-/

namespace SqlCompiler.Sql.Fragment

mutual

/-- A fragment with the display of each literal in place of its value. -/
def displayed : Fragment → Fragment
  | literal value => literal (.text value.display)
  | sequence parts => sequence (allDisplayed parts)
  | f => f

/-- Each of the fragments with the displays of its literals. -/
def allDisplayed : List Fragment → List Fragment
  | [] => []
  | part :: rest => displayed part :: allDisplayed rest

end

mutual

/-- Whether the values in a fragment are made of null, truth values, whole numbers, texts, lists and
objects. -/
def isExact : Fragment → Bool
  | literal value => value.isExact
  | sequence parts => areExact parts
  | _ => true

/-- Whether the values in each of the fragments are made of these. -/
def areExact : List Fragment → Bool
  | [] => true
  | part :: rest => isExact part && areExact rest

end

/-! ## Comparison -/

mutual

theorem alike_iff_displayed : ∀ {f g : Fragment}, f.alike g = true ↔ f.displayed = g.displayed
  | verbatim _, g | identifier _, g | literal _, g | placeholder, g => by
    cases g <;> simp [alike, displayed]
  | sequence parts, g => by
    cases g with
    | sequence parts' =>
      rw [alike, displayed, displayed, sequence.injEq]
      exact alikeAll_iff_allDisplayed
    | _ => simp [alike, displayed]

theorem alikeAll_iff_allDisplayed : ∀ {fs gs : List Fragment},
    alikeAll fs gs = true ↔ allDisplayed fs = allDisplayed gs
  | [], gs => by cases gs <;> simp [alikeAll, allDisplayed]
  | f :: fs, gs => by
    cases gs with
    | nil => simp [alikeAll, allDisplayed]
    | cons g gs =>
      rw [alikeAll, Bool.and_eq_true_iff, allDisplayed, allDisplayed, List.cons.injEq,
        alike_iff_displayed, alikeAll_iff_allDisplayed]

end

theorem alike_equivalence : Equivalence fun f g : Fragment => f.alike g = true where
  refl _ := alike_iff_displayed.mpr rfl
  symm h := alike_iff_displayed.mpr (alike_iff_displayed.mp h).symm
  trans h h' :=
    alike_iff_displayed.mpr ((alike_iff_displayed.mp h).trans (alike_iff_displayed.mp h'))

mutual

theorem displayed_inj : ∀ {f g : Fragment}, f.isExact = true → g.isExact = true →
    f.displayed = g.displayed → f = g
  | verbatim _, g, _, _, h | identifier _, g, _, _, h | placeholder, g, _, _, h => by
    cases g <;> simp_all [displayed]
  | literal v, g, hf, hg, h => by
    cases g with
    | literal w =>
      have hdisplay : v.display = w.display := by simpa [displayed] using h
      rw [(Value.display_inj hf hg).mp hdisplay]
    | _ => simp [displayed] at h
  | sequence parts, g, hf, hg, h => by
    cases g with
    | sequence parts' =>
      have hparts : allDisplayed parts = allDisplayed parts' := by simpa [displayed] using h
      rw [allDisplayed_inj hf hg hparts]
    | _ => simp [displayed] at h

theorem allDisplayed_inj : ∀ {fs gs : List Fragment}, areExact fs = true → areExact gs = true →
    allDisplayed fs = allDisplayed gs → fs = gs
  | [], gs, _, _, h => by
    cases gs with
    | nil => rfl
    | cons g gs => cases h
  | f :: fs, gs, hfs, hgs, h => by
    cases gs with
    | nil => cases h
    | cons g gs =>
      obtain ⟨hf, hfs⟩ := Bool.and_eq_true_iff.mp hfs
      obtain ⟨hg, hgs⟩ := Bool.and_eq_true_iff.mp hgs
      obtain ⟨hhead, htail⟩ := List.cons.inj h
      rw [displayed_inj hf hg hhead, allDisplayed_inj hfs hgs htail]

end

/-- Where the values are told by their display, fragments are alike only if they are the same. -/
theorem alike_iff_eq {f g : Fragment} (hf : f.isExact = true) (hg : g.isExact = true) :
    f.alike g = true ↔ f = g :=
  alike_iff_displayed.trans ⟨displayed_inj hf hg, congrArg _⟩

/-! ## Hashes -/

section Hashes

variable {η : Type} (hashing : Hashing η)

mutual

theorem keyHash_congr : ∀ {f g : Fragment}, f.alike g = true →
    f.kind = g.kind ∧ keyHash hashing f = keyHash hashing g
  | verbatim _, g, h | identifier _, g, h | literal _, g, h | placeholder, g, h => by
    cases g <;> simp_all [alike, kind, keyHash]
  | sequence parts, g, h => by
    cases g with
    | sequence parts' => exact ⟨rfl, congrArg hashing.row (hashAll_congr h)⟩
    | _ => simp [alike] at h

theorem hashAll_congr : ∀ {fs gs : List Fragment}, alikeAll fs gs = true →
    hashAll hashing fs = hashAll hashing gs
  | [], gs, h => by
    cases gs with
    | nil => rfl
    | cons g gs => cases h
  | f :: fs, gs, h => by
    cases gs with
    | nil => cases h
    | cons g gs =>
      obtain ⟨hhead, htail⟩ := Bool.and_eq_true_iff.mp h
      obtain ⟨hkind, hkey⟩ := keyHash_congr hhead
      rw [hashAll, hashAll, hkind, hkey, hashAll_congr htail]

end

/-- Fragments that are alike have one hash. -/
theorem hash_congr {f g : Fragment} (h : f.alike g = true) : hash hashing f = hash hashing g := by
  obtain ⟨hkind, hkey⟩ := keyHash_congr hashing h
  rw [hash, hash, hkind, hkey]

variable [DecidableEq η]

/-- A fragment is put into a set unless a member is like it. -/
theorem insertInto_eq (members : List Fragment) (f : Fragment) :
    insertInto hashing members f =
      if members.any (·.alike f) then members else members ++ [f] := by
  have hlike (g : Fragment) : (decide (hash hashing g = hash hashing f) && g.alike f) =
      g.alike f := by
    cases h : g.alike f with
    | false => rw [Bool.and_false]
    | true => rw [decide_eq_true (hash_congr hashing h), Bool.and_true]
  unfold insertInto
  simp only [hlike]

end Hashes

/-! ## Sets -/

/-- The members of a set are fragments that have been put into it, one of them is like each of
these, and no two of them are alike. -/
structure StandsFor (members fs : List Fragment) : Prop where
  mem : ∀ g ∈ members, g ∈ fs
  like : ∀ f ∈ fs, ∃ g ∈ members, g.alike f = true
  apart : members.Pairwise fun f g => ¬ f.alike g = true

/-- The fragments that are like one. -/
def likes (f : Fragment) : Set Fragment :=
  {g | f.alike g = true}

theorem likes_eq_iff {f g : Fragment} : likes f = likes g ↔ f.alike g = true := by
  constructor
  · intro h
    have hmem : g ∈ likes g := alike_equivalence.refl g
    rwa [← h] at hmem
  · intro h
    ext other
    exact ⟨alike_equivalence.trans (alike_equivalence.symm h), alike_equivalence.trans h⟩

section Sets

variable {η : Type} [DecidableEq η] (hashing : Hashing η) {members fs : List Fragment}

theorem StandsFor.insertInto (h : StandsFor members fs) (f : Fragment) :
    StandsFor (insertInto hashing members f) (fs ++ [f]) := by
  rw [insertInto_eq]
  by_cases hany : members.any (·.alike f) = true
  · rw [if_pos hany]
    obtain ⟨g, hg, hlike⟩ := List.any_eq_true.mp hany
    refine ⟨fun g hg => List.mem_append_left _ (h.mem g hg), ?_, h.apart⟩
    intro other hother
    rcases List.mem_append.mp hother with hother | hother
    · exact h.like other hother
    · rw [List.mem_singleton.mp hother]
      exact ⟨g, hg, hlike⟩
  · rw [if_neg hany]
    have hnone : ∀ g ∈ members, ¬ g.alike f = true :=
      fun g hg hlike => hany (List.any_eq_true.mpr ⟨g, hg, hlike⟩)
    refine ⟨?_, ?_, ?_⟩
    · intro g hg
      rcases List.mem_append.mp hg with hg | hg
      · exact List.mem_append_left _ (h.mem g hg)
      · exact List.mem_append_right _ hg
    · intro other hother
      rcases List.mem_append.mp hother with hother | hother
      · obtain ⟨g, hg, hlike⟩ := h.like other hother
        exact ⟨g, List.mem_append_left _ hg, hlike⟩
      · exact ⟨other, List.mem_append_right _ hother, alike_equivalence.refl other⟩
    · rw [List.pairwise_append]
      refine ⟨h.apart, List.pairwise_singleton _ _, fun g hg other hother => ?_⟩
      rw [List.mem_singleton.mp hother]
      exact hnone g hg

theorem standsFor_foldl (h : StandsFor members fs) (more : List Fragment) :
    StandsFor (more.foldl (Fragment.insertInto hashing) members) (fs ++ more) := by
  induction more generalizing members fs with
  | nil => rwa [List.append_nil]
  | cons f more ih =>
    rw [List.append_cons, List.foldl_cons]
    exact ih (h.insertInto hashing f)

theorem standsFor_setOf (fs : List Fragment) : StandsFor (setOf hashing fs) fs :=
  standsFor_foldl hashing
    ⟨List.forall_mem_nil _, List.forall_mem_nil _, List.Pairwise.nil⟩ fs

/-- Members that stand for fragments are as many as the classes of these. -/
theorem StandsFor.length_eq (h : StandsFor members fs) :
    members.length = (likes '' {f | f ∈ fs}).ncard := by
  classical
  have himage : likes '' {f | f ∈ fs} = ((members.map likes).toFinset : Set (Set Fragment)) := by
    ext c
    rw [List.coe_toFinset]
    constructor
    · rintro ⟨f, hf, rfl⟩
      obtain ⟨g, hg, hlike⟩ := h.like f hf
      exact List.mem_map.mpr ⟨g, hg, likes_eq_iff.mpr hlike⟩
    · intro hc
      obtain ⟨g, hg, rfl⟩ := List.mem_map.mp hc
      exact ⟨g, h.mem g hg, rfl⟩
  have hnodup : (members.map likes).Nodup :=
    List.Pairwise.map _ (fun _ _ hne heq => hne (likes_eq_iff.mp heq)) h.apart
  rw [himage, Set.ncard_coe_finset, List.toFinset_card_of_nodup hnodup, List.length_map]

theorem foldl_fragments (members fs : List Fragment) :
    (fs.map Term.fragment).foldl
        (fun seen a => if seen.any (Term.alike · a) then seen else seen ++ [a])
        (members.map .fragment) =
      (fs.foldl (Fragment.insertInto hashing) members).map .fragment := by
  induction fs generalizing members with
  | nil => rfl
  | cons f fs ih =>
    have hany : (members.map Term.fragment).any (Term.alike · (.fragment f)) =
        members.any (·.alike f) := List.any_map
    rw [List.map_cons, List.foldl_cons, List.foldl_cons, hany, insertInto_eq]
    split
    · exact ih members
    · rw [← ih (members ++ [f]), List.map_append]
      rfl

/-- A set of terms that are fragments has the members of the set of the fragments. -/
theorem distinct_fragments (fs : List Fragment) :
    Term.distinct (fs.map .fragment) = .ok ((setOf hashing fs).map .fragment) := by
  have hkeys : (fs.map Term.fragment).all Term.isKey = true := by
    simp [Term.isKey]
  unfold Term.distinct
  rw [if_pos hkeys]
  exact congrArg Except.ok (foldl_fragments hashing [] fs)

end Sets

/-- **Equal fragments.** To be alike is an equivalence. Fragments that are alike have one hash,
however it is made, so a set has as many members as there are classes of fragments that are put
into it, and they render equally, for every quote of identifiers, where their values are made of
null, truth values, whole numbers, texts, lists and objects. -/
theorem alike_congruence :
    (Equivalence fun f g : Fragment => f.alike g = true) ∧
      (∀ f g : Fragment, f.isExact = true → g.isExact = true → f.alike g = true → ∀ quote,
        f.render quote = g.render quote ∧ f.render? quote = g.render? quote) ∧
      ∀ {η : Type} [DecidableEq η] (hashing : Hashing η),
        (∀ f g : Fragment, f.alike g = true → hash hashing f = hash hashing g) ∧
          ∀ fs, Term.distinct (fs.map .fragment) = .ok ((setOf hashing fs).map .fragment) ∧
            (setOf hashing fs).length = (likes '' {f | f ∈ fs}).ncard := by
  refine ⟨alike_equivalence, fun f g hf hg h quote => ?_, fun hashing => ⟨?_, fun fs => ?_⟩⟩
  · obtain rfl := (alike_iff_eq hf hg).mp h
    exact ⟨rfl, rfl⟩
  · exact fun f g h => hash_congr hashing h
  · exact ⟨distinct_fragments hashing fs, (standsFor_setOf hashing fs).length_eq⟩

/-- A condition that is put together in two ways, and a set of fragments that all have one hash. -/
theorem alike_congruence_append :
    ((name "a b").append ((verbatim " = ").append (literal (.list [.text "it's", .null])))).render
        "`" = (sequence [name "a b", verbatim " = ",
          literal (.list [.text "it's", .null])]).render "`" ∧
      (likes '' {f | f ∈ [placeholder, verbatim "?", placeholder]}).ncard = 2 := by
  obtain ⟨_, hrender, hset⟩ := alike_congruence
  refine ⟨(hrender _ _ (by decide) (by decide) (by decide +kernel) "`").1, ?_⟩
  have hsize := ((@hset Unit _ ⟨fun _ => (), fun _ => (), fun _ => ()⟩).2
    [placeholder, verbatim "?", placeholder]).2
  rw [← hsize]
  decide

end SqlCompiler.Sql.Fragment
