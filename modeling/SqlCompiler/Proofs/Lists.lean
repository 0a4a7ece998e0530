import Mathlib.Data.List.Forall2
import Mathlib.Data.List.Nodup

/-!
# Lists

What the theory needs of lists: members that correspond to each other one by one, members under
names, lists without repetition, and lists in another order.
-/

namespace SqlCompiler

variable {α β : Type}

/-! ## Corresponding members -/

theorem forall_mem_of_forall₂ {R : α → β → Prop} {P : β → Prop} {as : List α} {bs : List β}
    (h : List.Forall₂ R as bs) (hP : ∀ a b, R a b → P b) : ∀ b ∈ bs, P b := by
  induction h with
  | nil => exact nofun
  | cons hab _ ih => exact List.forall_mem_cons.mpr ⟨hP _ _ hab, ih⟩

theorem map_eq_map_of_forall₂ {γ : Type} {R : α → β → Prop} {f : α → γ} {g : β → γ} {as : List α}
    {bs : List β} (h : List.Forall₂ R as bs) (hR : ∀ a b, R a b → f a = g b) :
    as.map f = bs.map g := by
  induction h with
  | nil => rfl
  | cons hab _ ih => rw [List.map_cons, List.map_cons, hR _ _ hab, ih]

/-! ## Members under names -/

theorem lookup_map_snd (f : α → β) (l : List (String × α)) (key : String) :
    (l.map fun p => (p.1, f p.2)).lookup key = (l.lookup key).map f := by
  induction l with
  | nil => rfl
  | cons p l ih =>
    rw [List.map_cons, List.lookup_cons, List.lookup_cons, ih]
    cases key == p.1 <;> rfl

theorem map_snd_eq_self_iff {f : α → α} {l : List (String × α)} :
    (l.map fun p => (p.1, f p.2)) = l ↔ ∀ p ∈ l, f p.2 = p.2 := by
  induction l with
  | nil => exact iff_of_true rfl (List.forall_mem_nil _)
  | cons p l ih =>
    rw [List.map_cons, List.cons.injEq, List.forall_mem_cons, ih, Prod.ext_iff]
    exact and_congr_left fun _ => and_iff_right rfl

/-! ## Lists without repetition -/

theorem nodup_eraseDups [BEq α] [LawfulBEq α] (l : List α) : l.eraseDups.Nodup := by
  induction hn : l.length using Nat.strongRecOn generalizing l with
  | _ n ih =>
    subst hn
    cases l with
    | nil => exact List.nodup_nil
    | cons a l =>
      rw [List.eraseDups_cons, List.nodup_cons, List.mem_eraseDups]
      refine ⟨by simp, ih _ ?_ _ rfl⟩
      exact Nat.lt_succ_of_le (List.length_filter_le _ l)

/-- Parts that all exist are distinct exactly if equal parts come from equal members. -/
theorem nodup_filterMap_iff {f : α → Option β} {l : List α} (hl : l.Nodup)
    (hf : ∀ a ∈ l, (f a).isSome) : (l.filterMap f).Nodup ↔ ∀ a ∈ l, ∀ b ∈ l, f a = f b → a = b := by
  have hmap : (l.filterMap f).map some = l.map f := by
    induction l with
    | nil => rfl
    | cons a l ih =>
      obtain ⟨ha, hrest⟩ := List.forall_mem_cons.mp hf
      obtain ⟨b, hb⟩ := Option.isSome_iff_exists.mp ha
      rw [List.filterMap_cons_some hb, List.map_cons, List.map_cons, hb,
        ih (List.nodup_cons.mp hl).2 hrest]
  rw [← List.nodup_map_iff (fun _ _ => Option.some.inj), hmap, List.nodup_map_iff_inj_on hl]

/-- Members are removed whatever the order in which they are given. -/
theorem removeAll_congr {removed removed' l : List String}
    (h : ∀ a, a ∈ removed ↔ a ∈ removed') : l.removeAll removed = l.removeAll removed' := by
  unfold List.removeAll
  refine List.filter_congr fun a _ => ?_
  rw [List.elem_eq_mem, List.elem_eq_mem, decide_eq_decide.mpr (h a)]

theorem removeAll_removeAll (l removed further : List String) :
    (l.removeAll removed).removeAll further = l.removeAll (further ++ removed) := by
  unfold List.removeAll
  rw [List.filter_filter]
  refine List.filter_congr fun a _ => ?_
  simp [List.mem_append]

/-! ## Lists in another order -/

/-- A key that stands once is found at any position. -/
theorem lookup_eq_of_perm {l l' : List (String × α)} (h : l.Perm l')
    (hkeys : (l.map (·.1)).Nodup) (key : String) : l'.lookup key = l.lookup key := by
  induction h with
  | nil => rfl
  | cons p _ ih =>
    rw [List.lookup_cons, List.lookup_cons, ih (List.nodup_cons.mp hkeys).2]
  | swap p q l =>
    -- The two keys differ, so at most one of them is the key that is looked for.
    have hne : q.1 ≠ p.1 := by
      intro heq
      have hmem : q.1 ∈ (p :: l).map (·.1) := by
        rw [heq]
        exact List.mem_cons_self
      exact (List.nodup_cons.mp hkeys).1 hmem
    rw [List.lookup_cons, List.lookup_cons, List.lookup_cons, List.lookup_cons]
    by_cases hp : key = p.1
    · have hq : (key == q.1) = false := beq_eq_false_iff_ne.mpr fun hq => hne (hq.symm.trans hp)
      rw [hq]
    · have hp : (key == p.1) = false := beq_eq_false_iff_ne.mpr hp
      rw [hp]
  | trans h _ ih ih' =>
    exact (ih' ((h.map _).nodup_iff.mp hkeys)).trans (ih hkeys)

theorem perm_eraseDups [BEq α] [LawfulBEq α] {l l' : List α} (h : l.Perm l') :
    l.eraseDups.Perm l'.eraseDups := by
  refine (List.perm_ext_iff_of_nodup (nodup_eraseDups l) (nodup_eraseDups l')).mpr ?_
  intro a
  rw [List.mem_eraseDups, List.mem_eraseDups, h.mem_iff]

theorem max?_eq_of_perm {l l' : List Nat} (h : l.Perm l') : l.max? = l'.max? := by
  cases hmax : l'.max? with
  | none =>
    rw [List.max?_eq_none_iff] at hmax ⊢
    rw [hmax] at h
    exact h.eq_nil
  | some n =>
    rw [List.max?_eq_some_iff] at hmax ⊢
    exact ⟨h.mem_iff.mpr hmax.1, fun m hm => hmax.2 m (h.mem_iff.mp hm)⟩

end SqlCompiler
