import SqlCompiler.Schema.Checked
import SqlCompiler.Schema.Write

/-!
# What checks accept

A check of a document that is put together from checks of its parts gives a value exactly if every
part does (`seq_eq_valid_iff`, `map_eq_valid_iff`, `field_eq_valid_iff`). A list or an object passes
if its members do, and then each checked member comes from one of them
(`exists_mem_of_itemsFrom`, `exists_mem_of_members`).
-/

namespace SqlCompiler

/-! ## Looking members up -/

namespace Members

@[simp] theorem get?_nil (key : String) : get? [] key = none := rfl

@[simp] theorem get?_append (members more : Members) (key : String) :
    get? (members ++ more) key = (members.get? key).or (get? more key) :=
  List.lookup_append

@[simp] theorem get?_cons (k : String) (v : Value) (members : Members) (key : String) :
    get? ((k, v) :: members) key = if key = k then some v else members.get? key := by
  unfold get?
  rw [List.lookup_cons]
  by_cases h : key = k
  · rw [if_pos h, h, beq_self_eq_true]
  · rw [if_neg h, beq_false_of_ne h]

@[simp] theorem get?_memberOf (k : String) (v : Option Value) (key : String) :
    get? (memberOf k v) key = if key = k then v else none := by
  cases v with
  | none => exact (ite_self none).symm
  | some v => exact get?_cons k v [] key

@[simp] theorem get?_flagMember (k : String) (b : Bool) (key : String) :
    get? (flagMember k b) key = if key = k ∧ b then some (.bool true) else none := by
  cases b with
  | false => simp [flagMember, get?_nil]
  | true => simp [flagMember, get?_cons, get?_nil]

@[simp] theorem get?_listMember (k : String) (items : List Value) (key : String) :
    get? (listMember k items) key = if key = k ∧ items ≠ [] then some (.list items) else none := by
  cases items with
  | nil => simp [listMember, get?_nil]
  | cons v items => simp [listMember, get?_cons, get?_nil]

@[simp] theorem get?_objectMember (k : String) (members : Members) (key : String) :
    get? (objectMember k members) key =
      if key = k ∧ members ≠ [] then some (.object members) else none := by
  cases members with
  | nil => simp [objectMember, get?_nil]
  | cons m members => simp [objectMember, get?_cons, get?_nil]

theorem get?_put (members : Members) (k : String) (v : Value) (key : String) :
    (members.put k v).get? key = if key = k then some v else members.get? key := by
  induction members with
  | nil => exact get?_cons k v [] key
  | cons m members ih =>
    obtain ⟨k', old⟩ := m
    unfold put
    by_cases hk : k' = k
    · rw [if_pos hk, get?_cons, get?_cons, hk]
      by_cases h : key = k
      · rw [if_pos h, if_pos h]
      · rw [if_neg h, if_neg h, if_neg h]
    · rw [if_neg hk, get?_cons, get?_cons, ih]
      by_cases h : key = k'
      · rw [if_pos h, if_pos h, if_neg fun h' => hk (h.symm.trans h')]
      · rw [if_neg h, if_neg h]

/-- Putting what is there changes nothing. -/
theorem put_of_get? {members : Members} {k : String} {v : Value} (h : members.get? k = some v) :
    members.put k v = members := by
  induction members with
  | nil => cases h
  | cons m members ih =>
    obtain ⟨k', old⟩ := m
    rw [get?_cons] at h
    unfold put
    by_cases hk : k' = k
    · rw [if_pos hk.symm] at h
      cases h
      rw [if_pos hk, hk]
    · rw [if_neg (Ne.symm hk)] at h
      rw [if_neg hk, ih h]

/-- Of two values that are put under a key the later stays. -/
theorem put_put (members : Members) (k : String) (v w : Value) :
    (members.put k v).put k w = members.put k w := by
  induction members with
  | nil => exact if_pos rfl
  | cons m members ih =>
    obtain ⟨k', old⟩ := m
    by_cases hk : k' = k
    · simp [put, hk]
    · simp [put, hk, ih]

theorem mem_of_get? {members : Members} {k : String} {v : Value} (h : members.get? k = some v) :
    (k, v) ∈ members := by
  induction members with
  | nil => cases h
  | cons m members ih =>
    obtain ⟨k', old⟩ := m
    rw [get?_cons] at h
    by_cases hk : k = k'
    · rw [if_pos hk] at h
      cases h
      rw [hk]
      exact List.mem_cons_self
    · rw [if_neg hk] at h
      exact List.mem_cons_of_mem _ (ih h)

theorem keys_append_cons (before after : Members) (key : String) (v : Value) :
    (before ++ (key, v) :: after).keys = before.keys ++ key :: after.keys := by
  unfold keys
  rw [List.map_append, List.map_cons]

theorem get?_eq_none {data : Members} {key : String} (h : key ∉ data.keys) :
    data.get? key = none := by
  refine List.lookup_eq_none_iff.mpr fun p hp => bne_iff_ne.mpr ?_
  rintro rfl
  exact h (List.mem_map_of_mem hp)

theorem get?_append_cons {before after : Members} {key : String} {v : Value}
    (h : key ∉ before.keys) : get? (before ++ (key, v) :: after) key = some v := by
  rw [get?_append, get?_eq_none h, Option.none_or, get?_cons, if_pos rfl]

/-- Of the members that are put under a key the last one stands. -/
theorem get?_merge (members newer : Members) (key : String) :
    (members.merge newer).get? key = (newer.reverse.lookup key).or (members.get? key) := by
  unfold merge
  induction newer generalizing members with
  | nil => rfl
  | cons m newer ih =>
    obtain ⟨k, v⟩ := m
    have hlast : (get? [(k, v)] key).or (members.get? key) = (members.put k v).get? key := by
      rw [get?_cons, get?_put]
      split <;> rfl
    rw [List.foldl_cons, ih, List.reverse_cons, List.lookup_append, Option.or_assoc]
    exact congrArg _ hlast.symm

theorem put_of_not_mem {members : Members} {key : String} (h : key ∉ members.keys) (v : Value) :
    members.put key v = members ++ [(key, v)] := by
  induction members with
  | nil => rfl
  | cons m members ih =>
    obtain ⟨k, old⟩ := m
    simp only [keys, List.map_cons, List.mem_cons, not_or] at h
    unfold put
    rw [if_neg (Ne.symm h.1), ih h.2, List.cons_append]

theorem keys_put_of_mem {members : Members} {key : String} (h : key ∈ members.keys) (v : Value) :
    (members.put key v).keys = members.keys := by
  induction members with
  | nil => cases h
  | cons m members ih =>
    obtain ⟨k, old⟩ := m
    unfold put
    by_cases hk : k = key
    · rw [if_pos hk, hk]
      rfl
    · rw [if_neg hk]
      exact congrArg (k :: ·) (ih ((List.mem_cons.mp h).resolve_left (Ne.symm hk)))

/-- Putting a value under a key leaves every key once. -/
theorem nodup_keys_put {members : Members} (h : members.keys.Nodup) (key : String) (v : Value) :
    (members.put key v).keys.Nodup := by
  by_cases hkey : key ∈ members.keys
  · rwa [keys_put_of_mem hkey]
  · rw [put_of_not_mem hkey]
    unfold keys at hkey ⊢
    rw [List.map_append]
    refine List.nodup_append.mpr ⟨h, List.nodup_cons.mpr ⟨List.not_mem_nil, .nil⟩, ?_⟩
    rintro a ha b hb rfl
    obtain rfl : a = key := List.mem_singleton.mp hb
    exact hkey ha

theorem nodup_keys_merge {members : Members} (h : members.keys.Nodup) (newer : Members) :
    (members.merge newer).keys.Nodup := by
  unfold merge
  induction newer generalizing members with
  | nil => exact h
  | cons m newer ih => exact ih (nodup_keys_put h m.1 m.2)

/-- Values that are put under distinct keys stand in the order in which they are put. -/
theorem foldl_put {α : Type} (name : α → String) (value : α → Value) (items : List α)
    {members : Members} (h : (members.keys ++ items.map name).Nodup) :
    items.foldl (fun ms a => ms.put (name a) (value a)) members =
      members ++ items.map fun a => (name a, value a) := by
  induction items generalizing members with
  | nil => simp
  | cons a items ih =>
    have hfresh : name a ∉ members.keys := by
      intro hmem
      exact (List.nodup_append.mp h).2.2 _ hmem _ List.mem_cons_self rfl
    have hrest : ((members ++ [(name a, value a)]).keys ++ items.map name).Nodup := by
      unfold keys at h ⊢
      simpa using h
    rw [List.foldl_cons, put_of_not_mem hfresh, ih hrest, List.map_cons, List.append_assoc]
    rfl

end Members

namespace Checked

variable {α β : Type}

/-! ## Checks of parts -/

theorem seq_eq_valid_iff {f : Checked (α → β)} {x : Checked α} {b : β} :
    f <*> x = .valid b ↔ ∃ g, f = .valid g ∧ ∃ a, x = .valid a ∧ g a = b := by
  cases f with
  | invalid issues => exact iff_of_false nofun fun ⟨_, h, _⟩ => by cases h
  | valid g =>
    cases x with
    | invalid issues => exact iff_of_false nofun fun ⟨_, _, _, h, _⟩ => by cases h
    | valid a =>
      constructor
      · intro h
        exact ⟨g, rfl, a, rfl, valid.inj h⟩
      · rintro ⟨_, hg, _, ha, rfl⟩
        cases hg
        cases ha
        rfl

theorem map_eq_valid_iff {f : α → β} {x : Checked α} {b : β} :
    f <$> x = .valid b ↔ ∃ a, x = .valid a ∧ f a = b := by
  cases x with
  | invalid issues => exact iff_of_false nofun fun ⟨_, h, _⟩ => by cases h
  | valid a =>
    constructor
    · intro h
      exact ⟨a, rfl, valid.inj h⟩
    · rintro ⟨_, ha, rfl⟩
      cases ha
      rfl

theorem below_eq_valid_iff {step : Step} {x : Checked α} {a : α} :
    x.below step = .valid a ↔ x = .valid a := by
  cases x with
  | invalid issues => exact iff_of_false nofun nofun
  | valid b => exact Iff.rfl

theorem andThen_eq_valid_iff {x : Checked α} {f : α → Checked β} {b : β} :
    x.andThen f = .valid b ↔ ∃ a, x = .valid a ∧ f a = .valid b := by
  cases x with
  | invalid issues => exact iff_of_false nofun fun ⟨_, h, _⟩ => by cases h
  | valid a =>
    constructor
    · intro h
      exact ⟨a, rfl, h⟩
    · rintro ⟨_, ha, h⟩
      cases ha
      exact h

/-- What a field amounts to: what the check makes of its value, or `absent` without one. -/
@[irreducible] def Gives (check : Value → Checked α) (absent : α) (v? : Option Value) (a : α) :
    Prop :=
  match v? with
  | some v => check v = .valid a
  | none => a = absent

theorem gives_some {check : Value → Checked α} {absent : α} {v : Value} {a : α} :
    Gives check absent (some v) a ↔ check v = .valid a := by
  unfold Gives
  exact Iff.rfl

theorem gives_none {check : Value → Checked α} {absent : α} {a : α} :
    Gives check absent none a ↔ a = absent := by
  unfold Gives
  exact Iff.rfl

theorem field_eq_valid_iff {data : Members} {key spelling : String} {absent : α}
    {check : Value → Checked α} {a : α} :
    field data key spelling absent check = .valid a ↔
      Gives check absent ((data.get? key).or (data.get? spelling)) a := by
  unfold field member?
  cases data.get? key with
  | some v => exact below_eq_valid_iff.trans gives_some.symm
  | none =>
    cases data.get? spelling with
    | some v => exact below_eq_valid_iff.trans gives_some.symm
    | none =>
      refine Iff.trans ?_ gives_none.symm
      exact ⟨fun h => (valid.inj h).symm, fun h => congrArg valid h.symm⟩

theorem field_self_eq_valid_iff {data : Members} {key : String} {absent : α}
    {check : Value → Checked α} {a : α} :
    field data key key absent check = .valid a ↔ Gives check absent (data.get? key) a := by
  rw [field_eq_valid_iff, Option.or_self]

theorem requiredField_eq_valid_iff {data : Members} {key : String} {check : Value → Checked α}
    {a : α} : requiredField data key check = .valid a ↔
      ∃ v, data.get? key = some v ∧ check v = .valid a := by
  unfold requiredField
  rw [below_eq_valid_iff]
  cases data.get? key with
  | none => exact iff_of_false nofun nofun
  | some v =>
    constructor
    · intro h
      exact ⟨v, rfl, h⟩
    · rintro ⟨_, h, hcheck⟩
      cases h
      exact hcheck

/-! ## Lists and objects -/

theorem itemsFrom_map {γ : Type} {check : Value → Checked β} {write : γ → Value} {read : γ → β}
    {items : List γ} (h : ∀ x ∈ items, check (write x) = .valid (read x)) (start : Nat) :
    itemsFrom check start (items.map write) = .valid (items.map read) := by
  induction items generalizing start with
  | nil => rfl
  | cons x items ih =>
    obtain ⟨hx, hitems⟩ := List.forall_mem_cons.mp h
    rw [List.map_cons, itemsFrom, hx, ih hitems]
    rfl

theorem members_map {γ : Type} {check : Value → Checked β} {write : γ → Value} {read : γ → β}
    {items : List (String × γ)} (h : ∀ p ∈ items, check (write p.2) = .valid (read p.2)) :
    members check (items.map fun p => (p.1, write p.2)) =
      .valid (items.map fun p => (p.1, read p.2)) := by
  induction items with
  | nil => rfl
  | cons p items ih =>
    obtain ⟨hp, hitems⟩ := List.forall_mem_cons.mp h
    rw [List.map_cons, members, hp, ih hitems]
    rfl

theorem members_append {check : Value → Checked α} {ms more : Members} {as bs : List (String × α)}
    (h : members check ms = .valid as) (hmore : members check more = .valid bs) :
    members check (ms ++ more) = .valid (as ++ bs) := by
  induction ms generalizing as with
  | nil =>
    obtain rfl : [] = as := valid.inj h
    exact hmore
  | cons m ms ih =>
    obtain ⟨key, v⟩ := m
    obtain ⟨_, hfirst, tail, htail, rfl⟩ := seq_eq_valid_iff.mp h
    obtain ⟨a, ha, rfl⟩ := map_eq_valid_iff.mp hfirst
    rw [List.cons_append, members, ha, ih htail]
    rfl

theorem exists_mem_of_itemsFrom {check : Value → Checked α} {start : Nat} {items : List Value}
    {as : List α} (h : itemsFrom check start items = .valid as) :
    ∀ a ∈ as, ∃ v ∈ items, check v = .valid a := by
  induction items generalizing start as with
  | nil =>
    cases h
    intro a ha
    cases ha
  | cons v items ih =>
    obtain ⟨_, hfirst, tail, htail, rfl⟩ := seq_eq_valid_iff.mp h
    obtain ⟨b, hb, rfl⟩ := map_eq_valid_iff.mp hfirst
    intro a ha
    rcases List.mem_cons.mp ha with rfl | ha
    · exact ⟨v, List.mem_cons_self, below_eq_valid_iff.mp hb⟩
    · obtain ⟨w, hw, hcheck⟩ := ih htail a ha
      exact ⟨w, List.mem_cons_of_mem _ hw, hcheck⟩

theorem exists_mem_of_members {check : Value → Checked α} {ms : Members}
    {as : List (String × α)} (h : members check ms = .valid as) :
    ∀ p ∈ as, ∃ v, (p.1, v) ∈ ms ∧ check v = .valid p.2 := by
  induction ms generalizing as with
  | nil =>
    cases h
    intro p hp
    cases hp
  | cons m ms ih =>
    obtain ⟨key, v⟩ := m
    obtain ⟨_, hfirst, tail, htail, rfl⟩ := seq_eq_valid_iff.mp h
    obtain ⟨b, hb, rfl⟩ := map_eq_valid_iff.mp hfirst
    intro p hp
    rcases List.mem_cons.mp hp with rfl | hp
    · exact ⟨v, List.mem_cons_self, below_eq_valid_iff.mp hb⟩
    · obtain ⟨w, hw, hcheck⟩ := ih htail p hp
      exact ⟨w, List.mem_cons_of_mem _ hw, hcheck⟩

/-! ## Reading back what was written -/

/-- A field that is written if it is there. -/
theorem gives_map {check : Value → Checked (Option α)} {write : α → Value}
    (h : ∀ a, check (write a) = .valid (some a)) (a? : Option α) :
    Gives check none (a?.map write) a? := by
  cases a? with
  | none => exact gives_none.mpr rfl
  | some a => exact gives_some.mpr (h a)

theorem nat_int (n : Nat) : nat (.int n) = .valid n := by
  show (if 0 ≤ (n : Int) then valid (n : Int).toNat else .fail .tooSmall) = _
  rw [if_pos (Int.natCast_nonneg n), Int.toNat_natCast]

theorem optional_nat (n : Nat) : optional nat (.int n) = .valid (some n) :=
  congrArg (some <$> ·) (nat_int n)

theorem optional_text (s : String) : optional text (.text s) = .valid (some s) := rfl

theorem optional_bool (b : Bool) : optional bool (.bool b) = .valid (some b) := rfl

/-- A flag that is written if it is set. -/
theorem gives_flag (b : Bool) :
    Gives bool false (if b = true then some (.bool true) else none) b := by
  cases b with
  | false => exact gives_none.mpr rfl
  | true => exact gives_some.mpr rfl

/-- A list that is written if it has members. -/
theorem gives_list {check : Value → Checked α} {write : α → Value} {items : List α}
    (h : ∀ a ∈ items, check (write a) = .valid a) :
    Gives (list check) [] (if items.map write ≠ [] then some (.list (items.map write)) else none)
      items := by
  cases items with
  | nil => exact gives_none.mpr rfl
  | cons a items =>
    have hread := itemsFrom_map h 0
    rw [List.map_id'] at hread
    rw [if_pos (by simp), gives_some]
    exact hread

/-- An object that is written if it has members. -/
theorem gives_object {γ : Type} {check : Value → Checked β} {write : γ → Value} {read : γ → β}
    {items : List (String × γ)} (h : ∀ p ∈ items, check (write p.2) = .valid (read p.2)) :
    Gives (object check) []
      (if (items.map fun p => (p.1, write p.2)) ≠ [] then
        some (.object (items.map fun p => (p.1, write p.2))) else none)
      (items.map fun p => (p.1, read p.2)) := by
  cases items with
  | nil => exact gives_none.mpr rfl
  | cons p items =>
    rw [if_pos (by simp), gives_some]
    exact members_map h

theorem list_nameList (names : List String) : list text (nameList names) = .valid names := by
  have hread : itemsFrom text 0 (names.map .text) = .valid (names.map id) :=
    itemsFrom_map (fun s _ => show text (.text s) = .valid (id s) from rfl) 0
  rwa [List.map_id] at hread

end Checked

end SqlCompiler
