import SqlCompiler.Proofs.Log.Outcome
import SqlCompiler.Schema.Write

/-!
# The document form of JSON values

JSON has all values of a JSON document, so one should expect the document form of such a value to be
the value itself. It is, but for the infinite numbers, which become null: the document form of a
JSON value is the value settled (`documentForm_of_isJson`), and that is the value itself exactly if
all its numbers are finite (`settled_eq_iff`). The document form of any value is its own document
form (`documentForm_idem`).
-/

namespace SqlCompiler.Value

mutual

/-- Whether JSON has a value: its numbers are whole or binary ones, but not what is no number. -/
def isJson : Value → Bool
  | null | bool _ | int _ | text _ => true
  | float x => x.view != .nan
  | list items => areJson items
  | object members => haveJson members
  | _ => false

/-- Whether JSON has each of the values. -/
def areJson : List Value → Bool
  | [] => true
  | v :: rest => isJson v && areJson rest

/-- Whether JSON has the value of each member. -/
def haveJson : List (String × Value) → Bool
  | [] => true
  | (_, v) :: rest => isJson v && haveJson rest

end

mutual

/-- A value with null for each number that is not finite. -/
def settled : Value → Value
  | float x => if x.isFinite then float x else null
  | list items => list (allSettled items)
  | object members => object (membersSettled members)
  | v => v

/-- Each of the values with null for each number that is not finite. -/
def allSettled : List Value → List Value
  | [] => []
  | v :: rest => settled v :: allSettled rest

/-- Each member with null for each number that is not finite. -/
def membersSettled : List (String × Value) → List (String × Value)
  | [] => []
  | (k, v) :: rest => (k, settled v) :: membersSettled rest

end

mutual

/-- Whether all binary numbers of a value are finite. -/
def isFinite : Value → Bool
  | float x => x.isFinite
  | list items => areFinite items
  | object members => haveFinite members
  | _ => true

/-- Whether all binary numbers of the values are finite. -/
def areFinite : List Value → Bool
  | [] => true
  | v :: rest => isFinite v && areFinite rest

/-- Whether all binary numbers of the members are finite. -/
def haveFinite : List (String × Value) → Bool
  | [] => true
  | (_, v) :: rest => isFinite v && haveFinite rest

end

mutual

theorem documentForm_of_isJson : ∀ {v : Value}, v.isJson = true → documentForm v = .ok v.settled
  | null, _ | bool _, _ | int _, _ | text _, _ | float _, _ => rfl
  | list items, h => by
    have hitems : documentForms items = .ok (allSettled items) := documentForms_of_areJson h
    unfold documentForm
    rw [hitems]
    rfl
  | object members, h => by
    have hmembers : memberForms members = .ok (membersSettled members) := memberForms_of_haveJson h
    unfold documentForm
    rw [hmembers]
    rfl

theorem documentForms_of_areJson : ∀ {items : List Value}, areJson items = true →
    documentForms items = .ok (allSettled items)
  | [], _ => rfl
  | v :: rest, h => by
    unfold areJson at h
    obtain ⟨hv, hrest⟩ := Bool.and_eq_true_iff.mp h
    unfold documentForms
    rw [documentForm_of_isJson hv, documentForms_of_areJson hrest]
    rfl

theorem memberForms_of_haveJson : ∀ {members : List (String × Value)}, haveJson members = true →
    memberForms members = .ok (membersSettled members)
  | [], _ => rfl
  | (k, v) :: rest, h => by
    unfold haveJson at h
    obtain ⟨hv, hrest⟩ := Bool.and_eq_true_iff.mp h
    unfold memberForms
    rw [documentForm_of_isJson hv, memberForms_of_haveJson hrest]
    rfl

end

mutual

/-- A document form is in document form. -/
theorem documentForm_idem : ∀ {v w : Value}, documentForm v = .ok w → documentForm w = .ok w
  | float x, w, h => by
    unfold documentForm at h
    obtain rfl := Except.ok.inj h
    by_cases hx : x.isFinite = true
    · rw [if_pos hx, documentForm, if_pos hx]
    · rw [if_neg hx]
      rfl
  | bytes bs, w, h => by
    unfold documentForm at h
    split at h
    · obtain rfl := Except.ok.inj h
      rfl
    · cases h
  | list items, w, h | tuple items, w, h | set items, w, h | frozenSet items, w, h => by
    unfold documentForm at h
    obtain ⟨ws, hws, h⟩ := Log.bind_eq_ok_iff.mp h
    obtain rfl := Except.ok.inj h
    unfold documentForm
    rw [documentForms_idem hws]
    rfl
  | object members, w, h => by
    unfold documentForm at h
    obtain ⟨ms, hms, h⟩ := Log.bind_eq_ok_iff.mp h
    obtain rfl := Except.ok.inj h
    unfold documentForm
    rw [memberForms_idem hms]
    rfl
  | null, w, h | bool _, w, h | int _, w, h | text _, w, h | decimal _, w, h | date _, w, h
  | time _, w, h | dateTime _, w, h => by
    obtain rfl := Except.ok.inj h
    rfl

theorem documentForms_idem : ∀ {items ws : List Value}, documentForms items = .ok ws →
    documentForms ws = .ok ws
  | [], ws, h => by
    obtain rfl := Except.ok.inj h
    rfl
  | v :: rest, ws, h => by
    unfold documentForms at h
    obtain ⟨w, hw, h⟩ := Log.bind_eq_ok_iff.mp h
    obtain ⟨tail, htail, h⟩ := Log.bind_eq_ok_iff.mp h
    obtain rfl := Except.ok.inj h
    unfold documentForms
    rw [documentForm_idem hw, documentForms_idem htail]
    rfl

theorem memberForms_idem : ∀ {members ms : List (String × Value)}, memberForms members = .ok ms →
    memberForms ms = .ok ms
  | [], ms, h => by
    obtain rfl := Except.ok.inj h
    rfl
  | (k, v) :: rest, ms, h => by
    unfold memberForms at h
    obtain ⟨w, hw, h⟩ := Log.bind_eq_ok_iff.mp h
    obtain ⟨tail, htail, h⟩ := Log.bind_eq_ok_iff.mp h
    obtain rfl := Except.ok.inj h
    unfold memberForms
    rw [documentForm_idem hw, memberForms_idem htail]
    rfl

end

mutual

theorem settled_eq_iff : ∀ {v : Value}, v.settled = v ↔ v.isFinite = true
  | float x => by
    unfold settled isFinite
    by_cases hx : x.isFinite = true
    · rw [if_pos hx]
      exact iff_of_true rfl hx
    · rw [if_neg hx]
      exact iff_of_false (fun h => by cases h) hx
  | list items => by
    unfold settled isFinite
    rw [list.injEq]
    exact allSettled_eq_iff
  | object members => by
    unfold settled isFinite
    rw [object.injEq]
    exact membersSettled_eq_iff
  | null | bool _ | int _ | decimal _ | text _ | bytes _ | date _ | time _ | dateTime _ | tuple _
  | set _ | frozenSet _ => iff_of_true rfl rfl

theorem allSettled_eq_iff : ∀ {items : List Value},
    allSettled items = items ↔ areFinite items = true
  | [] => iff_of_true rfl rfl
  | v :: rest => by
    unfold allSettled areFinite
    rw [List.cons.injEq, settled_eq_iff, allSettled_eq_iff, Bool.and_eq_true]

theorem membersSettled_eq_iff : ∀ {members : List (String × Value)},
    membersSettled members = members ↔ haveFinite members = true
  | [] => iff_of_true rfl rfl
  | (k, v) :: rest => by
    unfold membersSettled haveFinite
    rw [List.cons.injEq, Prod.mk.injEq, settled_eq_iff, membersSettled_eq_iff, Bool.and_eq_true,
      eq_self, true_and]

end

theorem settled_of_isNull {v : Value} (h : v.isNull = true) : v.settled = .null := by
  cases v with
  | null => rfl
  | _ => cases h

/-- A member of an object that JSON has is one that JSON has. -/
theorem isJson_of_mem {members : Members} (h : haveJson members = true) {p : String × Value}
    (hp : p ∈ members) : p.2.isJson = true := by
  induction members with
  | nil => cases hp
  | cons m members ih =>
    unfold haveJson at h
    obtain ⟨hv, hrest⟩ := Bool.and_eq_true_iff.mp h
    rcases List.mem_cons.mp hp with rfl | hp
    · exact hv
    · exact ih hrest hp

end SqlCompiler.Value
