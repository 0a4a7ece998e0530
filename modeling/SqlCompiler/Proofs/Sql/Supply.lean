import SqlCompiler.Sql.Template

/-!
# Supplying arguments

The arguments of a statement go to its placeholders from left to right. `Fragment.supply` writes
each argument as a literal in the place of its placeholder and gives back the arguments that are
left; it uses up as many as there are placeholders (`snd_supply`). `Takes f args g` says that `f`
uses up just `args`, in order, and becomes `g`. Fragments that are put together take their
arguments one after the other (`TakeAll`).
-/

namespace SqlCompiler.Sql.Fragment

mutual

/-- How many placeholders a fragment has. -/
def placeholders : Fragment → Nat
  | placeholder => 1
  | sequence parts => placeholdersIn parts
  | _ => 0

/-- How many placeholders fragments have together. -/
def placeholdersIn : List Fragment → Nat
  | [] => 0
  | part :: rest => placeholders part + placeholdersIn rest

end

mutual

/-- A fragment with arguments in the places of its placeholders, and the arguments that are left. A
placeholder that no argument is left for stays. -/
def supply : Fragment → List Value → Fragment × List Value
  | placeholder, v :: args => (literal v, args)
  | sequence parts, args => (sequence (supplyAll parts args).1, (supplyAll parts args).2)
  | f, args => (f, args)

/-- Fragments with arguments in the places of their placeholders. -/
def supplyAll : List Fragment → List Value → List Fragment × List Value
  | [], args => ([], args)
  | part :: rest, args =>
    ((supply part args).1 :: (supplyAll rest (supply part args).2).1,
      (supplyAll rest (supply part args).2).2)

end

mutual

/-- Each placeholder uses up one argument. -/
theorem snd_supply : ∀ (f : Fragment) (args : List Value),
    (f.supply args).2 = args.drop f.placeholders
  | verbatim _, args | identifier _, args | literal _, args => by
    unfold supply placeholders
    rfl
  | placeholder, [] => rfl
  | placeholder, v :: args => rfl
  | sequence parts, args => by
    unfold supply placeholders
    exact snd_supplyAll parts args

theorem snd_supplyAll : ∀ (parts : List Fragment) (args : List Value),
    (supplyAll parts args).2 = args.drop (placeholdersIn parts)
  | [], args => rfl
  | part :: rest, args => by
    unfold supplyAll placeholdersIn
    rw [snd_supplyAll rest, snd_supply part, List.drop_drop]

end

mutual

/-- A fragment without placeholders stays as it is. -/
theorem supply_of_placeholders_eq_zero : ∀ (f : Fragment), f.placeholders = 0 →
    ∀ args, f.supply args = (f, args)
  | verbatim _, _, args | identifier _, _, args | literal _, _, args => by unfold supply; rfl
  | placeholder, h, _ => absurd h Nat.one_ne_zero
  | sequence parts, h, args => by
    unfold supply
    rw [supplyAll_of_placeholdersIn_eq_zero parts h]

theorem supplyAll_of_placeholdersIn_eq_zero : ∀ (parts : List Fragment),
    placeholdersIn parts = 0 → ∀ args, supplyAll parts args = (parts, args)
  | [], _, _ => rfl
  | part :: rest, h, args => by
    obtain ⟨hpart, hrest⟩ := Nat.add_eq_zero_iff.mp h
    unfold supplyAll
    rw [supply_of_placeholders_eq_zero part hpart, supplyAll_of_placeholdersIn_eq_zero rest hrest]

end

/-- A fragment uses up the arguments and becomes another one, whatever arguments follow. -/
def Takes (f : Fragment) (args : List Value) (g : Fragment) : Prop :=
  ∀ rest, f.supply (args ++ rest) = (g, rest)

/-- Fragments take arguments one after the other. -/
inductive TakeAll : List Fragment → List Value → List Fragment → Prop
  | nil : TakeAll [] [] []
  | cons {f g : Fragment} {fs gs : List Fragment} {args more : List Value}
    (h : f.Takes args g) (hs : TakeAll fs more gs) : TakeAll (f :: fs) (args ++ more) (g :: gs)

variable {f g : Fragment} {fs gs : List Fragment} {args : List Value}

theorem takes_of_placeholders_eq_zero (h : f.placeholders = 0) : f.Takes [] f :=
  supply_of_placeholders_eq_zero f h

theorem takes_placeholder (v : Value) : placeholder.Takes [v] (literal v) :=
  fun _ => rfl

/-- What a fragment takes is as much as it has placeholders. -/
theorem Takes.placeholders_eq (h : f.Takes args g) : f.placeholders = args.length := by
  have hrest := snd_supply f (args ++ List.replicate f.placeholders .null)
  rw [h] at hrest
  have hlength := congrArg List.length hrest
  simp only [List.length_drop, List.length_append, List.length_replicate] at hlength
  omega

theorem Takes.supply_eq (h : f.Takes args g) : f.supply args = (g, []) := by
  have h := h []
  rwa [List.append_nil] at h

/-- A fragment that takes nothing, in front of others. -/
theorem TakeAll.cons_nil (h : f.Takes [] g) (hs : TakeAll fs args gs) :
    TakeAll (f :: fs) args (g :: gs) :=
  .cons h hs

theorem TakeAll.supplyAll (h : TakeAll fs args gs) (rest : List Value) :
    supplyAll fs (args ++ rest) = (gs, rest) := by
  induction h with
  | nil => rfl
  | cons h _ ih =>
    unfold Fragment.supplyAll
    rw [List.append_assoc, h, ih]

theorem TakeAll.sequence (h : TakeAll fs args gs) : (sequence fs).Takes args (.sequence gs) := by
  intro rest
  unfold supply
  rw [h.supplyAll]

theorem TakeAll.interleave {s : Fragment} (hs : s.Takes [] s) (h : TakeAll fs args gs) :
    TakeAll (interleave s fs) args (interleave s gs) := by
  induction h with
  | nil => exact .nil
  | cons h hrest ih =>
    cases hrest with
    | nil => exact .cons h .nil
    | cons h' hrest' => exact .cons h (.cons_nil hs ih)

theorem TakeAll.joined (separator : String) (h : TakeAll fs args gs) :
    (joined separator fs).Takes args (.joined separator gs) :=
  (h.interleave (takes_of_placeholders_eq_zero rfl)).sequence

/-- Placeholders take one argument each. -/
theorem takeAll_map_placeholder (vs : List Value) :
    TakeAll (vs.map fun _ => placeholder) vs (vs.map literal) := by
  induction vs with
  | nil => exact .nil
  | cons v vs ih => exact .cons (takes_placeholder v) ih

theorem placeholdersIn_interleave {s : Fragment} (hs : s.placeholders = 0)
    (h : ∀ f ∈ fs, f.placeholders = 0) : placeholdersIn (interleave s fs) = 0 := by
  induction fs with
  | nil => rfl
  | cons f fs ih =>
    obtain ⟨hf, hrest⟩ := List.forall_mem_cons.mp h
    cases fs with
    | nil => exact Nat.add_eq_zero_iff.mpr ⟨hf, rfl⟩
    | cons f' fs =>
      show f.placeholders + (s.placeholders + placeholdersIn (Fragment.interleave s (f' :: fs))) = 0
      rw [hf, hs, ih hrest]

theorem placeholders_joined (separator : String) (h : ∀ f ∈ fs, f.placeholders = 0) :
    (Fragment.joined separator fs).placeholders = 0 :=
  placeholdersIn_interleave rfl h

end SqlCompiler.Sql.Fragment
