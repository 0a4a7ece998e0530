import SqlCompiler.Proofs.Text.Quoted
import SqlCompiler.Value.Display

/-!
# Telling values from their display

The display of a value that is made of null, truth values, whole numbers, texts, lists and objects
tells the value (`display_inj`). With binary numbers it would not: all that are no number are
displayed alike.

1. The first character of the display tells the kind (`kind_eq_of_display`).
2. The digits of a number end where something else begins (`EndsNumber`), as it does behind every
   member of a list or an object. `Tells` is what is shown before that: no other member is shown as
   it.
3. Members that are told one by one are told when they are listed up to a closing mark
   (`listed_inj`), and so is what they are members of.
-/

namespace SqlCompiler.Value

mutual

/-- Whether a value is made of null, truth values, whole numbers, texts, lists and objects. -/
def isExact : Value → Bool
  | null | bool _ | int _ | text _ => true
  | list items => areExact items
  | object members => haveExact members
  | _ => false

/-- Whether each of the values is made of these. -/
def areExact : List Value → Bool
  | [] => true
  | v :: rest => isExact v && areExact rest

/-- Whether the value of each member is made of these. -/
def haveExact : List (String × Value) → Bool
  | [] => true
  | (_, v) :: rest => isExact v && haveExact rest

end

theorem areExact_iff {items : List Value} :
    areExact items = true ↔ ∀ v ∈ items, v.isExact = true := by
  induction items with
  | nil => simp [areExact]
  | cons v items ih => simp [areExact, ih]

theorem haveExact_iff {members : List (String × Value)} :
    haveExact members = true ↔ ∀ m ∈ members, m.2.isExact = true := by
  induction members with
  | nil => simp [haveExact]
  | cons m members ih => simp [haveExact, ih]

/-! ## Whole numbers -/

/-- What cannot be more digits of a number. -/
def EndsNumber (rest : List Char) : Prop :=
  ∀ c ∈ rest.head?, c.isDigit = false

theorem endsNumber_nil : EndsNumber [] := by
  intro c hc
  cases hc

theorem endsNumber_cons {c : Char} (h : c.isDigit = false) (rest : List Char) :
    EndsNumber (c :: rest) := by
  intro d hd
  obtain rfl := Option.some.inj hd
  exact h

theorem takeWhile_toDigits (n : Nat) {rest : List Char} (h : EndsNumber rest) :
    (Nat.toDigits 10 n ++ rest).takeWhile Char.isDigit = Nat.toDigits 10 n := by
  have hrest : rest.takeWhile Char.isDigit = [] := by
    cases rest with
    | nil => rfl
    | cons c rest => exact List.takeWhile_cons_of_neg (Bool.eq_false_iff.mp (h c rfl))
  rw [List.takeWhile_append_of_pos fun c hc =>
    Nat.isDigit_of_mem_toDigits (by decide) (by decide) hc, hrest, List.append_nil]

theorem toDigits_append_inj {m n : Nat} {rest rest' : List Char} (hrest : EndsNumber rest)
    (hrest' : EndsNumber rest') (h : Nat.toDigits 10 m ++ rest = Nat.toDigits 10 n ++ rest') :
    m = n := by
  have hdigits := congrArg (List.takeWhile Char.isDigit) h
  rw [takeWhile_toDigits m hrest, takeWhile_toDigits n hrest'] at hdigits
  exact Text.toDigits_inj hdigits

/-- A number starts with a minus or a digit. -/
theorem exists_intText (n : Int) : ∃ c rest, (intText n).toList = c :: rest ∧
    (n < 0 ∧ c = '-' ∧ rest = Nat.toDigits 10 n.natAbs ∨
      0 ≤ n ∧ c.isDigit = true ∧ c :: rest = Nat.toDigits 10 n.natAbs) := by
  rcases Int.lt_or_le n 0 with hn | hn
  · exact ⟨'-', _, Text.toList_intText_of_neg hn, .inl ⟨hn, rfl, rfl⟩⟩
  · obtain ⟨c, rest, hdigits⟩ := List.exists_cons_of_ne_nil (@Nat.toDigits_ne_nil n.natAbs 10)
    refine ⟨c, rest, (Text.toList_intText_of_nonneg hn).trans hdigits, .inr ⟨hn, ?_, hdigits.symm⟩⟩
    exact Nat.isDigit_of_mem_toDigits (by decide) (by decide) (hdigits ▸ List.mem_cons_self)

theorem intText_append_inj {m n : Int} {rest rest' : List Char} (hrest : EndsNumber rest)
    (hrest' : EndsNumber rest') (h : (intText m).toList ++ rest = (intText n).toList ++ rest') :
    m = n := by
  obtain ⟨c, digits, hm, hc⟩ := exists_intText m
  obtain ⟨d, digits', hn, hd⟩ := exists_intText n
  rw [hm, hn, List.cons_append, List.cons_append] at h
  obtain ⟨rfl, hmore⟩ := List.cons.inj h
  rcases hc with ⟨hneg, rfl, rfl⟩ | ⟨hpos, hdigit, hdigits⟩ <;>
    rcases hd with ⟨hneg', hminus, rfl⟩ | ⟨hpos', hdigit', hdigits'⟩
  · have habs := toDigits_append_inj hrest hrest' hmore
    omega
  · cases hdigit'
  · rw [hminus] at hdigit
    cases hdigit
  · rw [← List.cons_append, ← List.cons_append, hdigits, hdigits'] at h
    have habs := toDigits_append_inj hrest hrest' h
    omega

/-! ## Members -/

section Listing

variable {α : Type}

/-- What is shown of `a`, up to something that cannot be more of a number, is shown of no other
member. -/
def Tells (shown : α → List Char) (P : α → Prop) (a : α) : Prop :=
  ∀ b, P b → ∀ rest rest', EndsNumber rest → EndsNumber rest' →
    shown a ++ rest = shown b ++ rest' → a = b

/-- Members with a comma between any two. -/
def listed (shown : α → List Char) : List α → List Char
  | [] => []
  | a :: rest => shown a ++ rest.flatMap fun b => ',' :: ' ' :: shown b

theorem toList_joinWith (f : α → String) (l : List α) :
    (joinWith ", " (l.map f)).toList = listed (fun a => (f a).toList) l := by
  have hcomma : ", ".toList = [',', ' '] := by decide
  induction l with
  | nil => rfl
  | cons a l ih =>
    cases l with
    | nil => simp [listed]
    | cons b l =>
      rw [List.map_cons, List.map_cons, joinWith, String.intercalate_cons_cons,
        String.toList_append, String.toList_append, hcomma, ← List.map_cons, ih]
      simp [listed]

variable {shown : α → List Char} {P : α → Prop} {close : Char} {rest rest' : List Char}

theorem endsNumber_later (hclose : close.isDigit = false) (l : List α) :
    EndsNumber ((l.flatMap fun b => ',' :: ' ' :: shown b) ++ close :: rest) := by
  cases l with
  | nil => exact endsNumber_cons hclose rest
  | cons b l => exact endsNumber_cons (by decide) _

theorem later_inj (hcomma : close ≠ ',') (hclose : close.isDigit = false) {l m : List α}
    (hl : ∀ a ∈ l, Tells shown P a) (hm : ∀ b ∈ m, P b)
    (h : (l.flatMap fun b => ',' :: ' ' :: shown b) ++ close :: rest =
      (m.flatMap fun b => ',' :: ' ' :: shown b) ++ close :: rest') : l = m := by
  induction l generalizing m with
  | nil =>
    cases m with
    | nil => rfl
    | cons b m => exact absurd (List.cons.inj h).1 hcomma
  | cons a l ih =>
    cases m with
    | nil => exact absurd (List.cons.inj h).1.symm hcomma
    | cons b m =>
      obtain ⟨ha, hlater⟩ := List.forall_mem_cons.mp hl
      obtain ⟨hb, hlater'⟩ := List.forall_mem_cons.mp hm
      rw [List.flatMap_cons, List.flatMap_cons, List.append_assoc, List.append_assoc] at h
      have hmore := (List.cons.inj (List.cons.inj h).2).2
      obtain rfl := ha b hb _ _ (endsNumber_later hclose l) (endsNumber_later hclose m) hmore
      rw [ih hlater hlater' (List.append_cancel_left hmore)]

/-- Listed members are told one by one. -/
theorem listed_inj (hcomma : close ≠ ',') (hclose : close.isDigit = false)
    (hstart : ∀ b, P b → ∃ c more, shown b = c :: more ∧ c ≠ close) {l m : List α}
    (hl : ∀ a ∈ l, P a ∧ Tells shown P a) (hm : ∀ b ∈ m, P b)
    (h : listed shown l ++ close :: rest = listed shown m ++ close :: rest') : l = m := by
  cases l with
  | nil =>
    cases m with
    | nil => rfl
    | cons b m =>
      obtain ⟨c, more, hb, hc⟩ := hstart b (hm b List.mem_cons_self)
      rw [listed, listed, hb] at h
      exact absurd (List.cons.inj h).1.symm hc
  | cons a l =>
    obtain ⟨⟨hP, ha⟩, hlater⟩ := List.forall_mem_cons.mp hl
    cases m with
    | nil =>
      obtain ⟨c, more, hshown, hc⟩ := hstart a hP
      rw [listed, listed, hshown] at h
      exact absurd (List.cons.inj h).1 hc
    | cons b m =>
      obtain ⟨hb, hlater'⟩ := List.forall_mem_cons.mp hm
      rw [listed, listed, List.append_assoc, List.append_assoc] at h
      obtain rfl := ha b hb _ _ (endsNumber_later hclose l) (endsNumber_later hclose m) h
      rw [later_inj hcomma hclose (fun c hc => (hlater c hc).2) hlater' (List.append_cancel_left h)]

end Listing

/-! ## Displayed values -/

/-- What is shown of a value. -/
def shown (v : Value) : List Char :=
  v.display.toList

/-- What is shown of a member of an object. -/
def shownMember (m : String × Value) : List Char :=
  (Text.quoted m.1).toList ++ ':' :: ' ' :: shown m.2

theorem shown_bool (b : Bool) :
    shown (bool b) = if b then ['T', 'r', 'u', 'e'] else ['F', 'a', 'l', 's', 'e'] := by
  cases b <;> decide

theorem shown_list (items : List Value) :
    shown (list items) = '[' :: (listed shown items ++ [']']) := by
  have hall : displayAll items = items.map display := by
    induction items with
    | nil => rfl
    | cons v items ih => rw [displayAll, ih, List.map_cons]
  have hopen : "[".toList = ['['] := by decide
  have hclose : "]".toList = [']'] := by decide
  rw [shown, display, String.toList_append, String.toList_append, hopen, hclose, hall,
    toList_joinWith]
  rfl

theorem shown_object (members : List (String × Value)) :
    shown (object members) = '{' :: (listed shownMember members ++ ['}']) := by
  have hall : displayMembers members =
      members.map fun m => Text.quoted m.1 ++ ": " ++ display m.2 := by
    induction members with
    | nil => rfl
    | cons m members ih => rw [displayMembers, ih, List.map_cons]
  have hopen : "\x7b".toList = ['{'] := by decide
  have hclose : "\x7d".toList = ['}'] := by decide
  have hcolon : ": ".toList = [':', ' '] := by decide
  have hmember : (fun m : String × Value => (Text.quoted m.1 ++ ": " ++ display m.2).toList) =
      shownMember := by
    funext m
    rw [String.toList_append, String.toList_append, hcolon, List.append_assoc]
    rfl
  rw [shown, display, String.toList_append, String.toList_append, hopen, hclose, hall,
    toList_joinWith, hmember]
  rfl

/-- The kind of the values whose display starts with a character. -/
def shownKind (c : Char) : String :=
  if c = 'N' then "NoneType"
  else if c = 'T' ∨ c = 'F' then "bool"
  else if c = '\'' ∨ c = '"' then "str"
  else if c = '[' then "list"
  else if c = '{' then "dict"
  else if c = '-' ∨ c.isDigit = true then "int"
  else ""

theorem shownKind_isDigit {c : Char} (h : c.isDigit = true) : shownKind c = "int" := by
  have hne {d : Char} (hd : d.isDigit = false) : c ≠ d := by
    rintro rfl
    exact Bool.false_ne_true (hd.symm.trans h)
  unfold shownKind
  rw [if_neg (hne (by decide)), if_neg (not_or.mpr ⟨hne (by decide), hne (by decide)⟩),
    if_neg (not_or.mpr ⟨hne (by decide), hne (by decide)⟩), if_neg (hne (by decide)),
    if_neg (hne (by decide)), if_pos (.inr h)]

/-- The first character of the display tells the kind. -/
theorem exists_shown {v : Value} (h : v.isExact = true) :
    ∃ c more, shown v = c :: more ∧ shownKind c = v.kind := by
  cases v with
  | null => exact ⟨'N', ['o', 'n', 'e'], by decide, by decide⟩
  | bool b =>
    rw [shown_bool]
    cases b
    · exact ⟨'F', _, rfl, by decide⟩
    · exact ⟨'T', _, rfl, by decide⟩
  | int n =>
    obtain ⟨c, more, hshown, ⟨_, rfl, _⟩ | ⟨_, hdigit, _⟩⟩ := exists_intText n
    · exact ⟨'-', more, hshown, rfl⟩
    · exact ⟨c, more, hshown, shownKind_isDigit hdigit⟩
  | text s =>
    rw [shown, display, Text.toList_quoted]
    refine ⟨_, _, rfl, ?_⟩
    rcases Text.isQuote_quoteFor s.toList with hquote | hquote <;> rw [hquote] <;> rfl
  | list items =>
    rw [shown_list]
    exact ⟨'[', _, rfl, rfl⟩
  | object members =>
    rw [shown_object]
    exact ⟨'{', _, rfl, rfl⟩
  | _ => cases h

theorem kind_eq_of_shown {v w : Value} {rest rest' : List Char} (hv : v.isExact = true)
    (hw : w.isExact = true) (h : shown v ++ rest = shown w ++ rest') : v.kind = w.kind := by
  obtain ⟨c, more, hshown, hc⟩ := exists_shown hv
  obtain ⟨d, more', hshown', hd⟩ := exists_shown hw
  rw [hshown, hshown'] at h
  rw [← hc, ← hd, (List.cons.inj h).1]

theorem exists_shown_ne_bracket (v : Value) (h : v.isExact = true) :
    ∃ c more, shown v = c :: more ∧ c ≠ ']' := by
  obtain ⟨c, more, hshown, hc⟩ := exists_shown h
  refine ⟨c, more, hshown, ?_⟩
  rintro rfl
  have hnone : shownKind ']' = "" := by decide
  rw [hnone] at hc
  cases v <;> simp [kind] at hc

theorem exists_shownMember_ne_brace (m : String × Value) :
    ∃ c more, shownMember m = c :: more ∧ c ≠ '}' := by
  rw [shownMember, Text.toList_quoted, List.cons_append]
  refine ⟨_, _, rfl, ?_⟩
  rcases Text.isQuote_quoteFor m.1.toList with hquote | hquote <;> rw [hquote] <;> decide

/-- A member is told when its value is. -/
theorem Tells.member {m : String × Value} (h : Tells shown (isExact · = true) m.2) :
    Tells shownMember (fun m => m.2.isExact = true) m := by
  intro m' hm' rest rest' hrest hrest' hshown
  rw [shownMember, shownMember, List.append_assoc, List.append_assoc] at hshown
  obtain ⟨hkey, hmore⟩ := Text.quoted_append_inj hshown
  have hvalue := (List.cons.inj (List.cons.inj hmore).2).2
  exact Prod.ext hkey (h m'.2 hm' rest rest' hrest hrest' hvalue)

mutual

theorem tells_of_isExact : ∀ {v : Value}, v.isExact = true → Tells shown (isExact · = true) v
  | null, h => by
    intro w hw rest rest' _ _ hshown
    have hkind := kind_eq_of_shown h hw hshown
    cases w with
    | null => rfl
    | _ => simp [kind] at hkind
  | bool b, h => by
    intro w hw rest rest' _ _ hshown
    have hkind := kind_eq_of_shown h hw hshown
    cases w with
    | bool b' =>
      rw [shown_bool, shown_bool] at hshown
      cases b <;> cases b' <;> simp_all
    | _ => simp [kind] at hkind
  | int n, h => by
    intro w hw rest rest' hrest hrest' hshown
    have hkind := kind_eq_of_shown h hw hshown
    cases w with
    | int n' => rw [intText_append_inj hrest hrest' hshown]
    | _ => simp [kind] at hkind
  | text s, h => by
    intro w hw rest rest' _ _ hshown
    have hkind := kind_eq_of_shown h hw hshown
    cases w with
    | text s' => rw [(Text.quoted_append_inj hshown).1]
    | _ => simp [kind] at hkind
  | list items, h => by
    intro w hw rest rest' _ _ hshown
    have hkind := kind_eq_of_shown h hw hshown
    cases w with
    | list items' =>
      rw [shown_list, shown_list, List.cons_append, List.cons_append, List.append_assoc,
        List.append_assoc] at hshown
      have hitems : items = items' :=
        listed_inj (by decide) (by decide) exists_shown_ne_bracket (tells_of_areExact h)
          (areExact_iff.mp hw) (List.cons.inj hshown).2
      rw [hitems]
    | _ => simp [kind] at hkind
  | object members, h => by
    intro w hw rest rest' _ _ hshown
    have hkind := kind_eq_of_shown h hw hshown
    cases w with
    | object members' =>
      rw [shown_object, shown_object, List.cons_append, List.cons_append, List.append_assoc,
        List.append_assoc] at hshown
      have hmembers : members = members' :=
        listed_inj (by decide) (by decide) (fun m _ => exists_shownMember_ne_brace m)
          (tells_of_haveExact h) (haveExact_iff.mp hw) (List.cons.inj hshown).2
      rw [hmembers]
    | _ => simp [kind] at hkind

theorem tells_of_areExact : ∀ {items : List Value}, areExact items = true →
    ∀ v ∈ items, v.isExact = true ∧ Tells shown (isExact · = true) v
  | [], _ => List.forall_mem_nil _
  | v :: rest, h => by
    unfold areExact at h
    obtain ⟨hv, hrest⟩ := Bool.and_eq_true_iff.mp h
    exact List.forall_mem_cons.mpr ⟨⟨hv, tells_of_isExact hv⟩, tells_of_areExact hrest⟩

theorem tells_of_haveExact : ∀ {members : List (String × Value)}, haveExact members = true →
    ∀ m ∈ members, m.2.isExact = true ∧ Tells shownMember (fun m => m.2.isExact = true) m
  | [], _ => List.forall_mem_nil _
  | (k, v) :: rest, h => by
    unfold haveExact at h
    obtain ⟨hv, hrest⟩ := Bool.and_eq_true_iff.mp h
    exact List.forall_mem_cons.mpr
      ⟨⟨hv, Tells.member (tells_of_isExact hv)⟩, tells_of_haveExact hrest⟩

end

/-- **Displayed values.** The display tells the value. -/
theorem display_inj {v w : Value} (hv : v.isExact = true) (hw : w.isExact = true) :
    v.display = w.display ↔ v = w := by
  refine ⟨fun h => ?_, congrArg _⟩
  refine tells_of_isExact hv w hw [] [] endsNumber_nil endsNumber_nil ?_
  rw [List.append_nil, List.append_nil]
  exact congrArg String.toList h

end SqlCompiler.Value
