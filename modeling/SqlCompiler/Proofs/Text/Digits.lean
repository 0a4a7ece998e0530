import Mathlib.Algebra.Group.Nat.Defs
import SqlCompiler.Number.Text

/-!
# Digits of numbers

The decimal digits of a number stand for it (`ofDigitChars_padded`), so among texts of one length
that consist of digits, those of smaller numbers come first (`lt_iff_ofDigitChars_lt`,
`toList_padded_lt_iff`). So do those of a number with a sign (`intText_inj`) and hexadecimal digits
(`hex_inj`).
-/

namespace SqlCompiler.Text

theorem digitsOn_eq {base : Nat} (h : 1 < base) (n : Nat) (tail : List Char) :
    digitsOn base n tail = Nat.toDigits base n ++ tail := by
  induction n using Nat.strongRecOn generalizing tail with
  | ind n ih =>
    unfold digitsOn
    by_cases hn : n < base
    · rw [dif_pos (.inr hn), Nat.toDigits_of_lt_base hn]
      rfl
    · rw [dif_neg (by omega), ih (n / base) (Nat.div_lt_self (by omega) h),
        @Nat.toDigits_of_base_le base n h (Nat.le_of_not_lt hn), List.append_assoc]
      rfl

theorem toList_padded (width n : Nat) :
    (padded width n).toList = List.replicate (width - (Nat.toDigits 10 n).length) '0' ++
      Nat.toDigits 10 n := by
  unfold padded
  rw [digitsOn_eq (by decide), List.append_nil, String.toList_ofList]
  rfl

theorem isDigit_of_mem_padded {width n : Nat} {c : Char} (h : c ∈ (padded width n).toList) :
    c.isDigit = true := by
  rw [toList_padded, List.mem_append] at h
  rcases h with h | h
  · rw [List.eq_of_mem_replicate h]
    decide
  · exact Nat.isDigit_of_mem_toDigits (by decide) (by decide) h

theorem length_padded {width n : Nat} (hwidth : 0 < width) (h : n < 10 ^ width) :
    (padded width n).toList.length = width := by
  have hle := (Nat.length_toDigits_le_iff (by decide) hwidth).mpr h
  rw [toList_padded, List.length_append, List.length_replicate]
  omega

/-- Padded digits stand for the number. -/
theorem ofDigitChars_padded (width n : Nat) : Nat.ofDigitChars 10 (padded width n).toList 0 = n := by
  rw [toList_padded, Nat.ofDigitChars_append, Nat.ofDigitChars_replicate_zero, Nat.mul_zero,
    Nat.ofDigitChars_ten_toDigits]

theorem toNat_of_isDigit {c : Char} (h : c.isDigit = true) : 48 ≤ c.toNat ∧ c.toNat ≤ 57 :=
  Char.isDigit_iff_toNat.mp h

/-- Digits stand for a number of at most so many digits. -/
theorem ofDigitChars_lt {l : List Char} (h : ∀ c ∈ l, c.isDigit = true) :
    Nat.ofDigitChars 10 l 0 < 10 ^ l.length := by
  induction l with
  | nil => decide
  | cons c l ih =>
    obtain ⟨hc, hl⟩ := List.forall_mem_cons.mp h
    have hrest := ih hl
    have hdigit : c.toNat - '0'.toNat ≤ 9 := by
      have hbounds := toNat_of_isDigit hc
      have hzero : '0'.toNat = 48 := rfl
      omega
    rw [Nat.ofDigitChars_cons, Nat.ofDigitChars_eq_ofDigitChars_zero, List.length_cons,
      Nat.pow_succ]
    have hmul : 10 ^ l.length * (10 * 0 + (c.toNat - '0'.toNat)) ≤ 10 ^ l.length * 9 :=
      Nat.mul_le_mul_left _ (by omega)
    omega

/-- Among digits of one length, those of smaller numbers come first. -/
theorem lt_iff_ofDigitChars_lt {l m : List Char} (hl : ∀ c ∈ l, c.isDigit = true)
    (hm : ∀ c ∈ m, c.isDigit = true) (h : l.length = m.length) :
    l < m ↔ Nat.ofDigitChars 10 l 0 < Nat.ofDigitChars 10 m 0 := by
  induction l generalizing m with
  | nil =>
    obtain rfl : m = [] := List.length_eq_zero_iff.mp h.symm
    exact iff_of_false (List.not_lt_nil _) (Nat.lt_irrefl _)
  | cons c l ih =>
    cases m with
    | nil => cases h
    | cons d m =>
      obtain ⟨hc, hl⟩ := List.forall_mem_cons.mp hl
      obtain ⟨hd, hm⟩ := List.forall_mem_cons.mp hm
      have hlength : l.length = m.length := Nat.succ.inj h
      have hrest := ih hl hm hlength
      have hboundl := ofDigitChars_lt hl
      have hboundm := ofDigitChars_lt hm
      have hcnat := toNat_of_isDigit hc
      have hdnat := toNat_of_isDigit hd
      have hzero : '0'.toNat = 48 := rfl
      rw [List.cons_lt_cons_iff, Nat.ofDigitChars_cons, Nat.ofDigitChars_cons,
        Nat.ofDigitChars_eq_ofDigitChars_zero (l := l),
        Nat.ofDigitChars_eq_ofDigitChars_zero (l := m), hrest, ← hlength]
      rw [← hlength] at hboundm
      rcases Nat.lt_trichotomy c.toNat d.toNat with hlt | heq | hgt
      · -- The first digit decides.
        have hmul : 10 ^ l.length * (10 * 0 + (c.toNat - '0'.toNat)) + 10 ^ l.length ≤
            10 ^ l.length * (10 * 0 + (d.toNat - '0'.toNat)) := by
          rw [← Nat.mul_succ]
          exact Nat.mul_le_mul_left _ (by omega)
        exact iff_of_true (.inl hlt) (by omega)
      · obtain rfl : c = d := Char.toNat_inj.mp heq
        simp
      · have hmul : 10 ^ l.length * (10 * 0 + (d.toNat - '0'.toNat)) + 10 ^ l.length ≤
            10 ^ l.length * (10 * 0 + (c.toNat - '0'.toNat)) := by
          rw [← Nat.mul_succ]
          exact Nat.mul_le_mul_left _ (by omega)
        refine iff_of_false ?_ (by omega)
        rintro (hlt | ⟨rfl, _⟩)
        · exact absurd (show c.toNat < d.toNat from hlt) (by omega)
        · omega

theorem toList_padded_lt_iff {width m n : Nat} (hwidth : 0 < width) (hm : m < 10 ^ width)
    (hn : n < 10 ^ width) : (padded width m).toList < (padded width n).toList ↔ m < n := by
  rw [lt_iff_ofDigitChars_lt (fun _ => isDigit_of_mem_padded) (fun _ => isDigit_of_mem_padded)
    ((length_padded hwidth hm).trans (length_padded hwidth hn).symm), ofDigitChars_padded,
    ofDigitChars_padded]

/-! ## Decimal digits with a sign -/

/-- A number is read back from its digits. -/
theorem toDigits_inj {m n : Nat} (h : Nat.toDigits 10 m = Nat.toDigits 10 n) : m = n :=
  calc m = Nat.ofDigitChars 10 (Nat.toDigits 10 m) 0 := Nat.ofDigitChars_ten_toDigits.symm
    _ = Nat.ofDigitChars 10 (Nat.toDigits 10 n) 0 := by rw [h]
    _ = n := Nat.ofDigitChars_ten_toDigits

theorem toList_intText_of_neg {n : Int} (h : n < 0) :
    (intText n).toList = '-' :: Nat.toDigits 10 n.natAbs := by
  have hminus : "-".toList = ['-'] := by decide
  unfold intText
  dsimp only
  rw [if_pos h, String.toList_append, hminus, String.toList_ofList, digitsOn_eq (by decide),
    List.append_nil, List.singleton_append]

theorem toList_intText_of_nonneg {n : Int} (h : 0 ≤ n) :
    (intText n).toList = Nat.toDigits 10 n.natAbs := by
  unfold intText
  dsimp only
  rw [if_neg (Int.not_lt.mpr h), String.toList_ofList, digitsOn_eq (by decide),
    List.append_nil]

theorem intText_inj {m n : Int} : intText m = intText n ↔ m = n := by
  refine ⟨fun h => ?_, congrArg _⟩
  have hminus (k : Nat) (rest : List Char) : '-' :: rest ≠ Nat.toDigits 10 k := by
    intro heq
    have hmem : '-' ∈ Nat.toDigits 10 k := heq ▸ List.mem_cons_self
    exact absurd (Nat.isDigit_of_mem_toDigits (by decide) (by decide) hmem) (by decide)
  have hlists := congrArg String.toList h
  rcases Int.lt_or_le m 0 with hm | hm <;> rcases Int.lt_or_le n 0 with hn | hn
  · rw [toList_intText_of_neg hm, toList_intText_of_neg hn] at hlists
    have habs := toDigits_inj (List.cons.inj hlists).2
    omega
  · rw [toList_intText_of_neg hm, toList_intText_of_nonneg hn] at hlists
    exact absurd hlists (hminus _ _)
  · rw [toList_intText_of_nonneg hm, toList_intText_of_neg hn] at hlists
    exact absurd hlists.symm (hminus _ _)
  · rw [toList_intText_of_nonneg hm, toList_intText_of_nonneg hn] at hlists
    have habs := toDigits_inj hlists
    omega

/-! ## Hexadecimal digits -/

theorem exists_of_mem_toDigits {base : Nat} (h : 1 < base) {n : Nat} {c : Char}
    (hc : c ∈ Nat.toDigits base n) : ∃ d < base, c = d.digitChar := by
  induction n using Nat.strongRecOn with
  | ind n ih =>
    by_cases hn : n < base
    · rw [Nat.toDigits_of_lt_base hn] at hc
      exact ⟨n, hn, List.mem_singleton.mp hc⟩
    · rw [Nat.toDigits_of_base_le h (Nat.le_of_not_lt hn), List.mem_append] at hc
      rcases hc with hc | hc
      · exact ih (n / base) (Nat.div_lt_self (by omega) h) hc
      · exact ⟨n % base, Nat.mod_lt _ (by omega), List.mem_singleton.mp hc⟩

theorem digitChar_inj {m n : Nat} (hm : m < 16) (hn : n < 16) :
    m.digitChar = n.digitChar ↔ m = n := by
  have hall : ∀ m < 16, ∀ n < 16, m.digitChar = n.digitChar → m = n := by
    decide
  exact ⟨hall m hm n hn, congrArg _⟩

theorem hex_eq (n : Nat) : hex n = Nat.toDigits 16 n := by
  unfold hex
  rw [digitsOn_eq (by decide), List.append_nil]

theorem minus_not_mem_hex (n : Nat) : '-' ∉ hex n := by
  have hall : ∀ d < 16, '-' ≠ d.digitChar := by
    decide
  intro hmem
  rw [hex_eq] at hmem
  obtain ⟨d, hd, heq⟩ := exists_of_mem_toDigits (by decide) hmem
  exact hall d hd heq

theorem hex_of_le {n : Nat} (h : 16 ≤ n) : hex n = hex (n / 16) ++ [(n % 16).digitChar] := by
  rw [hex_eq, hex_eq, Nat.toDigits_of_base_le (by decide) h]

theorem hex_of_lt {n : Nat} (h : n < 16) : hex n = [n.digitChar] := by
  rw [hex_eq, Nat.toDigits_of_lt_base h]

theorem hex_ne_nil (n : Nat) : hex n ≠ [] := by
  rw [hex_eq]
  exact Nat.toDigits_ne_nil

/-- Hexadecimal digits stand for the number. -/
theorem hex_inj {m n : Nat} : hex m = hex n ↔ m = n := by
  refine ⟨fun h => ?_, congrArg _⟩
  -- A digit more makes the text longer, so both numbers end at the same place.
  have hlong {k : Nat} (hk : 16 ≤ k) (d : Char) : hex k ≠ [d] := by
    rw [hex_of_le hk]
    intro heq
    have hlength := congrArg List.length heq
    have hpos := List.length_pos_iff.mpr (hex_ne_nil (k / 16))
    rw [List.length_append, List.length_singleton, List.length_singleton] at hlength
    omega
  induction m using Nat.strongRecOn generalizing n with
  | ind m ih =>
    rcases Nat.lt_or_ge m 16 with hm | hm <;> rcases Nat.lt_or_ge n 16 with hn | hn
    · rw [hex_of_lt hm, hex_of_lt hn] at h
      exact (digitChar_inj hm hn).mp (List.cons.inj h).1
    · exact absurd (h.symm.trans (hex_of_lt hm)) (hlong hn _)
    · exact absurd (h.trans (hex_of_lt hn)) (hlong hm _)
    · rw [hex_of_le hm, hex_of_le hn] at h
      obtain ⟨hrest, hlast⟩ := List.append_inj' h rfl
      have hquotient := ih (m / 16) (by omega) hrest
      have hdigit := (digitChar_inj (Nat.mod_lt _ (by decide)) (Nat.mod_lt _ (by decide))).mp
        (List.cons.inj hlast).1
      omega

end SqlCompiler.Text
