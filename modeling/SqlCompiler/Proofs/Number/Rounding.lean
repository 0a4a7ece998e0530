import Mathlib.Algebra.Order.Field.Power
import Mathlib.Algebra.Order.Floor.Semifield
import Mathlib.Data.Nat.Cast.Order.Field
import Mathlib.Data.Rat.Floor
import Mathlib.Tactic.FieldSimp
import Mathlib.Tactic.Linarith
import Mathlib.Tactic.NormNum
import Mathlib.Tactic.Positivity
import Mathlib.Tactic.Ring
import SqlCompiler.Number.Arithmetic

/-!
# Rounding to binary numbers

A fraction is rounded to the nearest binary number. What is used of it is that rounding passes no
multiple of a power of two that is not too fine for the size of the fraction (`Rounds`):

1. the exponent that is taken for a fraction fits its size (`nearestExponent_spec`);
2. the quotient at this exponent is rounded to a whole number, which passes no whole number
   (`le_roundQuotient`, `roundQuotient_le`);
3. the bits are read back as this whole number at this exponent (`value_ofMagnitude`).

Sums, differences and multiples are exact up to this one rounding.
-/

namespace SqlCompiler.Double

/-! ## Values -/

/-- The number that a finite one stands for. -/
def View.value : View → ℚ
  | .finite negative mantissa exponent =>
    (if negative then -(mantissa : ℚ) else mantissa) * 2 ^ exponent
  | _ => 0

def value (x : Double) : ℚ :=
  x.view.value

theorem two_zpow_pos (e : ℤ) : (0 : ℚ) < 2 ^ e :=
  zpow_pos (by norm_num) e

theorem two_zpow_lt_iff {e f : ℤ} : (2 : ℚ) ^ e < 2 ^ f ↔ e < f :=
  zpow_lt_zpow_iff_right₀ (by norm_num)

theorem two_zpow_le_iff {e f : ℤ} : (2 : ℚ) ^ e ≤ 2 ^ f ↔ e ≤ f :=
  zpow_le_zpow_iff_right₀ (by norm_num)

theorem two_zpow_add (e f : ℤ) : (2 : ℚ) ^ (e + f) = 2 ^ e * 2 ^ f :=
  zpow_add₀ (by norm_num) e f

theorem hiddenBit_eq : ((hiddenBit : ℕ) : ℚ) = 2 ^ (52 : ℤ) := by
  unfold hiddenBit
  norm_num

theorem scaleBinary_pos (num : ℕ) {den : ℕ} (hden : 0 < den) (e : ℤ) :
    0 < (scaleBinary num den e).2 := by
  cases e with
  | ofNat k => exact hden
  | negSucc k =>
    show 0 < den <<< (k + 1)
    rw [Nat.shiftLeft_eq]
    positivity

theorem scaleBinary_div (num : ℕ) {den : ℕ} (hden : 0 < den) (e : ℤ) :
    ((scaleBinary num den e).1 : ℚ) / (scaleBinary num den e).2 = num / den * 2 ^ e := by
  have hne : (den : ℚ) ≠ 0 := Nat.cast_ne_zero.mpr hden.ne'
  cases e with
  | ofNat k =>
    show ((num <<< k : ℕ) : ℚ) / den = num / den * 2 ^ (Int.ofNat k)
    rw [Nat.shiftLeft_eq, Int.ofNat_eq_natCast, zpow_natCast]
    push_cast
    ring
  | negSucc k =>
    show (num : ℚ) / ((den <<< (k + 1) : ℕ) : ℚ) = num / den * 2 ^ (Int.negSucc k)
    rw [Nat.shiftLeft_eq, zpow_negSucc]
    push_cast
    field_simp

/-! ## Quotients -/

theorem le_roundQuotient {num den : ℕ} (hden : 0 < den) {g : ℤ} (h : (g : ℚ) ≤ num / den) :
    g ≤ roundQuotient num den := by
  have hmul : g * den ≤ num := by
    exact_mod_cast (le_div_iff₀ (Nat.cast_pos.mpr hden : (0 : ℚ) < den)).mp h
  have hfloor : g ≤ ((num / den : ℕ) : ℤ) := by
    rw [Int.natCast_ediv]
    exact (Int.le_ediv_iff_mul_le (by exact_mod_cast hden)).mpr hmul
  unfold roundQuotient
  dsimp only
  split
  · exact hfloor
  · rw [Int.natCast_succ]
    omega

theorem roundQuotient_le {num den : ℕ} (hden : 0 < den) {g : ℤ} (h : (num : ℚ) / den ≤ g) :
    roundQuotient num den ≤ g := by
  have hmul : (num : ℤ) ≤ g * den := by
    exact_mod_cast (div_le_iff₀ (Nat.cast_pos.mpr hden : (0 : ℚ) < den)).mp h
  have hsplit : ((num / den : ℕ) : ℤ) * den + (num % den : ℕ) = num := by
    exact_mod_cast Nat.div_add_mod' num den
  have hpos : (0 : ℤ) < den := by exact_mod_cast hden
  unfold roundQuotient
  dsimp only
  split
  · refine le_of_mul_le_mul_right ?_ hpos
    omega
  · rename_i hup
    -- What is rounded up has a remainder.
    have hrest : 0 < num % den := by
      refine Nat.pos_of_ne_zero fun hzero => hup ?_
      rw [hzero, Bool.or_eq_true, decide_eq_true_eq]
      exact .inl (by omega)
    have hlt : ((num / den : ℕ) : ℤ) < g := by
      refine lt_of_mul_lt_mul_right ?_ hpos.le
      omega
    rw [Int.natCast_succ]
    omega

/-! ## Exponents -/

/-- The size of a quotient by the sizes of its parts. -/
theorem two_zpow_log2 {num den : ℕ} (hnum : num ≠ 0) (hden : den ≠ 0) :
    (2 : ℚ) ^ ((num.log2 : ℤ) - den.log2 - 1) ≤ num / den ∧
      (num : ℚ) / den < 2 ^ ((num.log2 : ℤ) - den.log2 + 1) := by
  have hnumLow : (2 : ℚ) ^ (num.log2 : ℤ) ≤ num := by
    rw [zpow_natCast]
    exact_mod_cast Nat.log2_self_le hnum
  have hnumHigh : (num : ℚ) < 2 ^ ((num.log2 : ℤ) + 1) := by
    exact_mod_cast Nat.lt_log2_self (n := num)
  have hdenLow : (2 : ℚ) ^ (den.log2 : ℤ) ≤ den := by
    rw [zpow_natCast]
    exact_mod_cast Nat.log2_self_le hden
  have hdenHigh : (den : ℚ) < 2 ^ ((den.log2 : ℤ) + 1) := by
    exact_mod_cast Nat.lt_log2_self (n := den)
  have hpos : (0 : ℚ) < den := Nat.cast_pos.mpr (Nat.pos_of_ne_zero hden)
  constructor
  · rw [le_div_iff₀ hpos]
    calc (2 : ℚ) ^ ((num.log2 : ℤ) - den.log2 - 1) * den
        ≤ 2 ^ ((num.log2 : ℤ) - den.log2 - 1) * 2 ^ ((den.log2 : ℤ) + 1) :=
          mul_le_mul_of_nonneg_left hdenHigh.le (two_zpow_pos _).le
      _ = 2 ^ (num.log2 : ℤ) := by
          rw [← two_zpow_add]
          congr 1
          omega
      _ ≤ num := hnumLow
  · rw [div_lt_iff₀ hpos]
    calc (num : ℚ) < 2 ^ ((num.log2 : ℤ) + 1) := hnumHigh
      _ = 2 ^ ((num.log2 : ℤ) - den.log2 + 1) * 2 ^ (den.log2 : ℤ) := by
          rw [← two_zpow_add]
          congr 1
          omega
      _ ≤ 2 ^ ((num.log2 : ℤ) - den.log2 + 1) * den :=
          mul_le_mul_of_nonneg_left hdenLow (two_zpow_pos _).le

/-- Whether a fraction has fewer bits before the point than a normal mantissa. -/
theorem scaleBinary_lt_hiddenBit_iff (num : ℕ) {den : ℕ} (hden : 0 < den) (e : ℤ) :
    (scaleBinary num den (-e)).1 / (scaleBinary num den (-e)).2 < hiddenBit ↔
      (num : ℚ) / den < 2 ^ (e + 52) := by
  have hpos := scaleBinary_pos num hden (-e)
  have hquotient := scaleBinary_div num hden (-e)
  have hscaled : (num : ℚ) / den =
      (scaleBinary num den (-e)).1 / (scaleBinary num den (-e)).2 * 2 ^ e := by
    rw [hquotient, mul_assoc, ← two_zpow_add, neg_add_cancel, zpow_zero, mul_one]
  rw [hscaled, add_comm, two_zpow_add, mul_lt_mul_iff_of_pos_right (two_zpow_pos e),
    ← hiddenBit_eq, div_lt_iff₀ (Nat.cast_pos.mpr hpos), Nat.div_lt_iff_lt_mul hpos]
  exact_mod_cast Iff.rfl

theorem nearestExponent_ge (num den : ℕ) : -1074 ≤ nearestExponent num den :=
  le_max_left _ _

/-- A fraction is below the next exponent, and not below its own one unless that is the least. -/
theorem nearestExponent_spec {num den : ℕ} (hnum : num ≠ 0) (hden : den ≠ 0) :
    (num : ℚ) / den < 2 ^ (nearestExponent num den + 53) ∧
      (nearestExponent num den = -1074 ∨
        (2 : ℚ) ^ (nearestExponent num den + 52) ≤ num / den) := by
  obtain ⟨hlow, hhigh⟩ := two_zpow_log2 hnum hden
  have hcut := scaleBinary_lt_hiddenBit_iff num (Nat.pos_of_ne_zero hden)
    ((num.log2 : ℤ) - den.log2 - 52)
  unfold nearestExponent
  dsimp only
  split
  · rename_i hsmall
    have hlt := hcut.mp hsmall
    refine ⟨hlt.trans_le (two_zpow_le_iff.mpr (by omega)), ?_⟩
    refine (le_or_gt ((num.log2 : ℤ) - den.log2 - 52 - 1) (-1074)).imp max_eq_left fun hgt => ?_
    rw [max_eq_right hgt.le]
    exact (two_zpow_le_iff.mpr (by omega)).trans hlow
  · rename_i hlarge
    have hle := not_lt.mp (mt hcut.mpr hlarge)
    refine ⟨hhigh.trans_le (two_zpow_le_iff.mpr (by omega)), ?_⟩
    refine (le_or_gt ((num.log2 : ℤ) - den.log2 - 52) (-1074)).imp max_eq_left fun hgt => ?_
    rw [max_eq_right hgt.le]
    exact hle

/-- No finer exponent is taken than one that leaves a fraction room. -/
theorem nearestExponent_le {num den : ℕ} (hnum : num ≠ 0) (hden : den ≠ 0) {k : ℤ}
    (hk : -1074 ≤ k) (hsize : (num : ℚ) / den < 2 ^ (k + 53)) : nearestExponent num den ≤ k := by
  rcases (nearestExponent_spec hnum hden).2 with hleast | hown
  · omega
  · have hlt := two_zpow_lt_iff.mp (hown.trans_lt hsize)
    omega

/-! ## Bits -/

/-- The sign, the exponent and the fraction are read back from the bits of a finite number. -/
theorem parts_ofMagnitude (negative : Bool) {m : ℕ} (h : m < 2047 * hiddenBit) :
    ((ofMagnitude negative m).bits.toNat / signBit == 1) = negative ∧
      (ofMagnitude negative m).bits.toNat % hiddenBit = m % hiddenBit ∧
      (ofMagnitude negative m).bits.toNat / hiddenBit % 2048 = m / hiddenBit := by
  have hbits : (ofMagnitude negative m).bits.toNat = (if negative then signBit else 0) + m := by
    unfold ofMagnitude
    rw [UInt64.toNat_ofNat', Nat.mod_eq_of_lt]
    unfold signBit hiddenBit at *
    split <;> omega
  rw [hbits]
  unfold signBit hiddenBit at *
  cases negative <;> simp <;> omega

theorem view_ofMagnitude_of_lt (negative : Bool) {m : ℕ} (h : m < hiddenBit) :
    (ofMagnitude negative m).view = .finite negative m (-1074) := by
  obtain ⟨hsign, hfraction, hexponent⟩ := parts_ofMagnitude negative (m := m) (by omega)
  rw [Nat.mod_eq_of_lt h] at hfraction
  rw [Nat.div_eq_of_lt h] at hexponent
  unfold view
  dsimp only
  rw [hsign, hfraction, hexponent]
  rfl

theorem view_ofMagnitude_of_le (negative : Bool) {m : ℕ} (h : hiddenBit ≤ m)
    (hlt : m < 2047 * hiddenBit) : (ofMagnitude negative m).view =
      .finite negative (hiddenBit + m % hiddenBit) ((m / hiddenBit : ℕ) - 1075) := by
  obtain ⟨hsign, hfraction, hexponent⟩ := parts_ofMagnitude negative hlt
  have hpos : 0 < m / hiddenBit := Nat.div_pos h (by decide)
  have hhigh : m / hiddenBit < 2047 := (Nat.div_lt_iff_lt_mul (by decide)).mpr hlt
  unfold view
  dsimp only
  rw [hsign, hfraction, hexponent]
  split
  · omega
  · omega
  · rfl

theorem isFinite_of_view {x : Double} {negative : Bool} {m : ℕ} {e : ℤ}
    (h : x.view = .finite negative m e) : x.isFinite = true := by
  unfold isFinite
  rw [h]

theorem value_of_view {x : Double} {negative : Bool} {m : ℕ} {e : ℤ}
    (h : x.view = .finite negative m e) :
    x.value = (if negative then -(m : ℚ) else m) * 2 ^ e := by
  unfold value
  rw [h]
  rfl

/-- A mantissa that has as many bits as a normal one, or one more, which moves to the exponent. -/
theorem exists_view_ofMagnitude (negative : Bool) {q E : ℕ} (hE : E ≤ 2044)
    (hlow : hiddenBit ≤ q) (hhigh : q ≤ 2 * hiddenBit) :
    ∃ (m : ℕ) (e : ℤ), (ofMagnitude negative (q + E * hiddenBit)).view = .finite negative m e ∧
      (m : ℚ) * 2 ^ e = q * 2 ^ ((E : ℤ) - 1074) := by
  have hbit : 0 < hiddenBit := by decide
  have hmul : E * hiddenBit ≤ 2044 * hiddenBit := Nat.mul_le_mul_right _ hE
  refine ⟨_, _, view_ofMagnitude_of_le negative (by omega) (by omega), ?_⟩
  rcases Nat.lt_or_ge q (2 * hiddenBit) with hone | htwo
  · have hdiv : (q + E * hiddenBit) / hiddenBit = E + 1 := by
      rw [Nat.add_mul_div_right _ _ hbit,
        Nat.div_eq_of_lt_le (by omega) (by omega : q < (1 + 1) * hiddenBit)]
      omega
    have hmod : (q + E * hiddenBit) % hiddenBit = q - hiddenBit := by
      rw [Nat.add_mul_mod_self_right, Nat.mod_eq_sub_mod (by omega), Nat.mod_eq_of_lt (by omega)]
    have hexponent : ((E + 1 : ℕ) : ℤ) - 1075 = (E : ℤ) - 1074 := by
      push_cast
      ring
    rw [hdiv, hmod, Nat.add_sub_cancel' hlow, hexponent]
  · obtain rfl : q = 2 * hiddenBit := by omega
    have hdiv : (2 * hiddenBit + E * hiddenBit) / hiddenBit = E + 2 := by
      rw [← Nat.add_mul, Nat.mul_div_cancel _ hbit, Nat.add_comm]
    have hmod : (2 * hiddenBit + E * hiddenBit) % hiddenBit = 0 := by
      rw [← Nat.add_mul, Nat.mul_mod_left]
    have hexponent : ((E + 2 : ℕ) : ℤ) - 1075 = 1 + ((E : ℤ) - 1074) := by
      push_cast
      ring
    rw [hdiv, hmod, hexponent, two_zpow_add, zpow_one]
    push_cast
    ring

/-- A mantissa and an exponent are read back as they were put together. -/
theorem value_ofMagnitude (negative : Bool) {q E : ℕ} (hE : E ≤ 2044) (hhigh : q ≤ 2 * hiddenBit)
    (hlow : hiddenBit ≤ q ∨ E = 0) :
    (ofMagnitude negative (q + E * hiddenBit)).isFinite = true ∧
      (ofMagnitude negative (q + E * hiddenBit)).value =
        (if negative then -(q : ℚ) else q) * 2 ^ ((E : ℤ) - 1074) := by
  rcases Nat.lt_or_ge q hiddenBit with hsmall | hlarge
  · obtain rfl : E = 0 := hlow.resolve_left hsmall.not_ge
    have hview := view_ofMagnitude_of_lt negative hsmall
    have hexponent : ((0 : ℕ) : ℤ) - 1074 = -1074 := by norm_num
    rw [zero_mul, add_zero, hexponent]
    exact ⟨isFinite_of_view hview, value_of_view hview⟩
  · obtain ⟨m, e, hview, hvalue⟩ := exists_view_ofMagnitude negative hE hlarge hhigh
    refine ⟨isFinite_of_view hview, (value_of_view hview).trans ?_⟩
    cases negative with
    | false => exact hvalue
    | true =>
      show -(m : ℚ) * 2 ^ e = -(q : ℚ) * 2 ^ ((E : ℤ) - 1074)
      rw [neg_mul, neg_mul, hvalue]

/-! ## Rounding -/

/-- What a fraction is rounded to is a whole number at its exponent, which is on the same side of
every whole number. -/
theorem exists_nearestMagnitude {num den : ℕ} (hnum : num ≠ 0) (hden : den ≠ 0)
    (hsize : (num : ℚ) / den < 2 ^ (1000 : ℤ)) :
    ∃ q E : ℕ, nearestMagnitude num den = q + E * hiddenBit ∧ E ≤ 2044 ∧ q ≤ 2 * hiddenBit ∧
      (hiddenBit ≤ q ∨ E = 0) ∧ (E : ℤ) - 1074 = nearestExponent num den ∧
      ∀ g : ℤ, (g * 2 ^ nearestExponent num den ≤ (num : ℚ) / den → g ≤ q) ∧
        ((num : ℚ) / den ≤ g * 2 ^ nearestExponent num den → q ≤ g) := by
  have hlow := nearestExponent_ge num den
  have hhigh : nearestExponent num den ≤ 947 :=
    nearestExponent_le hnum hden (by decide) (hsize.trans_le (two_zpow_le_iff.mpr (by decide)))
  obtain ⟨hbelow, habove⟩ := nearestExponent_spec hnum hden
  have hmagnitude : nearestMagnitude num den = min (2047 * hiddenBit)
      (roundQuotient (scaleBinary num den (-nearestExponent num den)).1
        (scaleBinary num den (-nearestExponent num den)).2 +
          (nearestExponent num den + 1074).toNat * hiddenBit) := if_neg hnum
  have hpos := scaleBinary_pos num (Nat.pos_of_ne_zero hden) (-nearestExponent num den)
  have hscaled := scaleBinary_div num (Nat.pos_of_ne_zero hden) (-nearestExponent num den)
  rw [zpow_neg, ← div_eq_mul_inv] at hscaled
  have hside : ∀ g : ℤ,
      (g * 2 ^ nearestExponent num den ≤ (num : ℚ) / den →
        g ≤ roundQuotient (scaleBinary num den (-nearestExponent num den)).1
          (scaleBinary num den (-nearestExponent num den)).2) ∧
      ((num : ℚ) / den ≤ g * 2 ^ nearestExponent num den →
        roundQuotient (scaleBinary num den (-nearestExponent num den)).1
          (scaleBinary num den (-nearestExponent num den)).2 ≤ g) := fun g =>
    ⟨fun h => le_roundQuotient hpos (hscaled ▸ (le_div_iff₀ (two_zpow_pos _)).mpr h),
      fun h => roundQuotient_le hpos (hscaled ▸ (div_le_iff₀ (two_zpow_pos _)).mpr h)⟩
  generalize roundQuotient _ _ = q at hmagnitude hside
  generalize hE : (nearestExponent num den + 1074).toNat = E at hmagnitude
  have hexponent : (E : ℤ) - 1074 = nearestExponent num den := by omega
  have hfits : q ≤ 2 * hiddenBit := by
    have htop : (num : ℚ) / den ≤ ((2 * hiddenBit : ℕ) : ℤ) * 2 ^ nearestExponent num den := by
      refine hbelow.le.trans_eq ?_
      rw [show nearestExponent num den + 53 = 1 + 52 + nearestExponent num den by ring,
        two_zpow_add, two_zpow_add, ← hiddenBit_eq]
      push_cast
      ring
    exact_mod_cast (hside _).2 htop
  have hnormal : hiddenBit ≤ q ∨ E = 0 := by
    rcases habove with hleast | hown
    · exact .inr (by omega)
    · have hbottom : ((hiddenBit : ℕ) : ℤ) * 2 ^ nearestExponent num den ≤ (num : ℚ) / den := by
        refine le_of_eq_of_le ?_ hown
        rw [add_comm, two_zpow_add, ← hiddenBit_eq]
        push_cast
        ring
      exact .inl (by exact_mod_cast (hside _).1 hbottom)
  refine ⟨q, E, ?_, by omega, hfits, hnormal, hexponent, hside⟩
  have hmul : E * hiddenBit ≤ 2044 * hiddenBit := Nat.mul_le_mul_right _ (by omega)
  rw [hmagnitude, min_eq_right (by omega)]

/-- A finite number that a rational one is rounded to. It is on the same side of every multiple of a
power of two that leaves the rational number room for a mantissa. -/
structure Rounds (v : ℚ) (x : Double) : Prop where
  finite : x.isFinite = true
  le_value : ∀ {k g : ℤ}, -1074 ≤ k → |v| < 2 ^ (k + 53) → g * 2 ^ k ≤ v → g * 2 ^ k ≤ x.value
  value_le : ∀ {k g : ℤ}, -1074 ≤ k → |v| < 2 ^ (k + 53) → v ≤ g * 2 ^ k → x.value ≤ g * 2 ^ k

theorem rounds_zero {x : Double} (hfinite : x.isFinite = true) (hvalue : x.value = 0) :
    Rounds 0 x :=
  ⟨hfinite, fun _ _ h => h.trans_eq hvalue.symm, fun _ _ h => hvalue.trans_le h⟩

theorem Rounds.neg {v : ℚ} {x y : Double} (h : Rounds v x) (hfinite : y.isFinite = true)
    (hvalue : y.value = -x.value) : Rounds (-v) y where
  finite := hfinite
  le_value := fun {k g} hk hsize hle => by
    rw [abs_neg] at hsize
    have hother := h.value_le (g := -g) hk hsize (by push_cast; linarith)
    push_cast at hother
    linarith
  value_le := fun {k g} hk hsize hle => by
    rw [abs_neg] at hsize
    have hother := h.le_value (g := -g) hk hsize (by push_cast; linarith)
    push_cast at hother
    linarith

/-- A multiple of a power of two is one of every finer one. -/
theorem exists_mul_two_zpow {e k : ℤ} (h : e ≤ k) (g : ℤ) :
    ∃ f : ℤ, (g : ℚ) * 2 ^ k = f * 2 ^ e := by
  obtain ⟨n, hn⟩ := Int.le.dest h
  refine ⟨g * 2 ^ n, ?_⟩
  rw [← hn, add_comm, two_zpow_add, zpow_natCast]
  push_cast
  ring

theorem rounds_nearestMagnitude {num den : ℕ} (hnum : num ≠ 0) (hden : den ≠ 0)
    (hsize : (num : ℚ) / den < 2 ^ (1000 : ℤ)) :
    Rounds (num / den) (ofMagnitude false (nearestMagnitude num den)) ∧
      Rounds (-(num / den)) (ofMagnitude true (nearestMagnitude num den)) := by
  obtain ⟨q, E, hmagnitude, hE, hhigh, hlow, hexponent, hside⟩ :=
    exists_nearestMagnitude hnum hden hsize
  obtain ⟨hfinite, hvalue⟩ := value_ofMagnitude false hE hhigh hlow
  obtain ⟨hfinite', hvalue'⟩ := value_ofMagnitude true hE hhigh hlow
  rw [hexponent] at hvalue hvalue'
  have hnonneg : (0 : ℚ) ≤ num / den := by positivity
  rw [hmagnitude]
  have hpositive : Rounds (num / den) (ofMagnitude false (q + E * hiddenBit)) := by
    refine ⟨hfinite, fun {k g} hk hroom h => ?_, fun {k g} hk hroom h => ?_⟩ <;>
      rw [abs_of_nonneg hnonneg] at hroom <;>
      obtain ⟨f, hf⟩ := exists_mul_two_zpow (nearestExponent_le hnum hden hk hroom) g <;>
      rw [hf] at h ⊢ <;> rw [hvalue]
    · have hle : (f : ℚ) ≤ q := by exact_mod_cast (hside f).1 h
      exact mul_le_mul_of_nonneg_right hle (two_zpow_pos _).le
    · have hle : (q : ℚ) ≤ f := by exact_mod_cast (hside f).2 h
      exact mul_le_mul_of_nonneg_right hle (two_zpow_pos _).le
  refine ⟨hpositive, hpositive.neg hfinite' ?_⟩
  rw [hvalue, hvalue']
  exact neg_mul _ _

/-- **Rounding.** A fraction that is not too large is rounded to a number. -/
theorem rounds_ofFraction (negative : Bool) (num : ℕ) {den : ℕ} (hden : den ≠ 0)
    (hsize : (num : ℚ) / den < 2 ^ (1000 : ℤ)) :
    Rounds (if negative then -((num : ℚ) / den) else num / den) (ofFraction negative num den) := by
  unfold ofFraction
  by_cases hnum : num = 0
  · obtain ⟨hfinite, hvalue⟩ := value_ofMagnitude (q := 0) (E := 0) negative (by decide) (by decide)
      (.inr rfl)
    rw [hnum, Nat.cast_zero, zero_div, neg_zero, ite_self]
    refine rounds_zero hfinite (hvalue.trans ?_)
    rw [Nat.cast_zero, neg_zero, ite_self, zero_mul]
  · obtain ⟨hpositive, hnegative⟩ := rounds_nearestMagnitude hnum hden hsize
    cases negative with
    | false => exact hpositive
    | true => exact hnegative

/-! ## Arithmetic -/

theorem rounds_ofScaledBinary {n e : ℤ} (hsize : |(n : ℚ) * 2 ^ e| < 2 ^ (1000 : ℤ)) :
    Rounds (n * 2 ^ e) (ofScaledBinary n e) := by
  have hpos := scaleBinary_pos n.natAbs Nat.one_pos e
  have hscaled := scaleBinary_div n.natAbs Nat.one_pos e
  rw [Nat.cast_one, div_one, Nat.cast_natAbs, Int.cast_abs] at hscaled
  rw [abs_mul, abs_of_pos (two_zpow_pos e), ← hscaled] at hsize
  have hrounds := rounds_ofFraction (decide (n < 0)) _ hpos.ne' hsize
  unfold ofScaledBinary
  convert hrounds using 1
  rw [hscaled]
  by_cases hnegative : n < 0
  · rw [if_pos (decide_eq_true hnegative), abs_of_neg (Int.cast_lt_zero.mpr hnegative)]
    ring
  · rw [if_neg (by simpa using hnegative), abs_of_nonneg (Int.cast_nonneg (not_lt.mp hnegative))]

theorem rounds_ofInt {n : ℤ} (hsize : |(n : ℚ)| < 2 ^ (1000 : ℤ)) : Rounds n (ofInt n) := by
  have hscaled : ofInt n = ofScaledBinary n 0 := rfl
  rw [hscaled]
  have hvalue : (n : ℚ) * 2 ^ (0 : ℤ) = n := by rw [zpow_zero, mul_one]
  rw [← hvalue] at hsize ⊢
  exact rounds_ofScaledBinary hsize

/-- A finite number as it is computed with. -/
theorem exists_scaled_of_isFinite {x : Double} (h : x.isFinite = true) :
    ∃ n e : ℤ, x.scaled? = some (n, e) ∧ x.value = n * 2 ^ e := by
  unfold isFinite at h
  unfold scaled? value View.value
  cases hview : x.view with
  | nan => rw [hview] at h; cases h
  | infinite negative => rw [hview] at h; cases h
  | finite negative mantissa exponent =>
    refine ⟨_, _, rfl, ?_⟩
    cases negative with
    | false => exact congrArg (· * (2 : ℚ) ^ exponent) (Int.cast_natCast mantissa).symm
    | true =>
      show -(mantissa : ℚ) * 2 ^ exponent = ((-(mantissa : ℤ) : ℤ) : ℚ) * 2 ^ exponent
      push_cast
      rfl

/-- A number at a smaller exponent. -/
theorem shiftLeft_mul_two_zpow {e low : ℤ} (h : low ≤ e) (n : ℤ) :
    ((n <<< (e - low).toNat : ℤ) : ℚ) * 2 ^ low = n * 2 ^ e := by
  have hsplit : e = low + ((e - low).toNat : ℤ) := by omega
  conv_rhs => rw [hsplit, two_zpow_add, zpow_natCast]
  rw [Int.shiftLeft_eq]
  push_cast
  ring

theorem rounds_add {x y : Double} (hx : x.isFinite = true) (hy : y.isFinite = true)
    (hsize : |x.value + y.value| < 2 ^ (1000 : ℤ)) : Rounds (x.value + y.value) (x.add y) := by
  obtain ⟨m, e, hm, hvalue⟩ := exists_scaled_of_isFinite hx
  obtain ⟨n, f, hn, hvalue'⟩ := exists_scaled_of_isFinite hy
  have hsum : ((m <<< (e - min e f).toNat + n <<< (f - min e f).toNat : ℤ) : ℚ) * 2 ^ min e f =
      x.value + y.value := by
    rw [Int.cast_add, add_mul, shiftLeft_mul_two_zpow (min_le_left e f),
      shiftLeft_mul_two_zpow (min_le_right e f), hvalue, hvalue']
  unfold add
  rw [hm, hn]
  rw [← hsum] at hsize ⊢
  exact rounds_ofScaledBinary hsize

theorem rounds_sub {x y : Double} (hx : x.isFinite = true) (hy : y.isFinite = true)
    (hsize : |x.value - y.value| < 2 ^ (1000 : ℤ)) : Rounds (x.value - y.value) (x.sub y) := by
  obtain ⟨m, e, hm, hvalue⟩ := exists_scaled_of_isFinite hx
  obtain ⟨n, f, hn, hvalue'⟩ := exists_scaled_of_isFinite hy
  have hdifference :
      ((m <<< (e - min e f).toNat - n <<< (f - min e f).toNat : ℤ) : ℚ) * 2 ^ min e f =
        x.value - y.value := by
    rw [Int.cast_sub, sub_mul, shiftLeft_mul_two_zpow (min_le_left e f),
      shiftLeft_mul_two_zpow (min_le_right e f), hvalue, hvalue']
  unfold sub
  rw [hm, hn]
  rw [← hdifference] at hsize ⊢
  exact rounds_ofScaledBinary hsize

theorem rounds_times {k : ℤ} {x : Double} (hx : x.isFinite = true)
    (hsize : |(k : ℚ) * x.value| < 2 ^ (1000 : ℤ)) : Rounds (k * x.value) (x.times k) := by
  obtain ⟨n, e, hn, hvalue⟩ := exists_scaled_of_isFinite hx
  have hmultiple : ((k * n : ℤ) : ℚ) * 2 ^ e = k * x.value := by
    rw [hvalue, Int.cast_mul, mul_assoc]
  unfold times
  rw [hn]
  rw [← hmultiple] at hsize ⊢
  exact rounds_ofScaledBinary hsize

/-! ## Whole numbers -/

/-- A whole number that has room in a mantissa stays as it is. -/
theorem value_ofInt {n : ℤ} (h : |(n : ℚ)| < 2 ^ (53 : ℤ)) :
    (ofInt n).isFinite = true ∧ (ofInt n).value = n := by
  have hrounds := rounds_ofInt (h.trans (two_zpow_lt_iff.mpr (by decide)))
  have hself : (n : ℚ) * 2 ^ (0 : ℤ) = n := by rw [zpow_zero, mul_one]
  have hle := hrounds.le_value (k := 0) (g := n) (by decide) h hself.le
  have hge := hrounds.value_le (k := 0) (g := n) (by decide) h hself.ge
  rw [hself] at hle hge
  exact ⟨hrounds.finite, le_antisymm hge hle⟩

/-- A cut number is less than one off. -/
theorem abs_value_sub_truncate_lt {x : Double} (h : x.isFinite = true) :
    |x.value - x.truncate| < 1 := by
  unfold isFinite at h
  unfold truncate value View.value
  cases hview : x.view with
  | nan => rw [hview] at h; cases h
  | infinite negative => rw [hview] at h; cases h
  | finite negative mantissa exponent =>
    have hscaled := scaleBinary_div mantissa Nat.one_pos exponent
    rw [Nat.cast_one, div_one] at hscaled
    dsimp only
    generalize scaleBinary mantissa 1 exponent = scaled at hscaled
    have hlow : ((scaled.1 / scaled.2 : ℕ) : ℚ) ≤ scaled.1 / scaled.2 := Nat.cast_div_le
    have hhigh : (scaled.1 : ℚ) / scaled.2 < ((scaled.1 / scaled.2 : ℕ) : ℚ) + 1 := by
      rw [← Nat.floor_div_eq_div (K := ℚ)]
      exact Nat.lt_floor_add_one _
    rw [hscaled] at hlow hhigh
    rw [abs_lt]
    cases negative with
    | false =>
      simp only [Bool.false_eq_true, if_false, Int.cast_natCast]
      constructor <;> linarith
    | true =>
      simp only [if_true, Int.cast_neg, Int.cast_natCast, neg_mul]
      constructor <;> linarith

/-- A rounded number is on the same side of every whole one. -/
theorem same_side_round {x : Double} (h : x.isFinite = true) {g : ℤ} :
    ((g : ℚ) ≤ x.value → g ≤ x.round) ∧ (x.value ≤ g → x.round ≤ g) := by
  unfold isFinite at h
  unfold round value View.value
  cases hview : x.view with
  | nan => rw [hview] at h; cases h
  | infinite negative => rw [hview] at h; cases h
  | finite negative mantissa exponent =>
    have hpos := scaleBinary_pos mantissa Nat.one_pos exponent
    have hscaled := scaleBinary_div mantissa Nat.one_pos exponent
    rw [Nat.cast_one, div_one] at hscaled
    dsimp only
    cases negative with
    | false =>
      simp only [Bool.false_eq_true, if_false, ← hscaled]
      exact ⟨le_roundQuotient hpos, roundQuotient_le hpos⟩
    | true =>
      simp only [if_true, neg_mul, ← hscaled]
      constructor
      · intro hle
        rw [le_neg, ← Int.cast_neg] at hle
        have hother := roundQuotient_le hpos hle
        omega
      · intro hle
        rw [neg_le, ← Int.cast_neg] at hle
        have hother := le_roundQuotient hpos hle
        omega

end SqlCompiler.Double
