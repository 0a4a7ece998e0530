import SqlCompiler.Calendar.Reading
import SqlCompiler.Proofs.Calendar.Stamp
import SqlCompiler.Proofs.Number.Rounding

/-!
# Seconds as they are read

In the years of the calendar a number of seconds leaves room for steps of a `2 ^ 15`th of a second.
Rounding passes no such step, so a time is read as one of its own second or as the start of the next
one, and the next one is reached only from behind the last step (`second_asRead`).
-/

namespace SqlCompiler

namespace Double

/-! ## Steps -/

variable {v : ℚ} {x : Double} {n : ℤ}

theorem Rounds.intCast_le_value (h : Rounds v x) (hsize : |v| < 2 ^ (38 : ℤ)) (hle : n ≤ v) :
    n ≤ x.value := by
  have hstep : ((n * 2 ^ 15 : ℤ) : ℚ) * 2 ^ (-15 : ℤ) = n := by
    push_cast
    norm_num
    ring
  rw [← hstep] at hle ⊢
  exact h.le_value (by decide) hsize hle

theorem Rounds.value_le_intCast (h : Rounds v x) (hsize : |v| < 2 ^ (38 : ℤ)) (hle : v ≤ n) :
    x.value ≤ n := by
  have hstep : ((n * 2 ^ 15 : ℤ) : ℚ) * 2 ^ (-15 : ℤ) = n := by
    push_cast
    norm_num
    ring
  rw [← hstep] at hle ⊢
  exact h.value_le (by decide) hsize hle

/-- A step before a whole number is not passed either. -/
theorem Rounds.value_le_step (h : Rounds v x) (hsize : |v| < 2 ^ (38 : ℤ))
    (hle : v ≤ n - 1 / 2 ^ 15) : x.value ≤ n - 1 / 2 ^ 15 := by
  have hstep : ((n * 2 ^ 15 - 1 : ℤ) : ℚ) * 2 ^ (-15 : ℤ) = n - 1 / 2 ^ 15 := by
    push_cast
    norm_num
    ring
  rw [← hstep] at hle ⊢
  exact h.value_le (by decide) hsize hle

end Double

namespace Instant

open Double

variable {t : Instant} {x : Double} {n : ℤ}

/-! ## The number of seconds -/

theorem nanosecond_lt (t : Instant) : t.nanosecond < 1000000000 := by
  unfold nanosecond
  omega

/-- Whether an instant is not in the last `2 ^ 15`th of its second. -/
def IsEarly (t : Instant) : Prop :=
  t.nanosecond ≤ 999969482

theorem isEarly_ofMilliseconds (n : ℤ) : (ofMilliseconds n).IsEarly := by
  unfold IsEarly nanosecond ofMilliseconds
  dsimp only
  omega

theorem view_nano : nano.view = .finite false 4835703278458517 (-82) := by
  decide +kernel

/-- What is left over of a second is a number from none to one. -/
theorem nanosecond_times_nano (t : Instant) : (nano.times t.nanosecond).isFinite = true ∧
    0 ≤ (nano.times t.nanosecond).value ∧ (nano.times t.nanosecond).value ≤ 1 ∧
      (t.IsEarly → (nano.times t.nanosecond).value ≤ 1 - 1 / 2 ^ 15) := by
  have hnano : nano.value = 4835703278458517 / 2 ^ 82 := by
    rw [value_of_view view_nano, if_neg Bool.false_ne_true]
    norm_num
  have hvalue : ((t.nanosecond : ℤ) : ℚ) * nano.value =
      t.nanosecond * (4835703278458517 / 2 ^ 82) := by
    rw [hnano, Int.cast_natCast]
  have hnonneg : (0 : ℚ) ≤ t.nanosecond := Nat.cast_nonneg _
  have hlast : (t.nanosecond : ℚ) ≤ 999999999 := by
    exact_mod_cast Nat.le_of_lt_succ t.nanosecond_lt
  have hlow : (0 : ℚ) ≤ (t.nanosecond : ℤ) * nano.value := by
    rw [hvalue]
    positivity
  have hhigh : ((t.nanosecond : ℤ) : ℚ) * nano.value ≤ 1 := by
    rw [hvalue]
    linarith
  have hsize : |((t.nanosecond : ℤ) : ℚ) * nano.value| < 2 ^ (38 : ℤ) := by
    rw [abs_of_nonneg hlow]
    exact hhigh.trans_lt (by norm_num)
  have hrounds := rounds_times (isFinite_of_view view_nano)
    (hsize.trans (two_zpow_lt_iff.mpr (by decide)))
  refine ⟨hrounds.finite, ?_, ?_, fun hearly => ?_⟩
  · exact_mod_cast hrounds.intCast_le_value (n := 0) hsize (by exact_mod_cast hlow)
  · exact_mod_cast hrounds.value_le_intCast (n := 1) hsize (by exact_mod_cast hhigh)
  · have hbound : (t.nanosecond : ℚ) ≤ 999969482 := by exact_mod_cast hearly
    have hstep : ((t.nanosecond : ℤ) : ℚ) * nano.value ≤ (1 : ℤ) - 1 / 2 ^ 15 := by
      rw [hvalue]
      push_cast
      linarith
    exact_mod_cast hrounds.value_le_step hsize hstep

/-- Whether the seconds of an instant leave room for the steps. -/
def HasRoom (t : Instant) : Prop :=
  -2 ^ 37 ≤ t.second ∧ t.second < 2 ^ 38 - 1

theorem hasRoom_of_isInCalendar (h : t.isInCalendar = true) : t.HasRoom := by
  unfold isInCalendar at h
  rw [Bool.and_eq_true, decide_eq_true_eq, decide_eq_true_eq] at h
  unfold HasRoom
  omega

/-- The number of seconds is in the second, or at its end. -/
theorem value_toDouble (h : t.HasRoom) : t.toDouble.isFinite = true ∧
    t.second ≤ t.toDouble.value ∧ t.toDouble.value ≤ t.second + 1 ∧
      (t.IsEarly → t.toDouble.value ≤ t.second + 1 - 1 / 2 ^ 15) := by
  obtain ⟨hfinite, hlow, hhigh, hearly⟩ := t.nanosecond_times_nano
  have hfirst : (-137438953472 : ℚ) ≤ t.second := by exact_mod_cast h.1
  have hlast : (t.second : ℚ) < 274877906943 := by exact_mod_cast h.2
  have hroom : |(t.second : ℚ)| < 2 ^ (53 : ℤ) := by
    rw [abs_lt]
    norm_num
    constructor <;> linarith
  obtain ⟨hwholeFinite, hwhole⟩ := value_ofInt hroom
  have hsize : |(ofInt t.second).value + (nano.times t.nanosecond).value| < 2 ^ (38 : ℤ) := by
    rw [hwhole, abs_lt]
    norm_num
    constructor <;> linarith
  have hrounds := rounds_add hwholeFinite hfinite (hsize.trans (two_zpow_lt_iff.mpr (by decide)))
  rw [hwhole] at hrounds hsize
  refine ⟨hrounds.finite, hrounds.intCast_le_value hsize (by linarith), ?_, fun he => ?_⟩
  · have hle := hrounds.value_le_intCast (n := t.second + 1) hsize (by push_cast; linarith)
    rwa [Int.cast_add, Int.cast_one] at hle
  · have hle := hrounds.value_le_step (n := t.second + 1) hsize
      (by push_cast; linarith [hearly he])
    rwa [Int.cast_add, Int.cast_one] at hle

/-! ## The instant of a number of seconds -/

/-- A number of seconds is read as an instant on the same side of every whole second, and of a step
before it. -/
theorem nanoseconds_ofDouble (hfinite : x.isFinite = true) (hsize : |x.value| ≤ 2 ^ (38 : ℤ)) :
    (n ≤ x.value → n * 1000000000 ≤ (ofDouble x).nanoseconds) ∧
      (x.value ≤ n → (ofDouble x).nanoseconds ≤ n * 1000000000) ∧
      (x.value ≤ n - 1 / 2 ^ 15 → (ofDouble x).nanoseconds < n * 1000000000) := by
  have hcut := abs_lt.mp (abs_value_sub_truncate_lt hfinite)
  have hlimits := abs_le.mp hsize
  have hroom : |(x.truncate : ℚ)| < 2 ^ (53 : ℤ) := by
    rw [abs_lt]
    norm_num at hlimits ⊢
    constructor <;> linarith
  obtain ⟨hwholeFinite, hwhole⟩ := value_ofInt hroom
  -- What is left over of a whole second, from minus one to one.
  have hrest : |x.value - (ofInt x.truncate).value| < 2 ^ (38 : ℤ) := by
    rw [hwhole, abs_lt]
    norm_num
    constructor <;> linarith
  have hsub := rounds_sub hfinite hwholeFinite (hrest.trans (two_zpow_lt_iff.mpr (by decide)))
  rw [hwhole] at hsub hrest
  have hrestLow := hsub.intCast_le_value (n := -1) hrest (by push_cast; linarith)
  have hrestHigh := hsub.value_le_intCast (n := 1) hrest (by push_cast; linarith)
  push_cast at hrestLow hrestHigh
  -- The same in microseconds.
  have hmicro : |((1000000 : ℤ) : ℚ) * (x.sub (ofInt x.truncate)).value| < 2 ^ (38 : ℤ) := by
    rw [abs_lt]
    norm_num
    constructor <;> linarith
  have htimes := rounds_times hsub.finite (hmicro.trans (two_zpow_lt_iff.mpr (by decide)))
  have hround := fun g : ℤ => same_side_round htimes.finite (g := g)
  have hnanoseconds : (ofDouble x).nanoseconds = x.truncate * 1000000000 +
      ((x.sub (ofInt x.truncate)).times 1000000).round * 1000 := rfl
  rw [hnanoseconds]
  refine ⟨fun hle => ?_, fun hle => ?_, fun hle => ?_⟩
  · have hleft := hsub.intCast_le_value (n := n - x.truncate) hrest (by push_cast; linarith)
    have hproduct := htimes.intCast_le_value (n := (n - x.truncate) * 1000000) hmicro
      (by push_cast at hleft ⊢; linarith)
    have hrounded := (hround _).1 hproduct
    omega
  · have hleft := hsub.value_le_intCast (n := n - x.truncate) hrest (by push_cast; linarith)
    have hproduct := htimes.value_le_intCast (n := (n - x.truncate) * 1000000) hmicro
      (by push_cast at hleft ⊢; linarith)
    have hrounded := (hround _).2 hproduct
    omega
  · have hleft := hsub.value_le_step (n := n - x.truncate) hrest (by push_cast; linarith)
    have hproduct := htimes.value_le_intCast (n := (n - x.truncate) * 1000000 - 30) hmicro
      (by push_cast at hleft ⊢; linarith)
    have hrounded := (hround _).2 hproduct
    omega

/-- **Seconds as they are read.** A time is read as one of its own second or as the start of the
next one, and as one of its own second unless it is late in it. -/
theorem second_asRead (h : t.isInCalendar = true) :
    (t.asRead.second = t.second ∨ t.asRead.second = t.second + 1) ∧
      (t.IsEarly → t.asRead.second = t.second) := by
  have hroom := hasRoom_of_isInCalendar h
  obtain ⟨hfinite, hlow, hhigh, hearly⟩ := value_toDouble hroom
  have hfirst : (-137438953472 : ℚ) ≤ t.second := by exact_mod_cast hroom.1
  have hlast : (t.second : ℚ) + 1 ≤ 274877906943 := by exact_mod_cast hroom.2
  have hsize : |t.toDouble.value| ≤ 2 ^ (38 : ℤ) := by
    rw [abs_le]
    norm_num
    constructor <;> linarith
  have hstart := (nanoseconds_ofDouble (n := t.second) hfinite hsize).1 hlow
  have hend := nanoseconds_ofDouble (n := t.second + 1) hfinite hsize
  push_cast at hend
  have hlate := hend.2.1 hhigh
  have hsecond : t.asRead.second = (ofDouble t.toDouble).nanoseconds / 1000000000 := rfl
  rw [hsecond]
  refine ⟨by omega, fun he => ?_⟩
  have hbefore := hend.2.2 (hearly he)
  omega

theorem second_asRead_of_isEarly (h : t.HasFourDigitYear) (hearly : t.IsEarly) :
    t.asRead.second = t.second :=
  (second_asRead (isInCalendar_of_hasFourDigitYear h)).2 hearly

theorem hasFourDigitYear_asRead (h : t.HasFourDigitYear) (hearly : t.IsEarly) :
    t.asRead.HasFourDigitYear := by
  unfold HasFourDigitYear
  rw [second_asRead_of_isEarly h hearly]
  exact h

end Instant

end SqlCompiler
