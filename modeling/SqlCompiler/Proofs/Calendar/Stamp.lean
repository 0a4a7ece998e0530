import SqlCompiler.Proofs.Calendar.Days
import SqlCompiler.Proofs.Text.Digits

/-!
# Stamps

Stamps are compared as texts. In the years 1000 to 9999 their parts have fixed widths, so the order
of the texts is that of the seconds (`stamp_lt_iff`). Earlier years have fewer digits, and their
stamps are not in order.
-/

namespace SqlCompiler

/-! ## Texts of fixed width -/

namespace Text

theorem append_lt_append_iff {a b x y : List Char} (h : a.length = b.length) :
    a ++ x < b ++ y ↔ a < b ∨ a = b ∧ x < y := by
  induction a generalizing b with
  | nil =>
    obtain rfl : b = [] := List.length_eq_zero_iff.mp h.symm
    simp
  | cons c a ih =>
    cases b with
    | nil => cases h
    | cons d b =>
      rw [List.cons_append, List.cons_append, List.cons_lt_cons_iff, List.cons_lt_cons_iff,
        ih (Nat.succ.inj h), List.cons.injEq]
      constructor
      · rintro (hlt | ⟨heq, hlt | ⟨hrest, hlt⟩⟩)
        · exact .inl (.inl hlt)
        · exact .inl (.inr ⟨heq, hlt⟩)
        · exact .inr ⟨⟨heq, hrest⟩, hlt⟩
      · rintro ((hlt | ⟨heq, hlt⟩) | ⟨⟨heq, hrest⟩, hlt⟩)
        · exact .inl hlt
        · exact .inr ⟨heq, .inl hlt⟩
        · exact .inr ⟨heq, .inr ⟨hrest, hlt⟩⟩

theorem cons_lt_cons_same {c : Char} {x y : List Char} : c :: x < c :: y ↔ x < y := by
  rw [List.cons_lt_cons_iff]
  exact ⟨fun h => h.elim (fun hlt => absurd hlt (Nat.lt_irrefl _)) fun h => h.2,
    fun h => .inr ⟨rfl, h⟩⟩

theorem toList_padded_inj {width m n : Nat} :
    (padded width m).toList = (padded width n).toList ↔ m = n := by
  constructor
  · intro h
    rw [← ofDigitChars_padded width m, h, ofDigitChars_padded]
  · rintro rfl
    rfl

/-- Numbers of one width decide first. -/
theorem padded_append_lt_iff {width m n : Nat} (hwidth : 0 < width) (hm : m < 10 ^ width)
    (hn : n < 10 ^ width) {x y : List Char} :
    (padded width m).toList ++ x < (padded width n).toList ++ y ↔ m < n ∨ m = n ∧ x < y := by
  rw [append_lt_append_iff ((length_padded hwidth hm).trans (length_padded hwidth hn).symm),
    toList_padded_lt_iff hwidth hm hn, toList_padded_inj]

/-- A number that fills the width needs no zeros. -/
theorem padded_of_le {width n : Nat} (hwidth : 0 < width) (hn : 10 ^ width ≤ n) :
    padded 1 n = padded (width + 1) n := by
  have hlength : ¬ (Nat.toDigits 10 n).length ≤ width := by
    rw [Nat.length_toDigits_le_iff (by decide) hwidth]
    omega
  have hone : 1 - (Nat.toDigits 10 n).length = 0 := by omega
  have hfull : width + 1 - (Nat.toDigits 10 n).length = 0 := by omega
  rw [← String.toList_inj, toList_padded, toList_padded, hone, hfull]

end Text

theorem Date.month_lt_and_day_lt {d : Date} (h : d.isPossible = true) : d.month < 100 ∧ d.day < 100 := by
  obtain ⟨⟨_, hmonth⟩, _, hday⟩ := Date.isPossible_iff.mp h
  have hlong : daysInMonth d.year d.month ≤ 31 := by
    unfold daysInMonth
    repeat' split
    all_goals decide
  omega

namespace Instant

open Text

/-- The characters of a stamp, its year written with four digits. -/
theorem toList_stampText {t : DateTime} (hyear : 1000 ≤ t.date.year)
    (htime : t.time.microsecond = 0 ∧ t.time.offset = none) :
    (stampText t).toList = (padded 4 t.date.year).toList ++ '-' ::
      ((padded 2 t.date.month).toList ++ '-' :: ((padded 2 t.date.day).toList ++ 'T' ::
        ((padded 2 t.time.hour).toList ++ ':' :: ((padded 2 t.time.minute).toList ++ ':' ::
          (padded 2 t.time.second).toList)))) := by
  have hwide : padded 1 t.date.year = padded 4 t.date.year := padded_of_le (by decide) hyear
  have hfraction : fractionText t.time.microsecond = "" := by
    rw [htime.1]
    rfl
  unfold stampText TimeOfDay.text TimeOfDay.localText
  rw [hwide, hfraction, htime.2]
  simp [String.toList_append]

/-- Whether a time of day comes before another one, by the hour, the minute and the second. -/
def ClockBefore (t t' : TimeOfDay) : Prop :=
  t.hour < t'.hour ∨ t.hour = t'.hour ∧ (t.minute < t'.minute ∨ t.minute = t'.minute ∧
    t.second < t'.second)

/-- Whether the year of an instant has four digits. -/
def HasFourDigitYear (t : Instant) : Prop :=
  -30610224000 ≤ t.second ∧ t.second ≤ 253402300799

theorem isInCalendar_of_hasFourDigitYear {t : Instant} (h : t.HasFourDigitYear) :
    t.isInCalendar = true := by
  unfold HasFourDigitYear at h
  unfold isInCalendar
  rw [Bool.and_eq_true, decide_eq_true_eq, decide_eq_true_eq]
  omega

/-- What the date and time of such an instant are like. -/
structure InFourDigitYear (t : DateTime) : Prop where
  yearLow : 1000 ≤ t.date.year
  yearHigh : t.date.year < 10000
  date : t.date.isPossible = true
  hour : t.time.hour < 24
  minute : t.time.minute < 60
  second : t.time.second < 60
  whole : t.time.microsecond = 0 ∧ t.time.offset = none

theorem inFourDigitYear {t : Instant} (h : t.HasFourDigitYear) :
    InFourDigitYear (dateTimeOfSecond t.second) := by
  unfold HasFourDigitYear at h
  obtain ⟨hlow, hhigh⟩ := Date.year_ofDays (n := t.second / 86400) (by omega) (by omega)
  have hdate := (Date.days_ofDays (n := t.second / 86400) (by omega)).1
  unfold dateTimeOfSecond
  exact ⟨hlow, by dsimp only; omega, hdate, by dsimp only; omega, by dsimp only; omega,
    by dsimp only; omega, rfl, rfl⟩

theorem stampText_lt_iff {t t' : DateTime} (h : InFourDigitYear t) (h' : InFourDigitYear t') :
    stampText t < stampText t' ↔
      t.date.Before t'.date ∨ t.date = t'.date ∧ ClockBefore t.time t'.time := by
  obtain ⟨hmonth, hday⟩ := Date.month_lt_and_day_lt h.date
  obtain ⟨hmonth', hday'⟩ := Date.month_lt_and_day_lt h'.date
  have hhour := h.hour
  have hhour' := h'.hour
  have hminute := h.minute
  have hminute' := h'.minute
  have hsecond := h.second
  have hsecond' := h'.second
  rw [String.lt_iff, toList_stampText h.yearLow h.whole, toList_stampText h'.yearLow h'.whole,
    padded_append_lt_iff (by decide) h.yearHigh h'.yearHigh, cons_lt_cons_same,
    padded_append_lt_iff (by decide) hmonth hmonth', cons_lt_cons_same,
    padded_append_lt_iff (by decide) hday hday', cons_lt_cons_same,
    padded_append_lt_iff (by decide) (by omega) (by omega), cons_lt_cons_same,
    padded_append_lt_iff (by decide) (by omega) (by omega), cons_lt_cons_same,
    toList_padded_lt_iff (by decide) (by omega) (by omega)]
  have hdate : t.date = t'.date ↔ t.date.year = t'.date.year ∧ t.date.month = t'.date.month ∧
      t.date.day = t'.date.day := by
    rw [← Date.mk.injEq]
  unfold Date.Before ClockBefore
  rw [hdate]
  omega

/-- **Order of stamps.** -/
theorem stamp_lt_iff {t t' : Instant} (h : t.HasFourDigitYear) (h' : t'.HasFourDigitYear) :
    t.stamp < t'.stamp ↔ t.second < t'.second := by
  unfold stamp
  rw [stampText_lt_iff (inFourDigitYear h) (inFourDigitYear h')]
  unfold HasFourDigitYear at h h'
  unfold dateTimeOfSecond ClockBefore
  dsimp only
  rw [Date.before_ofDays_iff (by omega) (by omega), Date.ofDays_inj (by omega) (by omega)]
  omega

/-- In the year 999 the stamp is later as a text than in the year after it. -/
example : (⟨-30610224000000000000⟩ : Instant).stamp < (⟨-30610224001000000000⟩ : Instant).stamp := by
  decide +kernel

end Instant

end SqlCompiler
