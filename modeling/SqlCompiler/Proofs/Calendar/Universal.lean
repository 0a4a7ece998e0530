import SqlCompiler.Calendar.Universal
import SqlCompiler.Proofs.Calendar.Stamp

/-!
# Stamps of local times in order

For whatever offsets, the stamps of two dates and times compare as texts as the seconds that they
lie in compare in time, as long as the universal years have four digits (`compare_stampAt`).
-/

namespace SqlCompiler

namespace Date

/-- The days of the years 1000 to 9999 are those whose dates have such a year. -/
theorem year_ofDays_iff {n : Int} :
    (1000 ≤ (ofDays n).year ∧ (ofDays n).year ≤ 9999) ↔ -354285 ≤ n ∧ n ≤ 2932896 := by
  constructor
  · rintro ⟨hlow, hhigh⟩
    have hstart : (Date.mk 1000 1 1).days = 365184 := rfl
    have hend : (Date.mk 9999 12 31).days = 3652365 := rfl
    have hcalendar : -719162 ≤ n := by
      refine Int.not_lt.mp fun hearly => ?_
      have hday : ((n + 719468) % 146097).toNat < 146097 := by omega
      obtain ⟨hyoe, _⟩ := yearOfEra_spec hday
      unfold yearOfEra at hyoe
      unfold ofDays at hlow
      dsimp only at hlow
      split at hlow <;> omega
    obtain ⟨hpossible, hyear, hdays⟩ := days_ofDays hcalendar
    obtain ⟨⟨hfirst, hlast⟩, hday, hmonth⟩ := isPossible_iff.mp hpossible
    have hnotBefore : ¬ (ofDays n).days < (Date.mk 1000 1 1).days := by
      rw [days_lt_iff hpossible (by decide) hyear (by decide)]
      unfold Before
      dsimp only
      omega
    have hnotAfter : ¬ (Date.mk 9999 12 31).days < (ofDays n).days := by
      have hlong : daysInMonth (ofDays n).year (ofDays n).month ≤ 31 := by
        unfold daysInMonth
        repeat' split
        all_goals decide
      rw [days_lt_iff (by decide) hpossible (by decide) hyear]
      unfold Before
      dsimp only
      omega
    omega
  · rintro ⟨hfirst, hlast⟩
    exact year_ofDays hfirst hlast

end Date

namespace Instant

theorem hasFourDigitYear_iff {t : Instant} : t.HasFourDigitYear ↔
    1000 ≤ (dateTimeOfSecond t.second).date.year ∧
      (dateTimeOfSecond t.second).date.year ≤ 9999 := by
  unfold dateTimeOfSecond HasFourDigitYear
  dsimp only
  rw [Date.year_ofDays_iff]
  omega

/-- Instants have one stamp exactly if they lie in one second. -/
theorem stamp_inj {t t' : Instant} (h : t.HasFourDigitYear) (h' : t'.HasFourDigitYear) :
    t.stamp = t'.stamp ↔ t.second = t'.second := by
  constructor
  · intro heq
    have hlt := stamp_lt_iff h h'
    have hgt := stamp_lt_iff h' h
    rw [heq] at hlt hgt
    have hnotLess : ¬ t.second < t'.second := fun h => String.lt_irrefl _ (hlt.mpr h)
    have hnotGreater : ¬ t'.second < t.second := fun h => String.lt_irrefl _ (hgt.mpr h)
    omega
  · intro heq
    unfold stamp
    rw [heq]

theorem compare_stamp {t t' : Instant} (h : t.HasFourDigitYear) (h' : t'.HasFourDigitYear) :
    compare t.stamp t'.stamp = compare t.second t'.second := by
  have htexts (a b : String) : compare a b = compareOfLessAndEq a b := rfl
  have hseconds (m n : Int) : compare m n = compareOfLessAndEq m n := rfl
  rw [htexts, hseconds]
  unfold compareOfLessAndEq
  simp only [stamp_lt_iff h h', stamp_inj h h']

end Instant

namespace DateTime

@[simp] theorem second_instantAt (t : DateTime) (offset : Int) :
    (t.instantAt offset).second = t.secondAt offset := by
  unfold Instant.second instantAt secondAt
  dsimp only
  omega

theorem hasFourDigitYear_instantAt {t : DateTime} {offset : Int} :
    (t.instantAt offset).HasFourDigitYear ↔ 1000 ≤ t.yearAt offset ∧ t.yearAt offset ≤ 9999 := by
  rw [Instant.hasFourDigitYear_iff, second_instantAt]
  rfl

/-- The stamps of two times are in the order of the seconds that the times lie in. -/
theorem compare_stampAt {t u : DateTime} {m n : Int} (ht : 1000 ≤ t.yearAt m ∧ t.yearAt m ≤ 9999)
    (hu : 1000 ≤ u.yearAt n ∧ u.yearAt n ≤ 9999) :
    compare (t.instantAt m).stamp (u.instantAt n).stamp =
      compare (t.secondAt m) (u.secondAt n) := by
  rw [Instant.compare_stamp (hasFourDigitYear_instantAt.mpr ht) (hasFourDigitYear_instantAt.mpr hu),
    second_instantAt, second_instantAt]

end DateTime

end SqlCompiler
