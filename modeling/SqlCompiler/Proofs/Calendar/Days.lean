import SqlCompiler.Calendar.Epoch
import SqlCompiler.Calendar.Moment
import SqlCompiler.Calendar.Written

/-!
# Days of the calendar

The date of a day is one that there is, and counts as that day again (`days_ofDays`). Of two dates
that there are, the one with the smaller year, month or day is the earlier one (`days_lt_iff`). Both
count in years that begin in March, so that a leap day is the last of its year.
-/

namespace SqlCompiler.Date

/-! ## Years that begin in March -/

/-- The year that begins in March, and that a date lies in. -/
def marchYear (d : Date) : Nat :=
  if d.month < 3 then d.year - 1 else d.year

/-- The months since March. -/
def marchMonth (d : Date) : Nat :=
  if d.month < 3 then d.month + 9 else d.month - 3

/-- The days before a year that begins in March. -/
def daysBeforeYear (year : Nat) : Nat :=
  365 * year + year / 4 - year / 100 + year / 400

/-- The days of a year before a month, which is counted from March on. -/
def daysBeforeMonth (month : Nat) : Nat :=
  (153 * month + 2) / 5

theorem days_eq (d : Date) :
    d.days = daysBeforeYear d.marchYear + daysBeforeMonth d.marchMonth + d.day := by
  unfold days marchYear marchMonth daysBeforeYear daysBeforeMonth
  by_cases h : d.month < 3
  · simp only [if_pos h]
  · simp only [if_neg h]

/-- Whether there is a leap day at the end of a year that begins in March. -/
def EndsWithLeapDay (year : Nat) : Prop :=
  (year + 1) % 4 = 0 ∧ ((year + 1) % 100 ≠ 0 ∨ (year + 1) % 400 = 0)

theorem daysBeforeYear_succ (year : Nat) :
    daysBeforeYear year + 365 ≤ daysBeforeYear (year + 1) ∧
      (EndsWithLeapDay year → daysBeforeYear (year + 1) = daysBeforeYear year + 366) := by
  unfold EndsWithLeapDay daysBeforeYear
  omega

theorem daysBeforeYear_le {year year' : Nat} (h : year ≤ year') :
    daysBeforeYear year ≤ daysBeforeYear year' := by
  induction h with
  | refl => exact Nat.le_refl _
  | @step year' _ ih =>
    have hsucc := (daysBeforeYear_succ year').1
    rw [Nat.succ_eq_add_one]
    omega

/-! ## Possible dates -/

theorem isPossible_iff {d : Date} : d.isPossible = true ↔
    (1 ≤ d.month ∧ d.month ≤ 12) ∧ 1 ≤ d.day ∧ d.day ≤ daysInMonth d.year d.month := by
  unfold isPossible
  simp only [Bool.and_eq_true, decide_eq_true_eq, and_assoc]

theorem marchMonth_le {d : Date} (h : d.isPossible = true) : d.marchMonth ≤ 11 := by
  obtain ⟨⟨hfirst, hlast⟩, _, _⟩ := isPossible_iff.mp h
  unfold marchMonth
  split <;> omega

/-- The days of a month do not reach into the next one. -/
theorem daysBeforeMonth_add_day_le {d : Date} (h : d.isPossible = true) (hmonth : d.marchMonth < 11) :
    daysBeforeMonth d.marchMonth + d.day ≤ daysBeforeMonth (d.marchMonth + 1) := by
  obtain ⟨⟨hfirst, hlast⟩, _, hday⟩ := isPossible_iff.mp h
  unfold daysInMonth at hday
  unfold marchMonth at hmonth ⊢
  unfold daysBeforeMonth
  have hcases : d.month = 1 ∨ d.month = 3 ∨ d.month = 4 ∨ d.month = 5 ∨ d.month = 6 ∨
      d.month = 7 ∨ d.month = 8 ∨ d.month = 9 ∨ d.month = 10 ∨ d.month = 11 ∨ d.month = 12 := by
    split at hmonth <;> omega
  rcases hcases with hm | hm | hm | hm | hm | hm | hm | hm | hm | hm | hm <;>
    (rw [hm] at hday ⊢; simp at hday ⊢; omega)

/-- The days of the last month do not reach into the next year. -/
theorem daysBeforeYear_add_day_le {d : Date} (h : d.isPossible = true) (hyear : 1 ≤ d.year)
    (hmonth : d.marchMonth = 11) :
    daysBeforeYear d.marchYear + daysBeforeMonth 11 + d.day ≤ daysBeforeYear (d.marchYear + 1) := by
  obtain ⟨⟨hfirst, hlast⟩, _, hday⟩ := isPossible_iff.mp h
  have hm : d.month = 2 := by
    unfold marchMonth at hmonth
    split at hmonth <;> omega
  have hsucc := daysBeforeYear_succ d.marchYear
  have hnext : d.marchYear + 1 = d.year := by
    unfold marchYear
    rw [hm, if_pos (by decide)]
    omega
  unfold EndsWithLeapDay at hsucc
  unfold daysInMonth at hday
  rw [hnext] at hsucc ⊢
  rw [if_pos hm] at hday
  have hbefore : daysBeforeMonth 11 = 337 := rfl
  by_cases hleap : (d.year % 4 = 0 && (d.year % 100 != 0 || d.year % 400 = 0)) = true
  · rw [if_pos hleap] at hday
    simp only [Bool.and_eq_true, Bool.or_eq_true, decide_eq_true_eq, bne_iff_ne] at hleap
    have hlong := hsucc.2 hleap
    omega
  · rw [if_neg hleap] at hday
    omega

/-- The days of a year do not reach into the next one. -/
theorem days_le {d : Date} (h : d.isPossible = true) (hyear : 1 ≤ d.year) :
    d.days ≤ daysBeforeYear (d.marchYear + 1) := by
  have hle := marchMonth_le h
  rw [days_eq]
  by_cases hmonth : d.marchMonth = 11
  · rw [hmonth]
    exact daysBeforeYear_add_day_le h hyear hmonth
  · have hnext := daysBeforeMonth_add_day_le h (by omega)
    have hsucc := (daysBeforeYear_succ d.marchYear).1
    have hlast : daysBeforeMonth (d.marchMonth + 1) ≤ 337 := by
      unfold daysBeforeMonth
      omega
    omega

/-- Whether a date comes before another one, by the year, the month and the day. -/
def Before (d d' : Date) : Prop :=
  d.year < d'.year ∨ d.year = d'.year ∧
    (d.month < d'.month ∨ d.month = d'.month ∧ d.day < d'.day)

theorem days_lt_of_before {d d' : Date} (h : d.isPossible = true) (h' : d'.isPossible = true)
    (hyear : 1 ≤ d.year) (hyear' : 1 ≤ d'.year) (hlt : d.Before d') : d.days < d'.days := by
  obtain ⟨⟨hfirst, hlast⟩, hpos, _⟩ := isPossible_iff.mp h
  obtain ⟨⟨hfirst', hlast'⟩, hpos', _⟩ := isPossible_iff.mp h'
  -- The order is the same in years that begin in March.
  have hmarch : d.marchYear < d'.marchYear ∨ d.marchYear = d'.marchYear ∧
      (d.marchMonth < d'.marchMonth ∨ d.marchMonth = d'.marchMonth ∧ d.day < d'.day) := by
    unfold Before at hlt
    unfold marchYear marchMonth
    split <;> split <;> omega
  have hle := days_le h hyear
  rw [days_eq] at hle ⊢
  rw [days_eq d']
  rcases hmarch with hlt | ⟨heq, hlt | ⟨hmonth, hday⟩⟩
  · have hyears := daysBeforeYear_le (Nat.succ_le_of_lt hlt)
    rw [Nat.succ_eq_add_one] at hyears
    omega
  · have hle' := marchMonth_le h'
    have hnext := daysBeforeMonth_add_day_le h (by omega)
    have hmonths : daysBeforeMonth (d.marchMonth + 1) ≤ daysBeforeMonth d'.marchMonth := by
      unfold daysBeforeMonth
      omega
    rw [heq]
    omega
  · rw [heq, hmonth]
    omega

/-- **Order of dates.** -/
theorem days_lt_iff {d d' : Date} (h : d.isPossible = true) (h' : d'.isPossible = true)
    (hyear : 1 ≤ d.year) (hyear' : 1 ≤ d'.year) : d.days < d'.days ↔ d.Before d' := by
  constructor
  · intro hlt
    by_cases hbefore : d.Before d'
    · exact hbefore
    · by_cases hafter : d'.Before d
      · have hgt := days_lt_of_before h' h hyear' hyear hafter
        omega
      · have heq : d = d' := by
          unfold Before at hbefore hafter
          obtain ⟨year, month, day⟩ := d
          obtain ⟨year', month', day'⟩ := d'
          simp only [mk.injEq]
          dsimp only at hbefore hafter
          omega
        rw [heq] at hlt
        exact absurd hlt (Nat.lt_irrefl _)
  · exact days_lt_of_before h h' hyear hyear'

/-! ## Dates of days -/

/-- A day of an era by its century, the leap day before it and the day from there on. -/
theorem exists_day_of_era {day : Nat} (h : day < 146097) :
    ∃ century leap rest, century ≤ 3 ∧ leap ≤ 24 ∧ rest ≤ 1460 ∧
      day = 36524 * century + 1461 * leap + rest ∧
      (rest = 1460 → leap = 24 → century = 3) := by
  by_cases hlast : day = 146096
  · exact ⟨3, 24, 1460, by omega⟩
  · exact ⟨day / 36524, day % 36524 / 1461, day % 36524 % 1461, by omega⟩

/-- The year of an era that a day lies in. -/
def yearOfEra (day : Nat) : Nat :=
  (day - day / 1460 + day / 36524 - day / 146096) / 365

theorem yearOfEra_eq {century leap rest : Nat} (hcentury : century ≤ 3) (hleap : leap ≤ 24)
    (hrest : rest ≤ 1460) (hend : rest = 1460 → leap = 24 → century = 3) :
    yearOfEra (36524 * century + 1461 * leap + rest) =
      100 * century + 4 * leap + min (rest / 365) 3 := by
  have hlast : (36524 * century + 1461 * leap + rest) / 146096 =
      (36524 * century + 1461 * leap + rest) / 36524 - century := by
    omega
  have hcenturies : century ≤ (36524 * century + 1461 * leap + rest) / 36524 := by
    omega
  unfold yearOfEra
  rw [hlast]
  by_cases hlate : 1460 ≤ 24 * century + leap + rest
  · have hdays : (36524 * century + 1461 * leap + rest) / 1460 = 25 * century + leap + 1 := by
      omega
    rw [hdays]
    omega
  · have hdays : (36524 * century + 1461 * leap + rest) / 1460 = 25 * century + leap := by
      omega
    rw [hdays]
    omega

/-- The day of an era as the day of a year: none is too late, and the last one is a leap day. -/
theorem yearOfEra_spec {day : Nat} (h : day < 146097) :
    yearOfEra day ≤ 399 ∧ daysBeforeYear (yearOfEra day) ≤ day ∧
      (day < daysBeforeYear (yearOfEra day) + 365 ∨
        day = daysBeforeYear (yearOfEra day) + 365 ∧ EndsWithLeapDay (yearOfEra day)) := by
  obtain ⟨century, leap, rest, hcentury, hleap, hrest, hday, hend⟩ := exists_day_of_era h
  rw [hday, yearOfEra_eq hcentury hleap hrest hend]
  unfold daysBeforeYear EndsWithLeapDay
  have hfourth : (100 * century + 4 * leap + min (rest / 365) 3) / 4 = 25 * century + leap := by
    omega
  have hhundredth : (100 * century + 4 * leap + min (rest / 365) 3) / 100 = century := by
    omega
  have hera : (100 * century + 4 * leap + min (rest / 365) 3) / 400 = 0 := by
    omega
  rw [hfourth, hhundredth, hera]
  omega

/-- The date of a day of a month, in a year that begins in March. -/
def ofMarch (year month day : Nat) : Date where
  year := if month < 10 then year else year + 1
  month := if month < 10 then month + 3 else month - 9
  day := day

theorem days_ofMarch {month : Nat} (hmonth : month ≤ 11) (year day : Nat) :
    (ofMarch year month day).days = daysBeforeYear year + daysBeforeMonth month + day := by
  have hyear : (ofMarch year month day).marchYear = year := by
    unfold marchYear ofMarch
    by_cases h : month < 10
    · simp only [if_pos h]
      exact if_neg (by omega)
    · simp only [if_neg h]
      exact if_pos (by omega)
  have hmonth : (ofMarch year month day).marchMonth = month := by
    unfold marchMonth ofMarch
    by_cases h : month < 10
    · simp only [if_pos h]
      exact if_neg (by omega)
    · simp only [if_neg h]
      rw [if_pos (by omega)]
      omega
  rw [days_eq, hyear, hmonth]
  rfl

/-- A day of a year as the day of a month. -/
theorem monthOfYear_spec {day : Nat} (h : day ≤ 365) :
    (5 * day + 2) / 153 ≤ 11 ∧ daysBeforeMonth ((5 * day + 2) / 153) ≤ day ∧
      day < daysBeforeMonth ((5 * day + 2) / 153 + 1) := by
  unfold daysBeforeMonth
  omega

theorem isPossible_ofMarch {year month day : Nat} (hmonth : month ≤ 11) (hpos : 1 ≤ day)
    (hday : daysBeforeMonth month + day ≤ daysBeforeMonth (month + 1))
    (hlast : month = 11 → day ≤ 28 ∨ day = 29 ∧ EndsWithLeapDay year) :
    (ofMarch year month day).isPossible = true := by
  have hcases : month = 0 ∨ month = 1 ∨ month = 2 ∨ month = 3 ∨ month = 4 ∨ month = 5 ∨
      month = 6 ∨ month = 7 ∨ month = 8 ∨ month = 9 ∨ month = 10 ∨ month = 11 := by
    omega
  rw [isPossible_iff]
  unfold ofMarch daysInMonth
  unfold daysBeforeMonth at hday
  by_cases hfebruary : month = 11
  · rw [hfebruary]
    refine ⟨⟨Nat.le_succ 1, Nat.le_add_left 2 10⟩, hpos, ?_⟩
    unfold EndsWithLeapDay at hlast
    show day ≤ if ((year + 1) % 4 = 0 && ((year + 1) % 100 != 0 || (year + 1) % 400 = 0)) = true
      then 29 else 28
    by_cases hleap : ((year + 1) % 4 = 0 &&
        ((year + 1) % 100 != 0 || (year + 1) % 400 = 0)) = true
    · rw [if_pos hleap]
      have hbound := hlast hfebruary
      omega
    · rw [if_neg hleap]
      rcases hlast hfebruary with hshort | ⟨_, hlong⟩
      · exact hshort
      · refine absurd ?_ hleap
        simpa only [Bool.and_eq_true, Bool.or_eq_true, decide_eq_true_eq, bne_iff_ne] using hlong
  · rcases hcases with rfl | rfl | rfl | rfl | rfl | rfl | rfl | rfl | rfl | rfl | rfl | rfl <;>
      first | exact absurd rfl hfebruary | (simp at hday ⊢; omega)

/-- The date of a day by its year, month and day in years that begin in March. -/
theorem ofDays_eq_ofMarch {n : Int} (h : 0 ≤ n + 719468) :
    ∃ year month day, ofDays n = ofMarch year month day ∧ month ≤ 11 ∧ 1 ≤ day ∧
      n + 719469 = (daysBeforeYear year + daysBeforeMonth month + day : Nat) ∧
      daysBeforeMonth month + day ≤ daysBeforeMonth (month + 1) ∧
      (month = 11 → day ≤ 28 ∨ day = 29 ∧ EndsWithLeapDay year) := by
  obtain ⟨era, hera⟩ := Int.eq_ofNat_of_zero_le (Int.ediv_nonneg h (by decide : (0 : Int) ≤ 146097))
  obtain ⟨dayOfEra, hday⟩ := Int.eq_ofNat_of_zero_le
    (Int.emod_nonneg (n + 719468) (by decide : (146097 : Int) ≠ 0))
  have hbound : dayOfEra < 146097 := by omega
  obtain ⟨hyear, hstart, hend⟩ := yearOfEra_spec hbound
  have hlate : dayOfEra - daysBeforeYear (yearOfEra dayOfEra) ≤ 365 := by
    omega
  obtain ⟨hmonth, hfirst, hnext⟩ := monthOfYear_spec hlate
  have hdays : daysBeforeYear (400 * era + yearOfEra dayOfEra) =
      146097 * era + daysBeforeYear (yearOfEra dayOfEra) := by
    unfold daysBeforeYear
    omega
  have hleap : EndsWithLeapDay (yearOfEra dayOfEra) →
      EndsWithLeapDay (400 * era + yearOfEra dayOfEra) := by
    unfold EndsWithLeapDay
    omega
  generalize hyoe : yearOfEra dayOfEra = yoe at *
  generalize hmp : (5 * (dayOfEra - daysBeforeYear yoe) + 2) / 153 = month at *
  refine ⟨400 * era + yoe, month,
    dayOfEra - daysBeforeYear yoe - daysBeforeMonth month + 1, ?_, hmonth, by omega, ?_, by omega,
    ?_⟩
  · have hlong : 365 * yoe + yoe / 4 - yoe / 100 = daysBeforeYear yoe := by
      unfold daysBeforeYear
      omega
    have hyear : ((dayOfEra - dayOfEra / 1460 + dayOfEra / 36524 - dayOfEra / 146096) / 365) = yoe :=
      hyoe
    unfold ofDays ofMarch
    dsimp only
    rw [hera, hday, Int.toNat_natCast, hyear, hlong, hmp]
    rw [mk.injEq]
    refine ⟨?_, rfl, rfl⟩
    by_cases h : month < 10
    · rw [if_pos h, if_pos h, if_neg (by omega)]
      omega
    · rw [if_neg h, if_neg h, if_pos (by omega)]
      omega
  · omega
  · intro hlast
    have hbefore : daysBeforeMonth 11 = 337 := rfl
    rw [hlast, hbefore] at hfirst ⊢
    rcases hend with hshort | ⟨hlong, hend⟩
    · exact .inl (by omega)
    · exact .inr ⟨by omega, hleap hend⟩

/-- **Dates of days.** From the year 1 on, a day has a date that there is and that counts as the
day. -/
theorem days_ofDays {n : Int} (h : -719162 ≤ n) :
    (ofDays n).isPossible = true ∧ 1 ≤ (ofDays n).year ∧ ((ofDays n).days : Int) = n + 719469 := by
  obtain ⟨year, month, day, hdate, hmonth, hpos, hdays, hnext, hlast⟩ :=
    ofDays_eq_ofMarch (by omega : 0 ≤ n + 719468)
  rw [hdate]
  refine ⟨isPossible_ofMarch hmonth hpos hnext hlast, ?_, ?_⟩
  · show 1 ≤ if month < 10 then year else year + 1
    by_cases hearly : month < 10
    · have hzero : daysBeforeYear 0 = 0 := rfl
      have hmonths : daysBeforeMonth (month + 1) ≤ 306 := by
        unfold daysBeforeMonth
        omega
      have hne : year ≠ 0 := by
        rintro rfl
        omega
      rw [if_pos hearly]
      omega
    · rw [if_neg hearly]
      omega
  · rw [days_ofMarch hmonth, hdays]

theorem before_ofDays_iff {m n : Int} (hm : -719162 ≤ m) (hn : -719162 ≤ n) :
    (ofDays m).Before (ofDays n) ↔ m < n := by
  obtain ⟨hpossible, hyear, hdays⟩ := days_ofDays hm
  obtain ⟨hpossible', hyear', hdays'⟩ := days_ofDays hn
  rw [← days_lt_iff hpossible hpossible' hyear hyear']
  omega

theorem ofDays_inj {m n : Int} (hm : -719162 ≤ m) (hn : -719162 ≤ n) :
    ofDays m = ofDays n ↔ m = n := by
  constructor
  · intro h
    have hdays := (days_ofDays hm).2.2
    rw [h, (days_ofDays hn).2.2] at hdays
    omega
  · rintro rfl
    rfl

/-- The days of the years 1000 to 9999, whose numbers have four digits. -/
theorem year_ofDays {n : Int} (hfirst : -354285 ≤ n) (hlast : n ≤ 2932896) :
    1000 ≤ (ofDays n).year ∧ (ofDays n).year ≤ 9999 := by
  obtain ⟨hpossible, hyear, hdays⟩ := days_ofDays (by omega : -719162 ≤ n)
  obtain ⟨⟨_, hmonth⟩, hday, _⟩ := isPossible_iff.mp hpossible
  have hstart : (Date.mk 1000 1 1).days = 365184 := rfl
  have hend : (Date.mk 9999 12 31).days = 3652365 := rfl
  constructor
  · by_cases hbefore : (ofDays n).Before ⟨1000, 1, 1⟩
    · have hlt := (days_lt_iff hpossible (by decide) hyear (by decide)).mpr hbefore
      omega
    · unfold Before at hbefore
      dsimp only at hbefore
      omega
  · by_cases hafter : Date.Before ⟨9999, 12, 31⟩ (ofDays n)
    · have hlt := (days_lt_iff (by decide) hpossible (by decide) hyear).mpr hafter
      omega
    · unfold Before at hafter
      dsimp only at hafter
      omega

end SqlCompiler.Date
