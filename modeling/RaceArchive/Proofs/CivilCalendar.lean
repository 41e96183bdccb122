import Mathlib
import RaceArchive.Time.Civil

/-!
# Day numbers and calendar dates

`daysFromCivil` and `civilFromDays` are inverse to each other between the valid dates of the
proleptic Gregorian calendar and all day numbers. Both count inside a 400-year era of 146097 days
whose years start on 1 March, so that a leap day is the last day of its year. An era splits into
four centuries of 36524 days, the last one a day longer; a century into blocks of four years of
1461 days, the last one a day shorter; a block into years of 365 days, the last one a day longer.
`yearOfEra_of_parts` and `era_parts` are the two halves of that split, and an `EraDate` is a date
given by its parts.

Main statements: `civilFromDays_daysFromCivil`, `daysFromCivil_civilFromDays` and
`civilFromDays_valid` for days; `toUnix_ofUnix` and `ofUnix_toUnix` for instants.
-/

namespace RaceArchive.Civil

theorem ediv_eq_of_remainder {a b q : Int} (r : Int) (hb : 0 < b) (h : r + b * q = a)
    (h0 : 0 ≤ r) (h1 : r < b) : a / b = q :=
  ((Int.ediv_emod_unique hb).2 ⟨h, h0, h1⟩).1

/-! ## Years of an era -/

/-- The days of an era before its year `yoe`. -/
def daysBeforeYear (yoe : Int) : Int := 365 * yoe + yoe / 4 - yoe / 100

/-- The year of an era that holds day `doe` of the era. -/
def yearOfEra (doe : Int) : Int := (doe - doe / 1460 + doe / 36524 - doe / 146096) / 365

/-- `doy` is a day of year `yoe` of an era: a year ending in a leap February has a 366th day. -/
def DayOfYear (yoe doy : Int) : Prop := 0 ≤ doy ∧ (doy ≤ 364 ∨ doy = 365 ∧ isLeap (yoe + 1))

theorem yearOfEra_parts {yoe : Int} (h : 0 ≤ yoe ∧ yoe ≤ 399) :
    ∃ C Q r, (0 ≤ C ∧ C ≤ 3) ∧ (0 ≤ Q ∧ Q ≤ 24) ∧ (0 ≤ r ∧ r ≤ 3) ∧ yoe = 100 * C + 4 * Q + r :=
  ⟨yoe / 100, yoe % 100 / 4, yoe % 4, by omega⟩

section Parts

variable {C Q r : Int} (hC : 0 ≤ C ∧ C ≤ 3) (hQ : 0 ≤ Q ∧ Q ≤ 24) (hr : 0 ≤ r ∧ r ≤ 3)
include hC hQ hr

theorem isLeap_parts : isLeap (100 * C + 4 * Q + r + 1) = true ↔ r = 3 ∧ (Q = 24 → C = 3) := by
  simp only [isLeap, decide_eq_true_eq]
  omega

omit hC in
theorem daysBeforeYear_parts :
    daysBeforeYear (100 * C + 4 * Q + r) = 36524 * C + 1461 * Q + 365 * r := by
  unfold daysBeforeYear
  omega

/-- `yearOfEra` finds the year of a day given by its parts. Only the era's last day has a quotient
by 36524 and by 146096 past the century; the quotient by 1460 goes one past the block exactly in
the late days of its fourth year, where it takes away the day that a leap year adds. -/
theorem yearOfEra_of_parts {doy : Int} (hd : 0 ≤ doy ∧ doy ≤ 365)
    (hleap : doy = 365 → r = 3 ∧ (Q = 24 → C = 3)) :
    yearOfEra (36524 * C + 1461 * Q + 365 * r + doy) = 100 * C + 4 * Q + r := by
  by_cases hend : C = 3 ∧ Q = 24 ∧ r = 3 ∧ doy = 365
  · obtain ⟨rfl, rfl, rfl, rfl⟩ := hend
    decide
  have hc : (36524 * C + 1461 * Q + 365 * r + doy) / 36524 = C :=
    ediv_eq_of_remainder (1461 * Q + 365 * r + doy) (by norm_num) (by ring) (by omega) (by omega)
  have he : (36524 * C + 1461 * Q + 365 * r + doy) / 146096 = 0 :=
    ediv_eq_of_remainder (36524 * C + 1461 * Q + 365 * r + doy) (by norm_num) (by ring) (by omega)
      (by omega)
  have hq : (36524 * C + 1461 * Q + 365 * r + doy) / 1460 = 25 * C + Q ∧ doy ≤ 364 ∨
      (36524 * C + 1461 * Q + 365 * r + doy) / 1460 = 25 * C + Q + 1 ∧ 1 ≤ doy := by
    by_cases ht : 24 * C + Q + 365 * r + doy < 1460
    · exact .inl ⟨ediv_eq_of_remainder (24 * C + Q + 365 * r + doy) (by norm_num) (by ring)
        (by omega) ht, by omega⟩
    · exact .inr ⟨ediv_eq_of_remainder (24 * C + Q + 365 * r + doy - 1460) (by norm_num)
        (by ring) (by omega) (by omega), by omega⟩
  unfold yearOfEra
  rw [hc, he]
  rcases hq with ⟨hq, hd'⟩ | ⟨hq, hd'⟩ <;> rw [hq]
  · exact ediv_eq_of_remainder doy (by norm_num) (by ring) (by omega) (by omega)
  · exact ediv_eq_of_remainder (doy - 1) (by norm_num) (by ring) (by omega) (by omega)

end Parts

theorem era_parts {doe : Int} (h0 : 0 ≤ doe) (h1 : doe ≤ 146096) :
    ∃ C Q r doy, (0 ≤ C ∧ C ≤ 3) ∧ (0 ≤ Q ∧ Q ≤ 24) ∧ (0 ≤ r ∧ r ≤ 3) ∧
      (0 ≤ doy ∧ doy ≤ 365) ∧ (doy = 365 → r = 3 ∧ (Q = 24 → C = 3)) ∧
      doe = 36524 * C + 1461 * Q + 365 * r + doy := by
  -- the era's last day and the last day of a leap fourth year are where the plain remainders
  -- would give a fifth century or a fifth year
  by_cases hend : doe = 146096
  · exact ⟨3, 24, 3, 365, by omega⟩
  by_cases hr : doe % 36524 % 1461 = 1460
  · exact ⟨doe / 36524, doe % 36524 / 1461, 3, 365, by omega⟩
  · exact ⟨doe / 36524, doe % 36524 / 1461, doe % 36524 % 1461 / 365,
      doe % 36524 % 1461 % 365, by omega⟩

theorem yearOfEra_daysBeforeYear {yoe doy : Int} (hyoe : 0 ≤ yoe ∧ yoe ≤ 399)
    (hday : DayOfYear yoe doy) : yearOfEra (daysBeforeYear yoe + doy) = yoe := by
  obtain ⟨C, Q, r, hC, hQ, hr, rfl⟩ := yearOfEra_parts hyoe
  have hleap := isLeap_parts hC hQ hr
  rw [daysBeforeYear_parts hQ hr]
  exact yearOfEra_of_parts hC hQ hr (by unfold DayOfYear at hday; omega)
    (fun h => hleap.1 (by unfold DayOfYear at hday; grind))

theorem dayOfYear_yearOfEra {doe : Int} (h0 : 0 ≤ doe) (h1 : doe ≤ 146096) :
    (0 ≤ yearOfEra doe ∧ yearOfEra doe ≤ 399) ∧
      DayOfYear (yearOfEra doe) (doe - daysBeforeYear (yearOfEra doe)) := by
  obtain ⟨C, Q, r, doy, hC, hQ, hr, hd, hleap, rfl⟩ := era_parts h0 h1
  rw [yearOfEra_of_parts hC hQ hr hd hleap, daysBeforeYear_parts hQ hr]
  refine ⟨by omega, by omega, ?_⟩
  have := isLeap_parts hC hQ hr
  grind [DayOfYear]

theorem daysBeforeYear_add_mem {yoe doy : Int} (hyoe : 0 ≤ yoe ∧ yoe ≤ 399)
    (hday : DayOfYear yoe doy) : 0 ≤ daysBeforeYear yoe + doy ∧ daysBeforeYear yoe + doy ≤ 146096 := by
  obtain ⟨C, Q, r, hC, hQ, hr, rfl⟩ := yearOfEra_parts hyoe
  have hleap := isLeap_parts hC hQ hr
  rw [daysBeforeYear_parts hQ hr]
  unfold DayOfYear at hday
  grind


theorem isLeap_add_400 (y k : Int) : isLeap (y + 400 * k) = isLeap y := by
  simp only [isLeap, decide_eq_decide]
  omega

/-! ## Months of a year -/

/-- The days of a year before its month `mp`, months counted from March. -/
def daysBeforeMonth (mp : Int) : Int := (153 * mp + 2) / 5

/-- The month, counted from March, that holds day `doy` of a year. -/
def monthOfYear (doy : Int) : Int := (5 * doy + 2) / 153

theorem monthOfYear_daysBeforeMonth {mp k : Int} (hmp : 0 ≤ mp ∧ mp ≤ 11) (hk : 0 ≤ k)
    (hk' : k < daysBeforeMonth (mp + 1) - daysBeforeMonth mp) :
    monthOfYear (daysBeforeMonth mp + k) = mp := by
  unfold monthOfYear daysBeforeMonth at *
  obtain ⟨h0, h1⟩ := hmp
  interval_cases mp <;> omega

theorem monthOfYear_mem {doy : Int} (h0 : 0 ≤ doy) (h1 : doy ≤ 365) :
    (0 ≤ monthOfYear doy ∧ monthOfYear doy ≤ 11) ∧ daysBeforeMonth (monthOfYear doy) ≤ doy ∧
      doy < daysBeforeMonth (monthOfYear doy + 1) := by
  unfold monthOfYear daysBeforeMonth
  omega

/-- The month of the count from March that a calendar month is: March is 0 and February 11. -/
def marchMonth (m : Nat) : Int := if m > 2 then m - 3 else m + 9

/-- The calendar month of a month counted from March. -/
def calendarMonth (mp : Int) : Int := if mp < 10 then mp + 3 else mp - 9

/-- The year of the count from March: January and February count with the year before. -/
def marchYear (y : Int) (m : Nat) : Int := if m ≤ 2 then y - 1 else y

theorem daysIn_eq_of_ne_two {m : Nat} (hm : 1 ≤ m ∧ m ≤ 12) (h2 : m ≠ 2) (y : Int) :
    (daysIn m y : Int) = daysBeforeMonth (marchMonth m + 1) - daysBeforeMonth (marchMonth m) := by
  obtain ⟨h0, h1⟩ := hm
  interval_cases m <;> simp [daysIn, daysBeforeMonth, marchMonth] at h2 ⊢

theorem daysFromCivil_eq (y : Int) (m d : Nat) :
    daysFromCivil y m d = marchYear y m / 400 * 146097 +
      (daysBeforeYear (marchYear y m % 400) + (daysBeforeMonth (marchMonth m) + d - 1)) - 719468 := by
  simp only [daysFromCivil, daysBeforeYear, daysBeforeMonth, marchYear, marchMonth, Int.emod_def]
  ring_nf


theorem daysIn_two (y : Int) : daysIn 2 y = if isLeap y then 29 else 28 := rfl

theorem daysIn_le (m : Nat) (y : Int) : daysIn m y ≤ 31 := by
  unfold daysIn
  split
  · split <;> omega
  all_goals omega

theorem marchMonth_mem {m : Nat} (hm : 1 ≤ m ∧ m ≤ 12) : 0 ≤ marchMonth m ∧ marchMonth m ≤ 11 := by
  unfold marchMonth
  split <;> omega

theorem calendarMonth_marchMonth {m : Nat} (hm : 1 ≤ m ∧ m ≤ 12) :
    calendarMonth (marchMonth m) = m := by
  unfold calendarMonth marchMonth
  split <;> split <;> omega

theorem marchMonth_calendarMonth {mp : Int} (hmp : 0 ≤ mp ∧ mp ≤ 11) :
    marchMonth (calendarMonth mp).toNat = mp := by
  unfold calendarMonth marchMonth
  split <;> split <;> omega

/-! ## Dates in the count from March -/

/-- A date as the day count sees it: a 400-year era, a year of the era starting on 1 March, a
month of that year counted from March, and a day of the month. -/
structure EraDate where
  era : Int
  yoe : Int
  mp : Int
  day : Int
  yoe_mem : 0 ≤ yoe ∧ yoe ≤ 399
  mp_mem : 0 ≤ mp ∧ mp ≤ 11
  day_mem : 1 ≤ day ∧ day ≤ daysBeforeMonth (mp + 1) - daysBeforeMonth mp
  dayOfYear : DayOfYear yoe (daysBeforeMonth mp + day - 1)

namespace EraDate

variable (e : EraDate)

/-- The day of the era. -/
def doe : Int := daysBeforeYear e.yoe + (daysBeforeMonth e.mp + e.day - 1)

/-- The day number, counted from 1970-01-01. -/
def dayNumber : Int := e.era * 146097 + e.doe - 719468

/-- The calendar year, month and day. -/
def date : Int × Nat × Nat :=
  (if calendarMonth e.mp ≤ 2 then e.yoe + e.era * 400 + 1 else e.yoe + e.era * 400,
    (calendarMonth e.mp).toNat, e.day.toNat)

theorem doe_mem : 0 ≤ e.doe ∧ e.doe ≤ 146096 := daysBeforeYear_add_mem e.yoe_mem e.dayOfYear

theorem era_eq : (e.dayNumber + 719468) / 146097 = e.era :=
  ediv_eq_of_remainder e.doe (by norm_num) (by unfold dayNumber; ring) e.doe_mem.1
    (by have := e.doe_mem; omega)

theorem era_le_year : e.era * 400 ≤ e.date.1 := by
  have := e.yoe_mem
  simp only [date]
  split <;> omega

/-- `civilFromDays` reads the parts back off the day number. -/
theorem civilFromDays_dayNumber : civilFromDays e.dayNumber = e.date := by
  have hdoe := e.doe_mem
  have hday := e.day_mem
  have hyoe : yearOfEra e.doe = e.yoe := yearOfEra_daysBeforeYear e.yoe_mem e.dayOfYear
  have hrest : e.dayNumber + 719468 - e.era * 146097 = e.doe := by unfold dayNumber; ring
  have hdoy : e.doe - daysBeforeYear e.yoe = daysBeforeMonth e.mp + (e.day - 1) := by
    unfold doe; ring
  have hmp : monthOfYear (daysBeforeMonth e.mp + (e.day - 1)) = e.mp :=
    monthOfYear_daysBeforeMonth e.mp_mem (by omega) (by omega)
  simp only [civilFromDays]
  rw [e.era_eq, hrest, ← yearOfEra.eq_1, hyoe,
    ← daysBeforeYear.eq_1, hdoy, ← monthOfYear.eq_1, hmp, ← daysBeforeMonth.eq_1]
  rw [show daysBeforeMonth e.mp + (e.day - 1) - daysBeforeMonth e.mp + 1 = e.day by ring]
  rfl

theorem exists_dayNumber_eq (z : Int) : ∃ e : EraDate, e.dayNumber = z := by
  have hdoe : 0 ≤ (z + 719468) % 146097 ∧ (z + 719468) % 146097 ≤ 146096 := by omega
  obtain ⟨hyoe, hday⟩ := dayOfYear_yearOfEra hdoe.1 hdoe.2
  set yoe := yearOfEra ((z + 719468) % 146097)
  set doy := (z + 719468) % 146097 - daysBeforeYear yoe
  have hdoy : 0 ≤ doy ∧ doy ≤ 365 := by unfold DayOfYear at hday; omega
  obtain ⟨hmp, hlo, hhi⟩ := monthOfYear_mem hdoy.1 hdoy.2
  refine ⟨⟨(z + 719468) / 146097, yoe, monthOfYear doy, doy - daysBeforeMonth (monthOfYear doy) + 1,
    hyoe, hmp, by omega, by rwa [show daysBeforeMonth (monthOfYear doy) +
      (doy - daysBeforeMonth (monthOfYear doy) + 1) - 1 = doy by ring]⟩, ?_⟩
  simp only [dayNumber, doe]
  omega

/-- The day number of the parts of the date is its day number. -/
theorem daysFromCivil_date : daysFromCivil e.date.1 e.date.2.1 e.date.2.2 = e.dayNumber := by
  have hyoe := e.yoe_mem
  have hday := e.day_mem
  have hm : marchMonth (calendarMonth e.mp).toNat = e.mp := marchMonth_calendarMonth e.mp_mem
  have hy : marchYear e.date.1 e.date.2.1 = e.yoe + e.era * 400 := by
    simp only [date, marchYear]
    unfold calendarMonth
    split <;> split <;> omega
  rw [daysFromCivil_eq, hy, show e.date.2.1 = (calendarMonth e.mp).toNat from rfl, hm,
    show (e.date.2.2 : Int) = e.day by simp only [date]; omega]
  simp only [dayNumber, doe]
  have hera : (e.yoe + e.era * 400) / 400 = e.era :=
    ediv_eq_of_remainder e.yoe (by norm_num) (by ring) hyoe.1 (by omega)
  have hyoe' : (e.yoe + e.era * 400) % 400 = e.yoe := by omega
  rw [hera, hyoe']

/-- Every valid date has parts, whose day number is the date's. -/
theorem exists_date_eq {y : Int} {m d : Nat} (hm : 1 ≤ m ∧ m ≤ 12) (hd : 1 ≤ d ∧ d ≤ daysIn m y) :
    ∃ e : EraDate, e.date = (y, m, d) ∧ e.dayNumber = daysFromCivil y m d := by
  have hmp := marchMonth_mem hm
  -- a day fits before the next month's start, and only 29 February is a 366th day of a year
  have hfit : (d : Int) ≤ daysBeforeMonth (marchMonth m + 1) - daysBeforeMonth (marchMonth m) ∧
      DayOfYear (marchYear y m % 400) (daysBeforeMonth (marchMonth m) + d - 1) := by
    by_cases h2 : m = 2
    · subst h2
      have hleap : d = 29 → isLeap ((y - 1) % 400 + 1) := by
        intro h29
        rw [show (y - 1) % 400 + 1 = y + 400 * (-((y - 1) / 400)) by omega, isLeap_add_400]
        rw [daysIn_two] at hd
        split at hd <;> grind
      have hd29 : d ≤ 29 := by rw [daysIn_two] at hd; split at hd <;> omega
      simp only [marchMonth, marchYear, daysBeforeMonth, DayOfYear]
      norm_num
      refine ⟨by omega, by omega, ?_⟩
      by_cases h29 : d = 29
      · exact .inr ⟨by omega, hleap h29⟩
      · exact .inl (by omega)
    · have hdays := daysIn_eq_of_ne_two hm h2 y
      have hmp' : marchMonth m ≤ 10 := by unfold marchMonth; split <;> omega
      refine ⟨by omega, ?_, .inl ?_⟩ <;> unfold daysBeforeMonth at * <;> omega
  refine ⟨⟨marchYear y m / 400, marchYear y m % 400, marchMonth m, d, by omega, hmp,
    ⟨by omega, hfit.1⟩, hfit.2⟩, ?_, ?_⟩
  · have hyear : marchYear y m % 400 + marchYear y m / 400 * 400 = marchYear y m := by omega
    simp only [date, calendarMonth_marchMonth hm, Int.toNat_natCast, hyear]
    by_cases h : m ≤ 2 <;> simp [marchYear, h]
  · rw [daysFromCivil_eq]
    rfl

/-- The parts make a valid calendar date. -/
theorem date_valid : 1 ≤ e.date.2.1 ∧ e.date.2.1 ≤ 12 ∧ 1 ≤ e.date.2.2 ∧
    e.date.2.2 ≤ daysIn e.date.2.1 e.date.1 := by
  have hmp := e.mp_mem
  have hday := e.day_mem
  have hdoy := e.dayOfYear
  unfold DayOfYear at hdoy
  simp only [date]
  by_cases hfeb : e.mp = 11
  · -- February: its 29th day is the 366th day of a year, so the year is a leap year
    have hcm : calendarMonth e.mp = 2 := by simp [calendarMonth, hfeb]
    have hdb : daysBeforeMonth e.mp = 337 := by simp [daysBeforeMonth, hfeb]
    have hleap : e.day = 29 → isLeap (e.yoe + e.era * 400 + 1) := by
      intro h29
      rw [show e.yoe + e.era * 400 + 1 = e.yoe + 1 + 400 * e.era by ring, isLeap_add_400]
      grind
    rw [hcm, if_pos (by norm_num), show (2 : Int).toNat = 2 from rfl, daysIn_two]
    refine ⟨by omega, by omega, by omega, ?_⟩
    split
    · omega
    · next hnl =>
      have : e.day ≠ 29 := fun h => hnl (hleap h)
      omega
  · -- any other month has the days between its start and the next month's
    have h2 : (calendarMonth e.mp).toNat ≠ 2 := by unfold calendarMonth; split <;> omega
    have hm : 1 ≤ (calendarMonth e.mp).toNat ∧ (calendarMonth e.mp).toNat ≤ 12 := by
      unfold calendarMonth; split <;> omega
    refine ⟨hm.1, hm.2, by omega, ?_⟩
    have hdays := daysIn_eq_of_ne_two hm h2
      (if calendarMonth e.mp ≤ 2 then e.yoe + e.era * 400 + 1 else e.yoe + e.era * 400)
    rw [marchMonth_calendarMonth hmp] at hdays
    omega

end EraDate

/-! ## The two directions -/

/-- Reading back the day number of a valid date gives the date. -/
theorem civilFromDays_daysFromCivil {y : Int} {m d : Nat} (hm : 1 ≤ m ∧ m ≤ 12)
    (hd : 1 ≤ d ∧ d ≤ daysIn m y) : civilFromDays (daysFromCivil y m d) = (y, m, d) := by
  obtain ⟨e, hdate, hday⟩ := EraDate.exists_date_eq hm hd
  rw [← hday, e.civilFromDays_dayNumber, hdate]

/-- The day number of the date of a day number is that day number. -/
theorem daysFromCivil_civilFromDays (z : Int) :
    daysFromCivil (civilFromDays z).1 (civilFromDays z).2.1 (civilFromDays z).2.2 = z := by
  obtain ⟨e, rfl⟩ := EraDate.exists_dayNumber_eq z
  rw [e.civilFromDays_dayNumber]
  exact e.daysFromCivil_date

theorem civilFromDays_valid (z : Int) :
    1 ≤ (civilFromDays z).2.1 ∧ (civilFromDays z).2.1 ≤ 12 ∧ 1 ≤ (civilFromDays z).2.2 ∧
      (civilFromDays z).2.2 ≤ daysIn (civilFromDays z).2.1 (civilFromDays z).1 := by
  obtain ⟨e, rfl⟩ := EraDate.exists_dayNumber_eq z
  rw [e.civilFromDays_dayNumber]
  exact e.date_valid


theorem era_le_civilFromDays_year (z : Int) : (z + 719468) / 146097 * 400 ≤ (civilFromDays z).1 := by
  obtain ⟨e, rfl⟩ := EraDate.exists_dayNumber_eq z
  rw [e.era_eq, e.civilFromDays_dayNumber]
  exact e.era_le_year

theorem le_daysFromCivil {y : Int} {m d : Nat} (hy : 0 ≤ y) (hm : 1 ≤ m) (hd : 1 ≤ d) :
    -719468 - 146097 ≤ daysFromCivil y m d := by
  have hmp : 0 ≤ marchMonth m := by unfold marchMonth; split <;> omega
  have hera : -1 ≤ marchYear y m / 400 := by unfold marchYear; split <;> omega
  have hyoe : 0 ≤ daysBeforeYear (marchYear y m % 400) := by unfold daysBeforeYear; omega
  have hdays : 0 ≤ daysBeforeMonth (marchMonth m) := by unfold daysBeforeMonth; omega
  rw [daysFromCivil_eq]
  omega

/-! ## Instants -/

theorem ofUnix_eq (s : Int) : ofUnix s =
    ⟨(civilFromDays (shownInstant s / 86400)).1, (civilFromDays (shownInstant s / 86400)).2.1,
      (civilFromDays (shownInstant s / 86400)).2.2, (shownInstant s % 86400).toNat / 3600,
      (shownInstant s % 86400).toNat / 60 % 60, (shownInstant s % 86400).toNat % 60⟩ := by
  unfold ofUnix
  rfl

theorem shownInstant_of_le {s : Int} (h : -earliestToUnix ≤ s) : shownInstant s = s := by
  simp only [shownInstant]
  rw [if_neg (by omega)]

/-- Within 64 bits, an instant shown with a year up to 9999 is shown as itself: one that wraps
is shown some 292 billion years on. -/
theorem shownInstant_of_year_le {s : Int} (hs : -Nat.pow 2 63 ≤ s) (hy : (ofUnix s).year ≤ 9999) :
    shownInstant s = s := by
  by_contra hne
  have hwrap : s < -earliestToUnix := by
    by_contra hlt
    exact hne (shownInstant_of_le (by omega))
  have hshown : shownInstant s = s + Nat.pow 2 64 := if_pos hwrap
  have hera := era_le_civilFromDays_year (shownInstant s / 86400)
  rw [ofUnix_eq] at hy
  simp only [hshown, earliestToUnix, Nat.pow_eq] at *
  omega

theorem ofUnix_valid (s : Int) :
    (1 ≤ (ofUnix s).month ∧ (ofUnix s).month ≤ 12) ∧
      (1 ≤ (ofUnix s).day ∧ (ofUnix s).day ≤ daysIn (ofUnix s).month (ofUnix s).year) ∧
      (ofUnix s).hour < 24 ∧ (ofUnix s).minute < 60 ∧ (ofUnix s).second < 60 := by
  have hv := civilFromDays_valid (shownInstant s / 86400)
  rw [ofUnix_eq]
  dsimp only
  exact ⟨⟨hv.1, hv.2.1⟩, ⟨hv.2.2.1, hv.2.2.2⟩, by omega, by omega, by omega⟩

/-- The date and time shown for an instant that is shown as itself give the instant back. -/
theorem toUnix_ofUnix {s : Int} (h : shownInstant s = s) : (ofUnix s).toUnix = s := by
  rw [ofUnix_eq, h]
  simp only [DateTime.toUnix]
  rw [daysFromCivil_civilFromDays]
  omega

/-- A valid date and time from the year 0 on is shown for its own instant. -/
theorem ofUnix_toUnix {t : DateTime} (hy : 0 ≤ t.year) (hm : 1 ≤ t.month ∧ t.month ≤ 12)
    (hd : 1 ≤ t.day ∧ t.day ≤ daysIn t.month t.year) (hh : t.hour < 24) (hmin : t.minute < 60)
    (hsec : t.second < 60) : ofUnix t.toUnix = t := by
  obtain ⟨y, m, d, h, mi, se⟩ := t
  dsimp only at *
  have hlow := le_daysFromCivil hy hm.1 hd.1
  have hshown : shownInstant (DateTime.toUnix ⟨y, m, d, h, mi, se⟩) =
      DateTime.toUnix ⟨y, m, d, h, mi, se⟩ :=
    shownInstant_of_le (by simp only [DateTime.toUnix, earliestToUnix]; omega)
  have hdays : DateTime.toUnix ⟨y, m, d, h, mi, se⟩ / 86400 = daysFromCivil y m d :=
    ediv_eq_of_remainder (h * 3600 + mi * 60 + se) (by norm_num)
      (by simp only [DateTime.toUnix]; ring) (by omega) (by omega)
  have hrest : DateTime.toUnix ⟨y, m, d, h, mi, se⟩ % 86400 = h * 3600 + mi * 60 + se := by
    simp only [DateTime.toUnix]; omega
  rw [ofUnix_eq, hshown, hdays, hrest, civilFromDays_daysFromCivil hm hd]
  simp only [DateTime.mk.injEq, true_and]
  omega

end RaceArchive.Civil
